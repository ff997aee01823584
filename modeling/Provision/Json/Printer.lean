import Provision.Decimal.Shortest
import Provision.Json.Basic
import Provision.Text.Hex

namespace Provision.Json

def escapeChar (c : Char) : List Char :=
  if c = '"' then ['\\', '"']
  else if c = '\\' then ['\\', '\\']
  else if c.toNat = 8 then ['\\', 'b']
  else if c.toNat = 9 then ['\\', 't']
  else if c.toNat = 10 then ['\\', 'n']
  else if c.toNat = 12 then ['\\', 'f']
  else if c.toNat = 13 then ['\\', 'r']
  else if h : c.toNat < 32 then
    ['\\', 'u', '0', '0', Text.Hex.lowerDigit ⟨c.toNat / 16, by omega⟩,
      Text.Hex.lowerDigit ⟨c.toNat % 16, by omega⟩]
  else [c]

def renderString (text : String) : List Char :=
  '"' :: (text.toList.flatMap escapeChar ++ ['"'])

/-- A number. Infinities and NaN have no JSON text and are shown as `null`. -/
def Number.render : Number → List Char
  | .integer value =>
    if value < 0 then '-' :: Nat.toDigits 10 value.natAbs else Nat.toDigits 10 value.natAbs
  | .float value =>
    if value.isFinite then Decimal.render value else ['n', 'u', 'l', 'l']

mutual

def render : Json → List Char
  | .null => ['n', 'u', 'l', 'l']
  | .bool true => ['t', 'r', 'u', 'e']
  | .bool false => ['f', 'a', 'l', 's', 'e']
  | .number value => value.render
  | .string text => renderString text
  | .list [] => ['[', ']']
  | .list (item :: items) => '[' :: (render item ++ (renderItems items ++ [']']))
  | .object [] => ['\x7b', '\x7d']
  | .object (member :: members) =>
    '\x7b' :: (renderMember member ++ (renderMembers members ++ ['\x7d']))

def renderItems : List Json → List Char
  | [] => []
  | item :: items => ',' :: (render item ++ renderItems items)

def renderMember : String × Json → List Char
  | (key, value) => renderString key ++ (':' :: render value)

def renderMembers : List (String × Json) → List Char
  | [] => []
  | member :: members => ',' :: (renderMember member ++ renderMembers members)

end

def print (value : Json) : String := String.ofList value.render

end Provision.Json
