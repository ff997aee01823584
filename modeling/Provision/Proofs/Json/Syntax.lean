import Provision.Json.Scan

/-!
JSON texts by their grammar. A tree of syntax holds all that stands in a text, its blanks and
spellings too, and every tree is the tree of some text. The outline is what a reader makes of it.
-/
namespace Provision.Json.Syntax

inductive Blank where
  | space
  | tab
  | lineFeed
  | carriageReturn
deriving DecidableEq

def Blank.byte : Blank → UInt8
  | space => 0x20
  | tab => 0x09
  | lineFeed => 0x0A
  | carriageReturn => 0x0D

abbrev Blanks := List Blank

def Blanks.bytes (blanks : Blanks) : List UInt8 := blanks.map Blank.byte

structure HexDigit where
  byte : UInt8
  value : Fin 16
  reads : Text.Hex.value? (Char.ofNat byte.toNat) = some value

/-- A 16-bit unit of a string, by its four digits. -/
structure CodeUnit where
  first : HexDigit
  second : HexDigit
  third : HexDigit
  fourth : HexDigit

namespace CodeUnit

def value (unit : CodeUnit) : Nat :=
  ((unit.first.value.val * 16 + unit.second.value.val) * 16 + unit.third.value.val) * 16 +
    unit.fourth.value.val

def bytes (unit : CodeUnit) : List UInt8 :=
  [unit.first.byte, unit.second.byte, unit.third.byte, unit.fourth.byte]

end CodeUnit

inductive Mark where
  | quote
  | backslash
  | slash
  | backspace
  | formFeed
  | lineFeed
  | carriageReturn
  | tab
deriving DecidableEq

def Mark.byte : Mark → UInt8
  | quote => 0x22
  | backslash => 0x5C
  | slash => 0x2F
  | backspace => 0x62
  | formFeed => 0x66
  | lineFeed => 0x6E
  | carriageReturn => 0x72
  | tab => 0x74

def Mark.char : Mark → Char
  | quote => '"'
  | backslash => '\\'
  | slash => '/'
  | backspace => Char.ofNat 8
  | formFeed => Char.ofNat 12
  | lineFeed => '\n'
  | carriageReturn => '\r'
  | tab => '\t'

def IsPlain (c : Char) : Prop := 0x20 ≤ c.toNat ∧ c ≠ '"' ∧ c ≠ '\\'

instance (c : Char) : Decidable (IsPlain c) := inferInstanceAs (Decidable (_ ∧ _ ∧ _))

/-- A part of a string that is not cut any more. -/
inductive Glyph where
  | plain (c : Char) (visible : IsPlain c)
  | mark (letter : Mark)
  | unit (code : CodeUnit)

def Glyph.bytes : Glyph → List UInt8
  | plain c _ => String.utf8EncodeChar c
  | mark letter => [0x5C, letter.byte]
  | unit code => 0x5C :: 0x75 :: code.bytes

abbrev Literal := List Glyph

namespace Literal

def bytes (text : Literal) : List UInt8 := text.flatMap Glyph.bytes

/-- The characters that a string stands for, after an upper half that is pending. That goes with a
lower half right after it; a half by itself stands for none. -/
def resolveAfter (pending : Option Nat) : Literal → Except Fault (List Char)
  | [] => if pending.isSome then .error .surrogateCut else .ok []
  | .plain c _ :: text =>
    if pending.isSome then .error .surrogateCut else (resolveAfter none text).map (c :: ·)
  | .mark letter :: text =>
    if pending.isSome then .error .surrogateCut else (resolveAfter none text).map (letter.char :: ·)
  | .unit code :: text =>
    match pending with
    | some upper =>
      if isLowerHalf code.value then
        (resolveAfter none text).map (joinHalves upper code.value :: ·)
      else .error .loneSurrogate
    | none =>
      if isLowerHalf code.value then .error .loneSurrogate
      else if isUpperHalf code.value then resolveAfter (some code.value) text
      else (resolveAfter none text).map (Char.ofNat code.value :: ·)

def resolve (literal : Literal) : Except Fault (List Char) := literal.resolveAfter none

def Spells (literal : Literal) (text : String) : Prop :=
  literal.resolve = .ok text.toList

/-- What readers get of a string; one who skips it always can. -/
def quotation (literal : Literal) : Quotation where
  content := literal.resolve.map String.ofList
  fatal := none

end Literal

structure Digits where
  bytes : List UInt8
  nonempty : bytes ≠ []
  isDigit : ∀ b ∈ bytes, isDigit b = true

inductive Sign where
  | none
  | plus
  | minus
deriving DecidableEq

def Sign.bytes : Sign → List UInt8
  | none => []
  | plus => [0x2B]
  | minus => [0x2D]

structure Exponent where
  capital : Bool
  sign : Sign
  digits : Digits

def Exponent.bytes (exponent : Exponent) : List UInt8 :=
  (if exponent.capital then 0x45 else 0x65) :: (exponent.sign.bytes ++ exponent.digits.bytes)

/-- Whether an exponent is negative, and its digits. -/
def Exponent.parts (exponent : Exponent) : Bool × List UInt8 :=
  (exponent.sign = Sign.minus, exponent.digits.bytes)

structure Figure where
  negative : Bool
  whole : Digits
  /-- Only zero itself begins with a zero. -/
  unpadded : whole.bytes.head? = some 0x30 → whole.bytes.tail = []
  fraction : Option Digits
  exponent : Option Exponent

namespace Figure

def fractionBytes : Option Digits → List UInt8
  | none => []
  | some digits => 0x2E :: digits.bytes

def exponentBytes : Option Exponent → List UInt8
  | none => []
  | some exponent => exponent.bytes

def unsignedBytes (figure : Figure) : List UInt8 :=
  figure.whole.bytes ++ (fractionBytes figure.fraction ++ exponentBytes figure.exponent)

def bytes (figure : Figure) : List UInt8 :=
  if figure.negative then 0x2D :: figure.unsignedBytes else figure.unsignedBytes

def numeral (figure : Figure) : Numeral where
  negative := figure.negative
  whole := figure.whole.bytes
  fraction := figure.fraction.map Digits.bytes
  exponent := figure.exponent.map Exponent.parts

end Figure

mutual

/-- A value. In an empty list or object there may be blanks; before items and members there are
their own. -/
inductive Value where
  | null
  | bool (value : Bool)
  | number (figure : Figure)
  | string (literal : Literal)
  | list (inside : Blanks) (items : List Doc)
  | object (inside : Blanks) (members : List Member)

inductive Doc where
  | mk (before : Blanks) (value : Value) (after : Blanks)

inductive Member where
  | mk (before : Blanks) (key : Literal) (after : Blanks) (value : Doc)

end

/-- What parts two items or members: nothing stands before the first. -/
def comma (first : Bool) : List UInt8 := if first then [] else [0x2C]

mutual

def Value.bytes : Value → List UInt8
  | .null => [0x6E, 0x75, 0x6C, 0x6C]
  | .bool true => [0x74, 0x72, 0x75, 0x65]
  | .bool false => [0x66, 0x61, 0x6C, 0x73, 0x65]
  | .number figure => figure.bytes
  | .string literal => 0x22 :: (literal.bytes ++ [0x22])
  | .list inside items => 0x5B :: (inside.bytes ++ (itemsBytes true items ++ [0x5D]))
  | .object inside members => 0x7B :: (inside.bytes ++ (membersBytes true members ++ [0x7D]))

def Doc.bytes : Doc → List UInt8
  | .mk before value after => before.bytes ++ (value.bytes ++ after.bytes)

def itemsBytes (first : Bool) : List Doc → List UInt8
  | [] => []
  | item :: items => comma first ++ (item.bytes ++ itemsBytes false items)

def Member.bytes : Member → List UInt8
  | .mk before key after value =>
    before.bytes ++ (0x22 :: (key.bytes ++ (0x22 :: (after.bytes ++ (0x3A :: value.bytes)))))

def membersBytes (first : Bool) : List Member → List UInt8
  | [] => []
  | member :: members => comma first ++ (member.bytes ++ membersBytes false members)

end

mutual

def Value.outline : Value → Outline
  | .null => .null
  | .bool value => .bool value
  | .number figure => .number figure.numeral.value
  | .string literal => .string literal.quotation
  | .list _ items => .list (itemsOutline items) .closed
  | .object _ members => .object (membersOutline members) .closed

def Doc.outline : Doc → Outline
  | .mk _ value _ => value.outline

def itemsOutline : List Doc → List Outline
  | [] => []
  | item :: items => item.outline :: itemsOutline items

def Member.outline : Member → Quotation × Outline
  | .mk _ key _ value => (key.quotation, value.outline)

def membersOutline : List Member → List (Quotation × Outline)
  | [] => []
  | member :: members => member.outline :: membersOutline members

end

mutual

def Value.bare : Value → Value
  | .list _ items => .list [] (bareItems items)
  | .object _ members => .object [] (bareMembers members)
  | other => other

def Doc.bare : Doc → Doc
  | .mk _ value _ => .mk [] value.bare []

def bareItems : List Doc → List Doc
  | [] => []
  | item :: items => item.bare :: bareItems items

def Member.bare : Member → Member
  | .mk _ key _ value => .mk [] key [] value.bare

def bareMembers : List Member → List Member
  | [] => []
  | member :: members => member.bare :: bareMembers members

end

end Provision.Json.Syntax
