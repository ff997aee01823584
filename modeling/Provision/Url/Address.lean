import Provision.Text.Hex
import Provision.Text.Split

namespace Provision.Url

def digitsValue (base : Nat) (digits : List (Fin 16)) : Nat :=
  digits.foldl (fun value digit => value * base + digit.val) 0

/-- A number of an IPv4 address: decimal, octal after `0`, or hexadecimal after `0x`. -/
def ipv4Number? (text : List Char) : Option Nat :=
  let read := fun (base : Nat) (digits : List Char) =>
    match digits.mapM Text.Hex.value? with
    | some values =>
      if values.all fun value => value.val < base then some (digitsValue base values) else none
    | none => none
  match text with
  | [] => none
  | '0' :: x :: digits => if x = 'x' || x = 'X' then read 16 digits else read 8 (x :: digits)
  | digits => read 10 digits

/-- Whether the last part of a host name makes it an IPv4 address or nothing. -/
def endsInNumber (name : List Char) : Bool :=
  let last := match (Text.split (· == '.') name).reverse with
    | [] :: last :: _ => last
    | [] :: [] => []
    | last :: _ => last
    | [] => []
  (!last.isEmpty && last.all Char.isDigit) || (ipv4Number? last).isSome

/-- An IPv4 address: up to four numbers, the last of which fills the remaining bytes. -/
def ipv4? (text : List Char) : Option Nat := do
  let parts := Text.split (· == '.') text
  let parts := if parts.getLast? == some [] then parts.dropLast else parts
  if parts.length > 4 then none
  let numbers ← parts.mapM ipv4Number?
  let last ← numbers.getLast?
  let leading := numbers.dropLast
  if last < Nat.pow 256 (4 - leading.length) && leading.all (· < 256) then
    return leading.zipIdx.foldr (fun (n, i) rest => n * Nat.pow 256 (3 - i) + rest) last
  else none

def ipv4Text (address : Nat) : List Char :=
  Text.join ['.'] ([3, 2, 1, 0].map fun i => Nat.toDigits 10 (address / Nat.pow 256 i % 256))

/-- A decimal byte without leading zeros. -/
def byte? (text : List Char) : Option Nat :=
  let value := text.foldl (fun value d => value * 10 + (d.toNat - 48)) 0
  let padded := text.length > 1 && text.head? == some '0'
  if text.isEmpty || !text.all Char.isDigit || value > 255 || padded then none else some value

/-- A piece of an IPv6 address: up to four hexadecimal digits. -/
def ipv6Piece? (text : List Char) : Option (List Nat) :=
  if text.isEmpty || text.length > 4 then none
  else (text.mapM Text.Hex.value?).map fun values => [digitsValue 16 values]

/-- The two pieces of an IPv6 address that an IPv4 address stands for. -/
def ipv6Tail? (text : List Char) : Option (List Nat) := do
  match ← (Text.split (· == '.') text).mapM byte? with
  | [a, b, c, d] => some [a * 256 + b, c * 256 + d]
  | _ => none

/-- The pieces between colons; the last ones may be an IPv4 address if the whole address ends
here. -/
def ipv6Pieces? (final : Bool) (text : List Char) : Option (List Nat) :=
  if text.isEmpty then some []
  else
    let groups := Text.split (· == ':') text
    match groups.reverse with
    | [] => none
    | last :: before => do
      let front ← before.reverse.mapM ipv6Piece?
      let back ← if final && last.contains '.' then ipv6Tail? last else ipv6Piece? last
      return front.flatten ++ back

/-- A text cut at its first pair of colons. -/
def cutAtColons : List Char → Option (List Char × List Char)
  | ':' :: ':' :: rest => some ([], rest)
  | c :: rest => (cutAtColons rest).map fun (before, after) => (c :: before, after)
  | [] => none

/-- An IPv6 address as eight pieces of 16 bits. A pair of colons stands for the missing zeros, of
which there is one at least. -/
def ipv6? (text : List Char) : Option (List Nat) := do
  match cutAtColons text with
  | none =>
    if text.isEmpty then none
    let pieces ← ipv6Pieces? true text
    if pieces.length = 8 then some pieces else none
  | some (before, after) =>
    let front ← ipv6Pieces? false before
    let back ← ipv6Pieces? true after
    if front.length + back.length ≤ 7 then
      some (front ++ List.replicate (8 - front.length - back.length) 0 ++ back)
    else none

/-- The length of the run of zeros that a list starts with. -/
def zeroRun (pieces : List Nat) : Nat := (pieces.takeWhile (· == 0)).length

/-- The first of the longest runs of two zeros or more: where it starts, and its length. -/
def longestZeros (pieces : List Nat) : Option (Nat × Nat) :=
  (List.range pieces.length).foldl (fun best start =>
    let length := zeroRun (pieces.drop start)
    if length > (best.map Prod.snd).getD 1 then some (start, length) else best) none

def ipv6Text (pieces : List Nat) : List Char :=
  let text := fun (part : List Nat) => Text.join [':'] (part.map (Text.Hex.digits 4))
  match longestZeros pieces with
  | none => text pieces
  | some (start, length) =>
    text (pieces.take start) ++ [':', ':'] ++ text (pieces.drop (start + length))

end Provision.Url
