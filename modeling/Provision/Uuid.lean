import Provision.Text.Hex

namespace Provision

/-- A universally unique identifier, by its 32 hexadecimal digits. -/
structure Uuid where
  digits : List (Fin 16)
  length_digits : digits.length = 32
deriving DecidableEq

namespace Uuid

def toNat (id : Uuid) : Nat := id.digits.foldl (fun value digit => value * 16 + digit.val) 0

def groupLengths : List Nat := [8, 4, 4, 4, 12]

/-- The identifier of hexadecimal digits, if there are 32 of them. -/
def ofDigits? (digits : List (Fin 16)) : Option Uuid :=
  if h : digits.length = 32 then some ⟨digits, h⟩ else none

def plain? (text : List Char) : Option Uuid := (text.mapM Text.Hex.value?).bind ofDigits?

/-- Read digits in the given groups with a hyphen between two groups. -/
def grouped? : List Nat → List Char → Option (List Char)
  | [], text => if text.isEmpty then some [] else none
  | [n], text => if text.length = n then some text else none
  | n :: m :: lengths, text =>
    if n < text.length && text[n]? == some '-' then
      (grouped? (m :: lengths) (text.drop (n + 1))).map (text.take n ++ ·)
    else none

def hyphenated? (text : List Char) : Option Uuid := (grouped? groupLengths text).bind plain?

inductive Wrapping where
  | bare
  | braces
  | urn
deriving DecidableEq

def Wrapping.offset : Wrapping → Nat
  | .bare => 0
  | .braces => 1
  | .urn => 9

def urnStart : List Char := ['u', 'r', 'n', ':', 'u', 'u', 'i', 'd', ':']

def unwrap (text : List Char) : Wrapping × List Char :=
  match text with
  | [] => (.bare, text)
  | first :: rest =>
    if first = '\x7b' && rest.getLast? == some '\x7d' then (.braces, rest.dropLast)
    else if (text.take 9).map Char.toLower = urnStart then (.urn, text.drop 9)
    else (.bare, text)

/-- Read an identifier in any of its forms. Only bare digits may stand without hyphens. -/
def ofChars? (text : List Char) : Option Uuid :=
  match unwrap text with
  | (.bare, digits) => (plain? digits).or (hyphenated? digits)
  | (_, digits) => hyphenated? digits

def ofString? (text : String) : Option Uuid := ofChars? text.toList

def toChars (id : Uuid) : List Char :=
  let text := id.digits.map Text.Hex.lowerDigit
  text.take 8 ++ '-' :: (text.drop 8).take 4 ++ '-' :: (text.drop 12).take 4 ++
    '-' :: (text.drop 16).take 4 ++ '-' :: text.drop 20

def toString (id : Uuid) : String := String.ofList id.toChars

instance : ToString Uuid := ⟨toString⟩

inductive Malformed where
  /-- A character that no form holds, and its offset in UTF-8. -/
  | badCharacter (found : Char) (offset : Nat)
  | badLength (found : Nat)
  | badGroupCount (found : Nat)
  | badGroupLength (group expected found : Nat)
deriving DecidableEq, Repr

def Malformed.message : Malformed → String
  | .badCharacter found offset => s!"invalid character: found `{found}` at {offset}"
  | .badLength found => s!"invalid length: found {found}"
  | .badGroupCount found => s!"invalid group count: expected 5, found {found}"
  | .badGroupLength group expected found =>
    s!"invalid group length in group {group}: expected {expected}, found {found}"

def byteLength (text : List Char) : Nat := (String.ofList text).utf8ByteSize

/-- The first character that is neither a digit nor a hyphen, and its offset. -/
def firstForeign? (offset : Nat) : List Char → Option (Char × Nat)
  | [] => none
  | c :: text =>
    if c = '-' || (Text.Hex.value? c).isSome then firstForeign? (offset + c.utf8Size) text
    else some (c, offset)

def runLengths (run : Nat) : List Char → List Nat
  | [] => [run]
  | c :: text => if c = '-' then run :: runLengths 0 text else runLengths (run + 1) text

/-- The first of the given groups that has another length than the form asks for. -/
def wrongGroup? (group : Nat) : List Nat → List Nat → Option Malformed
  | expected :: groups, found :: runs =>
    if expected = found then wrongGroup? (group + 1) groups runs
    else some (.badGroupLength group expected found)
  | _, _ => none

def hyphenatedLength : Nat := 36

def longestForm : Nat := 45

/-- The text that stands where the form with hyphens would, if it is as long as that form: the whole
text, or what is in braces or after the start of a URN. -/
def framed? (text : List Char) : Option (List Char) :=
  let inner := (unwrap text).2
  if byteLength text = hyphenatedLength then some text
  else if byteLength inner = hyphenatedLength then some inner
  else none

/-- Why a text is not in the form with hyphens: a foreign character, else the number of groups, else
the first group of a wrong length. The last group is counted to the end of a text of the length that
is given. -/
def diagnoseGroups (offset length : Nat) (text : List Char) : Malformed :=
  match firstForeign? offset text with
  | some (c, offset) => .badCharacter c offset
  | none =>
    let runs := runLengths 0 text
    if runs.length ≠ 5 then .badGroupCount runs.length
    else (wrongGroup? 0 (groupLengths.take 4) runs).getD (.badGroupLength 4 12 (length - 24))

/-- Why a text that was refused is no identifier. A text that could be in the form with hyphens is
judged by that form alone; one longer than any form, and bare digits, by their length; any other by
the groups in it. -/
def diagnose (text : List Char) : Malformed :=
  match framed? text with
  | some inner => diagnoseGroups 0 inner.length inner
  | none =>
    let (wrapping, inner) := unwrap text
    let isDigits := wrapping = .bare && inner.all fun c => (Text.Hex.value? c).isSome
    if byteLength text > longestForm || isDigits then .badLength (byteLength text)
    else diagnoseGroups wrapping.offset text.length inner

end Uuid

end Provision
