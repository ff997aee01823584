import Provision.Unicode.CombiningClass
import Provision.Unicode.Composition
import Provision.Unicode.Direction
import Provision.Unicode.Joining
import Provision.Url.DomainMapping
import Provision.Url.Percent
import Provision.Url.Punycode

/-!
Labels of domain names, which stand between the dots. A label beyond ASCII is written in Punycode;
its characters follow rules on marks, on joiners, and on the direction of writing.
-/
namespace Provision.Url

def isForbiddenInDomain (c : Char) : Bool :=
  isControl c || [' ', '#', '%', '/', ':', '<', '>', '?', '@', '[', '\\', ']', '^', '|'].contains c

/-- The joiner that keeps letters apart. -/
def nonJoiner : Char := Char.ofNat 0x200C

/-- The joiner that brings letters together. -/
def joiner : Char := Char.ofNat 0x200D

/-- Whether the letters on both sides of a place join across it. What is before the place is given
from the place backwards. -/
def joinAcross (before after : List Char) : Bool :=
  (before.find? fun c => !Unicode.isTransparent c).any Unicode.joinsNext &&
    (after.find? fun c => !Unicode.isTransparent c).any Unicode.joinsPrevious

/-- Whether every joiner has a use: each may stand after a virama, and the one that keeps letters
apart also where letters would join. -/
def joinersHaveUse (before : List Char) : List Char → Bool
  | [] => true
  | c :: after =>
    (c != nonJoiner && c != joiner || before.head?.any Unicode.isVirama ||
      c == nonJoiner && joinAcross before after) && joinersHaveUse (c :: before) after

def isWellFormedLabel (label : List Char) : Bool :=
  !label.any isForbiddenInDomain && !label.head?.any Unicode.isMark && joinersHaveUse [] label

/-- Whether a label keeps its order beside characters that are written from right to left. It
starts with a letter and ends, but for marks, with a letter or a digit; a label from left to right
has no letter or digit of the other direction, and one from right to left has no letter of the other
direction and not two kinds of digits. -/
def keepsDirection (label : List Char) : Bool :=
  match label.map Unicode.direction with
  | [] => true
  | start :: rest =>
    let body := (rest.reverse.dropWhile (· == .mark)).reverse
    match start with
    | .leftToRight =>
      body.getLast?.all (fun d => d == .leftToRight || d == .europeanNumber) &&
        body.all fun d => d != .rightToLeft && d != .arabicNumber
    | .rightToLeft =>
      body.getLast?.all (fun d => d == .rightToLeft || d == .europeanNumber || d == .arabicNumber) &&
        body.all (· != .leftToRight) &&
        !(body.contains .europeanNumber && body.contains .arabicNumber)
    | _ => false

/-- A label of a domain name: what it means, and how it is written in ASCII. -/
structure Label where
  characters : List Char
  ascii : List Char
deriving DecidableEq, Repr

namespace Label

def punycodeStart : List Char := ['x', 'n', '-', '-']

def longest : Nat := 1000

/-- The most characters that a label in Punycode has after its start. -/
def longestPunycode : Nat := 2000

/-- The label that a mapped and composed text beyond ASCII gives. -/
def ofCharacters? (text : List Char) : Option Label :=
  if text.take 4 ≠ punycodeStart && text.length ≤ longest && isWellFormedLabel text then
    some ⟨text, punycodeStart ++ Punycode.encode text⟩
  else none

/-- The label of a text in Punycode. It must stand for what a mapped and composed text could be. -/
def ofPunycode? (text : List Char) : Option Label := do
  let code := text.drop 4
  if code.isEmpty || code.getLast? = some '-' || code.length > longestPunycode then none
  else
    let characters ← Punycode.decode? code
    if characters.all isMapped && Unicode.composed characters = characters &&
        isWellFormedLabel characters then
      some ⟨characters, text⟩
    else none

def ofMapped? (text : List Char) : Option Label :=
  if text.any fun c => c.toNat ≥ 0x80 then ofCharacters? text
  else if text.any isForbiddenInDomain then none
  else if text.take 4 = punycodeStart then ofPunycode? text
  else some ⟨text, text⟩

end Label

end Provision.Url
