import Provision.Unicode.CombiningClass
import Provision.Unicode.Composite

/-!
The composed form of a text, by which two texts are compared that look and mean the same: marks of
different classes are in the order of their classes, and no character is followed by one that it
makes a composite with. A text is first taken apart, so that neither the composites in it nor the
order of its marks show in the result. Characters that are but another code point for a character
are left as they are.
-/
namespace Provision.Unicode

/-- The characters that a character is made of. A composite is made in at most three steps. -/
def decompose : Nat → Char → List Char
  | 0, c => [c]
  | steps + 1, c =>
    match parts? c with
    | some (first, second) => decompose steps first ++ [second]
    | none => [c]

/-- Put a character in front of a text, but after the marks of lower classes than its own. -/
def insertMark (c : Char) : List Char → List Char
  | [] => [c]
  | d :: text =>
    if combiningClass d ≠ 0 && combiningClass d < combiningClass c then d :: insertMark c text
    else c :: d :: text

/-- The text with the marks of each character in the order of their classes. -/
def orderMarks (text : List Char) : List Char := text.foldr insertMark []

/-- Whether a mark that was kept stands between a character and what it would join. -/
def isBlocked (kept : List Char) (c : Char) : Bool :=
  kept.head?.any fun mark => combiningClass c ≤ combiningClass mark

/-- Join a character with what follows it. The marks that could not be joined are kept, the last one
first. -/
def composeFrom (start : Char) (kept : List Char) : List Char → List Char
  | [] => start :: kept.reverse
  | c :: text =>
    match if isBlocked kept c then none else composite? start c with
    | some whole => composeFrom whole kept text
    | none =>
      if combiningClass c = 0 then start :: kept.reverse ++ composeFrom c [] text
      else composeFrom start (c :: kept) text

/-- Join the characters of a text. Marks in front of the first other character stay as they are. -/
def compose : List Char → List Char
  | [] => []
  | c :: text => if combiningClass c = 0 then composeFrom c [] text else c :: compose text

/-- The composed form of a text. A text in ASCII is its own. -/
def composed (text : List Char) : List Char :=
  if text.all fun c => c.toNat < 0x80 then text
  else compose (orderMarks (text.flatMap (decompose 3)))

end Provision.Unicode
