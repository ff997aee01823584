import Provision.Text.Hex
import Provision.Text.Split

/-!
Sets of characters. A set is written as ranges of code points in hexadecimal: "5F 61-7A" holds the
low line and the small letters of ASCII.
-/
namespace Provision.Unicode

/-- A set of characters, by the first and the last code point of each range. -/
structure CharSet where
  ranges : Array (Nat × Nat)

namespace CharSet

/-- A range as it is written: one code point, or two with a hyphen between them. -/
def range? (word : List Char) : Option (Nat × Nat) :=
  match Text.cutFirst (· == '-') word with
  | (first, none) => (Text.Hex.number? first).map fun code => (code, code)
  | (first, some last) => do return (← Text.Hex.number? first, ← Text.Hex.number? last)

def ofString (text : String) : CharSet := ⟨((Text.words text.toList).filterMap range?).toArray⟩

def contains (set : CharSet) (c : Char) : Bool :=
  set.ranges.any fun (first, last) => first ≤ c.toNat && c.toNat ≤ last

end CharSet

end Provision.Unicode
