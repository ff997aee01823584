/-!
Letter case, as far as it matters for a comparison with ASCII text. A character whose other case
holds no ASCII letter is left alone: no ASCII text equals the result in either way.
-/
namespace Provision.Text

/-- Lower case. Beside the ASCII capitals only the Kelvin sign has an ASCII lower case. -/
def lowerChar (c : Char) : Char := if c.toNat = 0x212A then 'k' else c.toLower

/-- Lower case of a text that is compared with ASCII text. -/
def lower (text : List Char) : List Char := text.map lowerChar

/-- Upper case. Dotless i, long s, sharp s and the Latin ligatures have ASCII capitals too. -/
def upperChar (c : Char) : List Char :=
  match c.toNat with
  | 0xDF => ['S', 'S']
  | 0x131 => ['I']
  | 0x17F => ['S']
  | 0xFB00 => ['F', 'F']
  | 0xFB01 => ['F', 'I']
  | 0xFB02 => ['F', 'L']
  | 0xFB03 => ['F', 'F', 'I']
  | 0xFB04 => ['F', 'F', 'L']
  | 0xFB05 => ['S', 'T']
  | 0xFB06 => ['S', 'T']
  | _ => [c.toUpper]

/-- Upper case of a text that is compared with ASCII text. -/
def upper (text : List Char) : List Char := text.flatMap upperChar

theorem toLower_of_ge {c : Char} (other : 128 ≤ c.toNat) : c.toLower = c := by
  apply dif_neg
  intro capital
  have : c.toNat ≤ 90 := UInt32.le_iff_toNat_le.mp capital.2
  omega

end Provision.Text
