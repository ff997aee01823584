import Mathlib.Algebra.Group.Nat.Defs
import Mathlib.Data.List.Basic
import Mathlib.Data.List.Induction
import Provision.Text.Case
import Provision.Text.Hex

namespace Provision.Text.Hex

def numberOf (digits : List (Fin 16)) : Nat :=
  digits.foldl (fun number digit => number * 16 + digit.val) 0

def lowerRow (digits : List (Fin 16)) : List Char := digits.map fun digit => Nat.digitChar digit.val

private theorem value?_ascii :
    ∀ code : Fin 128, ∀ digit : Fin 16, value? (Char.ofNat code.val) = some digit ↔
      (Char.ofNat code.val).toLower = Nat.digitChar digit.val := by
  decide +kernel

theorem value?_eq_some_iff {c : Char} {digit : Fin 16} :
    value? c = some digit ↔ c.toLower = Nat.digitChar digit.val := by
  by_cases ascii : c.toNat < 128
  · have known := value?_ascii ⟨c.toNat, ascii⟩ digit
    rwa [Char.ofNat_toNat] at known
  · have unread : value? c = none := by
      simp only [value?]
      rw [dif_neg (by omega), dif_neg (by omega), dif_neg (by omega)]
    have small : (Nat.digitChar digit.val).toNat < 128 := by revert digit; decide
    constructor
    · intro read
      cases unread.symm.trans read
    · intro other
      rw [toLower_of_ge (Nat.not_lt.mp ascii)] at other
      rw [other] at ascii
      exact absurd small ascii

theorem mapM_value?_eq_some_iff {text : List Char} {digits : List (Fin 16)} :
    text.mapM value? = some digits ↔ text.map Char.toLower = lowerRow digits := by
  induction text generalizing digits with
  | nil => cases digits <;> simp [lowerRow]
  | cons c text ih =>
    cases digits with
    | nil => simp [lowerRow, List.mapM_cons, Option.bind_eq_some_iff]
    | cons digit digits =>
      have step : text.mapM value? = some digits ↔
          text.map Char.toLower = digits.map fun digit => Nat.digitChar digit.val := ih
      simp [lowerRow, List.mapM_cons, Option.bind_eq_some_iff, value?_eq_some_iff, step]

theorem lowerRow_injective {digits others : List (Fin 16)}
    (same : lowerRow digits = lowerRow others) : digits = others := by
  have differ : ∀ digit other : Fin 16,
      Nat.digitChar digit.val = Nat.digitChar other.val → digit = other := by decide
  exact List.map_injective_iff.mpr differ same

@[simp] theorem length_lowerRow (digits : List (Fin 16)) :
    (lowerRow digits).length = digits.length := List.length_map _

theorem numberOf_concat (digits : List (Fin 16)) (digit : Fin 16) :
    numberOf (digits ++ [digit]) = numberOf digits * 16 + digit.val := by
  simp [numberOf]

theorem numberOf_lt (digits : List (Fin 16)) : numberOf digits < 16 ^ digits.length := by
  induction digits using List.reverseRecOn with
  | nil => decide
  | append_singleton digits digit ih =>
    rw [numberOf_concat, List.length_append, List.length_singleton, Nat.pow_succ]
    omega

theorem exists_numberOf (count : Nat) {number : Nat} (fits : number < 16 ^ count) :
    ∃ digits, digits.length = count ∧ numberOf digits = number := by
  induction count generalizing number with
  | zero => exact ⟨[], rfl, (Nat.lt_one_iff.mp fits).symm⟩
  | succ count ih =>
    have fewer : number / 16 < 16 ^ count := by omega
    obtain ⟨digits, length, front⟩ := ih fewer
    refine ⟨digits ++ [⟨number % 16, by omega⟩], by simp [length], ?_⟩
    rw [numberOf_concat, front]
    exact Nat.div_add_mod' number 16

/-- A row in lower case is its number in base 16, padded with zeros. -/
theorem lowerRow_eq_leftpad {digits : List (Fin 16)} (nonempty : digits ≠ []) :
    lowerRow digits = (Nat.toDigits 16 (numberOf digits)).leftpad digits.length '0' := by
  induction digits using List.reverseRecOn with
  | nil => exact absurd rfl nonempty
  | append_singleton digits digit ih =>
    have padded (front : List Char) (last : Char) :
        (front ++ [last]).leftpad (digits.length + 1) '0' =
          front.leftpad digits.length '0' ++ [last] := by
      simp [List.leftpad]
    rw [lowerRow, List.map_append, ← lowerRow, List.map_singleton, numberOf_concat,
      List.length_append, List.length_singleton]
    rcases Nat.eq_zero_or_pos (numberOf digits) with zero | positive
    · -- A leading zero is one of the padding.
      have zeros : lowerRow digits = [].leftpad digits.length '0' := by
        cases digits with
        | nil => rfl
        | cons first others =>
          rw [ih (List.cons_ne_nil _ _), zero, Nat.toDigits_zero]
          simp [List.leftpad, List.replicate_succ']
      rw [zero, Nat.zero_mul, Nat.zero_add, Nat.toDigits_of_lt_base digit.isLt, zeros, ← padded]
      rfl
    · have more : digits ≠ [] := by
        rintro rfl
        exact absurd positive (by decide)
      rw [Nat.mul_comm, ← Nat.toDigits_append_toDigits (by decide) positive digit.isLt,
        Nat.toDigits_of_lt_base digit.isLt, padded, ih more]

end Provision.Text.Hex
