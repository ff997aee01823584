import Provision.Proofs.Text.Split
import Provision.Url.Reference

namespace Provision.Url

theorem unfiled_of_isWeb {scheme : List Char} (web : isWeb scheme = true) :
    isFile scheme = false := by
  simp only [isWeb, Bool.or_eq_true, beq_iff_eq] at web
  rcases web with rfl | rfl <;> rfl

theorem isSpecial_of_isWeb {scheme : List Char} (web : isWeb scheme = true) :
    isSpecial scheme = true := by
  simp only [isWeb, Bool.or_eq_true, beq_iff_eq] at web
  rcases web with rfl | rfl <;> rfl

theorem isPadding_of_isBreak {c : Char} (breaks : isBreak c = true) : isPadding c = true := by
  simp only [isBreak, Bool.or_eq_true, beq_iff_eq] at breaks
  rcases breaks with (rfl | rfl) | rfl <;> decide

/-- A text without the padding at its end and the breaks in it. -/
def cleanEnd (text : List Char) : List Char :=
  ((text.reverse.dropWhile isPadding).reverse).filter (!isBreak ·)

theorem cleanEnd_append {front : List Char} (solid : ∀ c ∈ front, isPadding c = false)
    (rest : List Char) : cleanEnd (front ++ rest) = front ++ cleanEnd rest := by
  have unbroken : front.filter (!isBreak ·) = front := by
    apply List.filter_eq_self.mpr
    intro c member
    cases breaks : isBreak c with
    | false => rfl
    | true => exact absurd (isPadding_of_isBreak breaks) (by simp [solid c member])
  have kept : front.reverse.dropWhile isPadding = front.reverse := by
    apply List.dropWhile_eq_self_iff.mpr
    intro nonempty padded
    rw [solid _ (List.mem_reverse.mp (List.getElem_mem nonempty))] at padded
    cases padded
  rw [cleanEnd, cleanEnd, List.reverse_append, List.dropWhile_append]
  split
  · rename_i padded
    rw [List.isEmpty_iff] at padded
    simp [kept, padded, unbroken]
  · simp [List.filter_append, unbroken]

theorem clean_append {front : List Char} (nonempty : front ≠ [])
    (solid : ∀ c ∈ front, isPadding c = false) (rest : List Char) :
    clean (front ++ rest) = front ++ cleanEnd rest := by
  have kept : (front ++ rest).dropWhile isPadding = front ++ rest := by
    obtain ⟨c, others, rfl⟩ := List.exists_cons_of_ne_nil nonempty
    simp [solid c List.mem_cons_self]
  rw [clean, kept, ← cleanEnd_append solid]
  rfl

theorem mem_cleanEnd_iff {c : Char} (solid : isPadding c = false) {text : List Char} :
    c ∈ cleanEnd text ↔ c ∈ text := by
  have unbroken : isBreak c = false := by
    cases breaks : isBreak c with
    | false => rfl
    | true => exact absurd (isPadding_of_isBreak breaks) (by simp [solid])
  calc c ∈ cleanEnd text
      ↔ c ∈ text.reverse.dropWhile isPadding := by simp [cleanEnd, unbroken]
    _ ↔ c ∈ text := by rw [Text.mem_dropWhile_iff solid, List.mem_reverse]

theorem isAlphanum_toNat {c : Char} (plain : c.isAlphanum = true) :
    48 ≤ c.toNat ∧ c.toNat ≤ 122 := by
  delta Char.isAlphanum Char.isAlpha Char.isUpper Char.isLower Char.isDigit at plain
  simp only [Bool.or_eq_true, Bool.and_eq_true, decide_eq_true_eq, UInt32.le_iff_toNat_le,
    ge_iff_le] at plain
  change ((65 ≤ c.toNat ∧ c.toNat ≤ 90) ∨ (97 ≤ c.toNat ∧ c.toNat ≤ 122)) ∨
    (48 ≤ c.toNat ∧ c.toNat ≤ 57) at plain
  omega

/-- Whether a text is the name of a folder that is taken for nothing else. -/
def IsFolder (name : List Char) : Prop := name ≠ [] ∧ ∀ c ∈ name, c.isAlphanum = true

variable {base : Url} {name : List Char}

theorem IsFolder.isPadding {c : Char} (folder : IsFolder name) (member : c ∈ name) :
    isPadding c = false := by
  have bounds := isAlphanum_toNat (folder.2 c member)
  simp only [Url.isPadding, decide_eq_false_iff_not]
  omega

private theorem IsFolder.ne {c : Char} (folder : IsFolder name) (member : c ∈ name) {mark : Char}
    (special : mark.isAlphanum = false) : c ≠ mark := by
  rintro rfl
  rw [folder.2 c member] at special
  cases special

private theorem splitScheme?_folder (folder : IsFolder name) (rest : List Char) :
    splitScheme? (name ++ '/' :: rest) = none := by
  have plain : ∀ c ∈ name, isSchemeChar c = true := fun c member => by
    simp [isSchemeChar, folder.2 c member]
  have stops : (name ++ '/' :: rest).dropWhile isSchemeChar = '/' :: rest := by
    rw [List.dropWhile_append_of_pos plain, List.dropWhile_cons_of_neg (by decide)]
  rw [splitScheme?, stops]
  split
  · rename_i colon
    cases colon
  · rfl

private theorem readRelative_folder (folder : IsFolder name) (above : List (List Char))
    (rest : List Char) :
    readRelative base above (name ++ '/' :: rest) =
      .ok (follow base.scheme base.authority above.dropLast (name ++ '/' :: rest)) := by
  obtain ⟨c, others, rfl⟩ := List.exists_cons_of_ne_nil folder.1
  have other {mark : Char} (special : mark.isAlphanum = false) : c ≠ mark :=
    folder.ne List.mem_cons_self special
  have inside : endsPath c = false := by simp [endsPath, other]
  have segment : isSlash true c = false := by simp [isSlash, other]
  simp [readRelative, inside, segment]

private theorem resolve_folder (folder : IsFolder name) (rest : List Char) :
    resolve (some base) (name ++ '/' :: rest) =
      match base.path with
      | .rootless _ => .error .rootlessBase
      | .rooted segments =>
        if isFile base.scheme then readFile base (name ++ '/' :: rest)
        else readRelative base segments (name ++ '/' :: rest) := by
  have plain : (name ++ '/' :: rest).head? ≠ some '#' := by
    obtain ⟨c, others, rfl⟩ := List.exists_cons_of_ne_nil folder.1
    exact fun hash => folder.ne List.mem_cons_self rfl (Option.some.inj hash)
  rw [resolve, splitScheme?_folder folder]
  cases base.path <;> simp only [beq_iff_eq, plain, if_false]

private theorem clean_folder (folder : IsFolder name) (rest : List Char) :
    clean (name ++ '/' :: rest) = name ++ '/' :: cleanEnd rest := by
  have solid : ∀ c ∈ name ++ ['/'], isPadding c = false := by
    intro c member
    rcases List.mem_append.mp member with inside | slash
    · exact folder.isPadding inside
    · cases List.mem_singleton.mp slash
      decide
  have split := clean_append (by simp) solid rest
  simpa using split

/-- A reference that begins with a folder leads below the folder of the base, if anything is. -/
theorem join_folder (unfiled : isFile base.scheme = false) (folder : IsFolder name)
    (rest : List Char) :
    base.join (name ++ '/' :: rest) =
      match base.path with
      | .rootless _ => .error .rootlessBase
      | .rooted segments =>
        .ok (follow base.scheme base.authority segments.dropLast
          (name ++ '/' :: cleanEnd rest)) := by
  rw [join, clean_folder folder, resolve_folder folder]
  cases base.path with
  | rootless text => rfl
  | rooted segments =>
    simp only [unfiled, Bool.false_eq_true, if_false]
    exact readRelative_folder folder segments _

end Provision.Url
