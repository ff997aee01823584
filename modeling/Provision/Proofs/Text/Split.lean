import Mathlib.Data.List.TakeWhile
import Provision.Text.Split

namespace Provision.Text

variable {separates : Char → Bool}

/-- What stands before a separator is cut by itself, and so is what stands after it. -/
theorem split_append_cons {mark : Char} (ends : separates mark = true) (front rest : List Char) :
    split separates (front ++ mark :: rest) = split separates front ++ split separates rest := by
  induction front with
  | nil => simp [split, ends]
  | cons c front ih =>
    obtain ⟨piece, pieces, cut⟩ := List.exists_cons_of_ne_nil (split_ne_nil separates front)
    rw [cut] at ih
    rw [List.cons_append, split, split, ih, cut]
    split <;> rfl

theorem split_eq_singleton {piece : List Char} (whole : ∀ c ∈ piece, separates c = false) :
    split separates piece = [piece] := by
  induction piece with
  | nil => rfl
  | cons c piece ih =>
    have inside := whole c List.mem_cons_self
    have others := ih fun d member => whole d (List.mem_cons_of_mem _ member)
    simp [split, inside, others]

theorem split_congr {separates other : Char → Bool} {text : List Char}
    (same : ∀ c ∈ text, separates c = other c) : split separates text = split other text := by
  induction text with
  | nil => rfl
  | cons c text ih =>
    have own := same c List.mem_cons_self
    have rest := ih fun d member => same d (List.mem_cons_of_mem _ member)
    rw [split, split, own, rest]

theorem split_piece {piece : List Char} (whole : ∀ c ∈ piece, separates c = false) {mark : Char}
    (ends : separates mark = true) (rest : List Char) :
    split separates (piece ++ mark :: rest) = piece :: split separates rest := by
  rw [split_append_cons ends, split_eq_singleton whole, List.singleton_append]

/-- Pieces without separators are cut apart as they were joined. -/
theorem split_join {mark : Char} (ends : separates mark = true) {pieces : List (List Char)}
    (nonempty : pieces ≠ []) (whole : ∀ piece ∈ pieces, ∀ c ∈ piece, separates c = false) :
    split separates (join [mark] pieces) = pieces := by
  induction pieces with
  | nil => exact absurd rfl nonempty
  | cons piece pieces ih =>
    have own := whole piece List.mem_cons_self
    cases pieces with
    | nil => exact split_eq_singleton own
    | cons next pieces =>
      have others := ih (List.cons_ne_nil _ _) fun other member =>
        whole other (List.mem_cons_of_mem _ member)
      have text : join [mark] (piece :: next :: pieces) =
          piece ++ mark :: join [mark] (next :: pieces) := by simp [join]
      rw [text, split_piece own ends, others]

theorem separates_of_mem_split {text piece : List Char} (member : piece ∈ split separates text) :
    ∀ c ∈ piece, separates c = false := by
  induction text generalizing piece with
  | nil =>
    cases List.mem_singleton.mp member
    exact List.forall_mem_nil _
  | cons d text ih =>
    obtain ⟨first, others, cut⟩ := List.exists_cons_of_ne_nil (split_ne_nil separates text)
    rw [split, cut] at member
    rw [cut] at ih
    split at member
    · rcases List.mem_cons.mp member with rfl | member
      · exact List.forall_mem_nil _
      · exact ih member
    · rename_i inside
      rcases List.mem_cons.mp member with rfl | member
      · exact List.forall_mem_cons.mpr ⟨Bool.eq_false_iff.mpr inside, ih List.mem_cons_self⟩
      · exact ih (List.mem_cons_of_mem _ member)

theorem getLast?_split {text : List Char}
    (ends : ∀ c, text.getLast? = some c → separates c = true) :
    (split separates text).getLast? = some [] := by
  rcases List.eq_nil_or_concat text with rfl | ⟨front, mark, rfl⟩
  · rfl
  · have last := ends mark (by simp)
    rw [List.concat_eq_append, split_append_cons last]
    simp [split]

section

variable {keeps : Char → Bool} {beyond : List Char}
  (stops : ∀ c ∈ beyond.head?, keeps c = false) (front : List Char)

include stops

/-- What begins with a character that is not taken adds nothing to what is taken before it. -/
theorem takeWhile_append_of_stops : (front ++ beyond).takeWhile keeps = front.takeWhile keeps := by
  induction front with
  | nil =>
    cases beyond with
    | nil => rfl
    | cons c rest => exact List.takeWhile_cons_of_neg (by simp [stops c rfl])
  | cons c front ih =>
    rw [List.cons_append, List.takeWhile_cons, List.takeWhile_cons, ih]

theorem dropWhile_append_of_stops :
    (front ++ beyond).dropWhile keeps = front.dropWhile keeps ++ beyond := by
  have parts := List.takeWhile_append_dropWhile (p := keeps) (l := front ++ beyond)
  have own := List.takeWhile_append_dropWhile (p := keeps) (l := front)
  rw [takeWhile_append_of_stops stops] at parts
  refine List.append_cancel_left (parts.trans ?_)
  rw [← List.append_assoc, own]

end

section

variable {keeps : Char → Bool} {front : List Char} (stops : ∃ c ∈ front, keeps c = false)
  (beyond : List Char)

include stops

/-- Nor does anything after a text in which such a character stands. -/
theorem takeWhile_append_of_mem : (front ++ beyond).takeWhile keeps = front.takeWhile keeps := by
  obtain ⟨c, member, stops⟩ := stops
  rw [List.takeWhile_append, if_neg]
  intro whole
  have same := (List.takeWhile_prefix keeps).eq_of_length whole
  rw [List.takeWhile_eq_self_iff.mp same c member] at stops
  cases stops

theorem dropWhile_append_of_mem :
    (front ++ beyond).dropWhile keeps = front.dropWhile keeps ++ beyond := by
  obtain ⟨c, member, stops⟩ := stops
  rw [List.dropWhile_append, if_neg]
  intro nothing
  have kept := List.dropWhile_eq_nil_iff.mp (List.isEmpty_iff.mp nothing) c member
  rw [kept] at stops
  cases stops

end

theorem mem_dropWhile_iff {keeps : Char → Bool} {c : Char} (stops : keeps c = false)
    {text : List Char} : c ∈ text.dropWhile keeps ↔ c ∈ text := by
  have parts := List.takeWhile_append_dropWhile (p := keeps) (l := text)
  have outside : c ∉ text.takeWhile keeps := by
    intro taken
    rw [List.mem_takeWhile_imp taken] at stops
    cases stops
  calc c ∈ text.dropWhile keeps
      ↔ c ∈ text.takeWhile keeps ++ text.dropWhile keeps := by
        rw [List.mem_append, or_iff_right outside]
    _ ↔ c ∈ text := by rw [parts]

theorem cutFirst_append_cons {front : List Char} (whole : ∀ c ∈ front, separates c = false)
    {mark : Char} (ends : separates mark = true) (rest : List Char) :
    cutFirst separates (front ++ mark :: rest) = (front, some rest) := by
  have passed : ∀ c ∈ front, (!separates c) = true := fun c member => by simp [whole c member]
  rw [cutFirst, List.dropWhile_append_of_pos passed, List.takeWhile_append_of_pos passed]
  simp [ends]

end Provision.Text
