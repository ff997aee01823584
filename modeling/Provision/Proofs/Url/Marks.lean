import Provision.Proofs.Url.Folder

/-!
Texts up to the marks of a query and a fragment, and the paths that they lead to. A mark keeps all
that follows out of the path; without one a slash at the end of the text is the end of the path.
-/
namespace Provision.Url

/-- Whether a text has no mark of a query or a fragment. -/
def IsUnmarked (text : List Char) : Prop := ∀ c ∈ text, endsPath c = false

instance (text : List Char) : Decidable (IsUnmarked text) :=
  decidable_of_iff (text.all (!endsPath ·) = true) (by simp [IsUnmarked])

/-- Whether a text is empty or ends with a slash. -/
def IsClosed (text : List Char) : Prop := ∀ c ∈ text.getLast?, c = '/'

/-- Whether a text may be added to another without changing what is read of that: a slash may, and
after a mark any text. -/
def MayFollow (text extra : List Char) : Prop := ¬ IsUnmarked text ∨ extra = ['/']

/-- Whether a text is still read when another is added, and with the same path if it has a mark. -/
def Continues (read : List Char → Except Fault Url) (text extra : List Char) (url : Url) : Prop :=
  ∃ longer, read (text ++ extra) = .ok longer ∧ (¬ IsUnmarked text → longer.path = url.path)

/-- Whether a path is that of a folder: there is nothing after its last slash. -/
def Path.IsFolder (path : Path) : Prop := ∃ above, path = .rooted (above ++ [[]])

def IsTidy (url : Url) : Prop :=
  ∀ segments, url.path = .rooted segments →
    segments = [] ∨ ∃ text, segments = readPath url.scheme [] text

section Texts

variable {text rest extra : List Char}

theorem endsPath_eq_true_iff {c : Char} : endsPath c = true ↔ c = '?' ∨ c = '#' := by
  simp [endsPath]

theorem isUnmarked_iff : IsUnmarked text ↔ '?' ∉ text ∧ '#' ∉ text := by
  constructor
  · intro unmarked
    exact ⟨fun member => (nomatch unmarked '?' member), fun member => (nomatch unmarked '#' member)⟩
  · rintro ⟨noQuery, noFragment⟩ c member
    rw [Bool.eq_false_iff, ne_eq, endsPath_eq_true_iff]
    rintro (rfl | rfl)
    · exact noQuery member
    · exact noFragment member

theorem isUnmarked_nil : IsUnmarked [] := List.forall_mem_nil _

theorem IsUnmarked.cons {c : Char} (plain : endsPath c = false) (unmarked : IsUnmarked text) :
    IsUnmarked (c :: text) :=
  List.forall_mem_cons.mpr ⟨plain, unmarked⟩

theorem IsUnmarked.suffix (unmarked : IsUnmarked text) (below : rest <:+ text) : IsUnmarked rest :=
  fun c member => unmarked c (below.subset member)

theorem IsClosed.suffix (closed : IsClosed text) (below : rest <:+ text) : IsClosed rest := by
  obtain ⟨front, rfl⟩ := below
  intro c last
  apply closed
  rw [List.getLast?_append, Option.mem_def.mp last]
  rfl

theorem exists_mark (marked : ¬ IsUnmarked text) : ∃ c ∈ text, (!endsPath c) = false := by
  simpa [IsUnmarked] using marked

theorem takeWhile_of_isUnmarked (unmarked : IsUnmarked text) :
    text.takeWhile (!endsPath ·) = text := by
  rw [List.takeWhile_eq_self_iff]
  intro c member
  rw [unmarked c member]
  rfl

theorem endsPath_of_isSlash {special : Bool} {c : Char} (slash : isSlash special c = true) :
    endsPath c = false := by
  simp only [isSlash, Bool.or_eq_true, Bool.and_eq_true, beq_iff_eq] at slash
  rcases slash with rfl | ⟨-, rfl⟩ <;> rfl

theorem isUnmarked_of_dropWhile (keeps : Char → Bool) (query : keeps '?' = false)
    (fragment : keeps '#' = false) (unmarked : IsUnmarked (text.dropWhile keeps)) :
    IsUnmarked text := by
  rwa [isUnmarked_iff, Text.mem_dropWhile_iff query, Text.mem_dropWhile_iff fragment,
    ← isUnmarked_iff] at unmarked

end Texts

section Cleaned

variable {text : List Char}

theorem mem_clean_iff {c : Char} (solid : isPadding c = false) : c ∈ clean text ↔ c ∈ text :=
  (mem_cleanEnd_iff solid).trans (Text.mem_dropWhile_iff solid)

theorem isUnmarked_clean_iff : IsUnmarked (clean text) ↔ IsUnmarked text := by
  rw [isUnmarked_iff, isUnmarked_iff, mem_clean_iff (by decide), mem_clean_iff (by decide)]

/-- Of a text that ends with a slash, the padding before it stays. -/
theorem clean_append_slash (text : List Char) :
    clean (text ++ ['/']) = (text.dropWhile isPadding).filter (!isBreak ·) ++ ['/'] := by
  have slash : isPadding '/' = false := by decide
  have stops : ∀ c ∈ ['/'].head?, isPadding c = false := fun c first => by cases first; exact slash
  rw [clean, Text.dropWhile_append_of_stops stops]
  simp [slash, isBreak]

theorem clean_append_slash_of_solid (solid : ∀ c ∈ text.getLast?, isPadding c = false) :
    clean (text ++ ['/']) = clean text ++ ['/'] := by
  have kept : (text.dropWhile isPadding).reverse.dropWhile isPadding =
      (text.dropWhile isPadding).reverse := by
    rcases List.eq_nil_or_concat (text.dropWhile isPadding) with nothing | ⟨front, c, whole⟩
    · rw [nothing]
      rfl
    · rw [List.concat_eq_append] at whole
      obtain ⟨before, parts⟩ := List.dropWhile_suffix isPadding (l := text)
      have last : text.getLast? = some c := by rw [← parts, whole]; simp
      rw [whole, List.reverse_append]
      exact List.dropWhile_cons_of_neg (by simp [solid c last])
  rw [clean_append_slash, clean, kept, List.reverse_reverse]

/-- A slash that is added to a text is added to what is read of it, perhaps after some padding. -/
theorem exists_clean_append_slash (text : List Char) :
    ∃ extra, clean (text ++ ['/']) = clean text ++ extra := by
  let inner := text.dropWhile isPadding
  have parts := List.takeWhile_append_dropWhile (p := isPadding) (l := inner.reverse)
  have whole : inner = (inner.reverse.dropWhile isPadding).reverse ++
      (inner.reverse.takeWhile isPadding).reverse := by
    rw [← List.reverse_append, parts, List.reverse_reverse]
  refine ⟨(inner.reverse.takeWhile isPadding).reverse.filter (!isBreak ·) ++ ['/'], ?_⟩
  rw [clean_append_slash, clean, ← List.append_assoc, ← List.filter_append, ← whole]

end Cleaned

section Paths

theorem exists_walk_eq (file : Bool) (above : List (List Char)) {pieces : List (List Char)}
    (last : pieces.getLast? = some []) : ∃ others, walk file above pieces = others ++ [[]] := by
  induction pieces generalizing above with
  | nil => cases last
  | cons piece pieces ih =>
    cases pieces with
    | nil =>
      cases last
      exact ⟨above, rfl⟩
    | cons next pieces =>
      have further (above : List (List Char)) := ih above (by simpa using last)
      rw [walk]
      split
      · exact further _
      split
      · exact further _
      · exact further _
      · simp

theorem exists_tidyFile_eq (segments : List (List Char)) :
    ∃ others, tidyFile (segments ++ [[]]) = others ++ [[]] := by
  rw [tidyFile, List.dropWhile_append]
  cases left : segments.dropWhile List.isEmpty with
  | nil => exact ⟨[], rfl⟩
  | cons first others => exact ⟨first :: others, rfl⟩

theorem exists_readPath_eq (scheme : List Char) (above : List (List Char)) {text : List Char}
    (closed : IsClosed text) : ∃ others, readPath scheme above text = others ++ [[]] := by
  have last : (Text.split (isSlash (isSpecial scheme)) text).getLast? = some [] := by
    apply Text.getLast?_split
    intro c ends
    rw [closed c ends]
    rfl
  obtain ⟨others, walked⟩ := exists_walk_eq (isFile scheme) above last
  rw [readPath, walked]
  split
  · exact exists_tidyFile_eq others
  · exact ⟨others, rfl⟩

/-- The path that a text leads to from a place, up to its first mark. -/
def pathFrom (scheme : List Char) (above : List (List Char)) (text : List Char) : Path :=
  .rooted (readPath scheme above (text.takeWhile (!endsPath ·)))

theorem isFolder_pathFrom (scheme : List Char) (above : List (List Char)) {text : List Char}
    (unmarked : IsUnmarked text) (closed : IsClosed text) :
    (pathFrom scheme above text).IsFolder := by
  obtain ⟨others, led⟩ := exists_readPath_eq scheme above closed
  exact ⟨others, by rw [pathFrom, takeWhile_of_isUnmarked unmarked, led]⟩

theorem pathFrom_append (scheme : List Char) (above : List (List Char)) {text : List Char}
    (marked : ¬ IsUnmarked text) (extra : List Char) :
    pathFrom scheme above (text ++ extra) = pathFrom scheme above text := by
  rw [pathFrom, Text.takeWhile_append_of_mem (exists_mark marked), pathFrom]

theorem isTidy_of_path {url : Url} {text : List Char}
    (path : url.path = pathFrom url.scheme [] text) : url.IsTidy := by
  intro segments rooted
  rw [path] at rooted
  cases rooted
  exact .inr ⟨_, rfl⟩

end Paths

end Provision.Url
