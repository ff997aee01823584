import Provision.Proofs.Url.Climbing
import Provision.Proofs.Url.Ending

/-!
What joins below a base. A plain path leads below the path of the base if that is the path of a
folder. Of another path it takes off what comes after the last slash.
-/
namespace Provision.Url

/-- Whether a reference is a path and nothing else: not from the root, and never above where it
begins. -/
structure IsPlain (reference : List Char) : Prop where
  /-- There is nothing in it that URLs ignore. -/
  solid : clean reference = reference
  /-- Nor is there a mark, the colon of a scheme or of a drive, or another kind of slash. -/
  plain : ∀ c ∈ reference, ['?', '#', ':', '|', '\\'].contains c = false
  relative : reference.head? ≠ some '/'
  stays : staysBelow 0 (Text.split (· == '/') reference) = true

/-- Whether plain paths join below the whole path of a base, which ends with a slash. -/
structure KeepsPath (base : Url) : Prop where
  ends : base.path.text.getLast? = some '/'
  below (reference : List Char) : IsPlain reference →
    ∃ url, base.join reference = .ok url ∧ base.path.text <+: url.path.text

section Segments

theorem notMem_slash_percentEncode {text : List Char} (whole : '/' ∉ text) :
    '/' ∉ percentEncode inPathSet text := by
  intro member
  obtain ⟨c, inside, own⟩ := List.mem_flatMap.mp member
  split at own
  · exact whole (List.mem_singleton.mp own ▸ inside)
  · obtain ⟨b, -, own⟩ := List.mem_flatMap.mp own
    have digits : ∀ digit, '/' ≠ Text.Hex.upperDigit digit := by decide
    simp [encodeByte, digits] at own

theorem notMem_slash_segmentText (file : Bool) (above : List (List Char)) {piece : List Char}
    (whole : '/' ∉ piece) : '/' ∉ segmentText file above piece := by
  unfold segmentText
  split
  · split
    · simp only [List.mem_cons, not_or] at whole ⊢
      exact ⟨whole.1, by decide, List.not_mem_nil⟩
    · exact notMem_slash_percentEncode whole
  · exact notMem_slash_percentEncode whole

theorem goUp_subset (segments : List (List Char)) : goUp segments ⊆ segments := by
  rw [goUp]
  split
  · exact List.Subset.refl _
  · exact List.dropLast_subset segments

/-- There are no slashes in the segments that pieces of a path lead to. -/
theorem notMem_slash_walk (file : Bool) {above pieces : List (List Char)}
    (outside : ∀ segment ∈ above, '/' ∉ segment) (whole : ∀ piece ∈ pieces, '/' ∉ piece) :
    ∀ segment ∈ walk file above pieces, '/' ∉ segment := by
  induction pieces generalizing above with
  | nil => exact outside
  | cons piece pieces ih =>
    have up : ∀ segment ∈ goUp above, '/' ∉ segment := fun segment member =>
      outside segment (goUp_subset above member)
    have own := notMem_slash_segmentText file above (whole piece List.mem_cons_self)
    have down {above : List (List Char)} {last : List Char}
        (outside : ∀ segment ∈ above, '/' ∉ segment) (solid : '/' ∉ last) :
        ∀ segment ∈ above ++ [last], '/' ∉ segment :=
      List.forall_mem_append.mpr ⟨outside, List.forall_mem_singleton.mpr solid⟩
    have further {above : List (List Char)} (outside : ∀ segment ∈ above, '/' ∉ segment) :=
      ih outside fun other member => whole other (List.mem_cons_of_mem _ member)
    cases pieces with
    | nil =>
      rw [walk]
      split
      · exact down up List.not_mem_nil
      split
      · exact down outside List.not_mem_nil
      · exact down outside own
    | cons next pieces =>
      rw [walk]
      · split
        · exact further up
        split
        · exact further outside
        · exact further (down outside own)
      · exact List.cons_ne_nil _ _

theorem notMem_slash_readPath (scheme text : List Char) :
    ∀ segment ∈ readPath scheme [] text, '/' ∉ segment := by
  have whole : ∀ piece ∈ Text.split (isSlash (isSpecial scheme)) text, '/' ∉ piece := by
    intro piece member slash
    cases Text.separates_of_mem_split member '/' slash
  have walked := notMem_slash_walk (isFile scheme) (List.forall_mem_nil _) whole
  rw [readPath]
  split
  · rw [tidyFile]
    split
    · exact List.forall_mem_singleton.mpr List.not_mem_nil
    · intro segment member
      exact walked segment ((List.dropWhile_suffix _).subset member)
  · exact walked

/-- An empty segment stands first in the path of a file only by itself. -/
theorem head?_tidyFile {segments above : List (List Char)}
    (tidy : tidyFile segments = above ++ [[]]) : above.head? ≠ some [] := by
  intro first
  obtain ⟨others, rfl⟩ := List.head?_eq_some_iff.mp first
  rw [tidyFile] at tidy
  split at tidy
  · simp at tidy
  · have kept := List.head?_dropWhile_not List.isEmpty segments
    rw [tidy] at kept
    simp at kept

theorem tidyFile_append {above : List (List Char)} (tidy : above.head? ≠ some [])
    (nonempty : above ≠ []) (others : List (List Char)) :
    tidyFile (above ++ others) = above ++ others := by
  obtain ⟨first, rest, rfl⟩ := List.exists_cons_of_ne_nil nonempty
  have solid : first.isEmpty = false := by
    cases first with
    | nil => exact absurd rfl tidy
    | cons c first => rfl
  simp [tidyFile, solid]

theorem tidyFile_ne_nil (segments : List (List Char)) : tidyFile segments ≠ [] := by
  rw [tidyFile]
  split
  · exact List.cons_ne_nil _ _
  · assumption

end Segments

section Folders

variable {base : Url} {above : List (List Char)}

/-- A path without slashes in its segments ends with a slash only after the last of them. -/
theorem isFolder_of_getLast? (tidy : base.IsTidy) {segments : List (List Char)}
    (rooted : base.path = .rooted segments) (ends : base.path.text.getLast? = some '/') :
    base.path.IsFolder := by
  rw [rooted] at ends
  rcases tidy segments rooted with rfl | ⟨text, led⟩
  · cases ends
  have whole : ∀ segment ∈ segments, '/' ∉ segment := led ▸ notMem_slash_readPath base.scheme text
  rcases List.eq_nil_or_concat segments with rfl | ⟨above, last, rfl⟩
  · cases ends
  rw [List.concat_eq_append] at rooted whole ends
  have solid := whole last (by simp)
  cases last with
  | nil => exact ⟨above, rooted⟩
  | cons c last =>
    have inside : (c :: last).getLast? = some '/' := by simpa [Path.text] using ends
    exact absurd (List.mem_of_getLast? inside) solid

theorem getLast?_text_of_isFolder {path : Path} (folder : path.IsFolder) :
    path.text.getLast? = some '/' := by
  obtain ⟨above, rfl⟩ := folder
  simp [Path.text]

variable {reference : List Char} (plain : IsPlain reference)

include plain

theorem IsPlain.ne_of_mem {c : Char} (member : c ∈ reference) :
    c ≠ '?' ∧ c ≠ '#' ∧ c ≠ ':' ∧ c ≠ '|' ∧ c ≠ '\\' := by
  simpa [not_or] using plain.plain c member

theorem IsPlain.isUnmarked : IsUnmarked reference := by
  intro c member
  obtain ⟨query, fragment, -⟩ := plain.ne_of_mem member
  simp [endsPath, query, fragment]

theorem IsPlain.splitScheme?_eq_none : splitScheme? reference = none := by
  cases found : splitScheme? reference with
  | none => rfl
  | some parts =>
    have colon := (suffix_of_splitScheme? found).subset List.mem_cons_self
    exact absurd rfl (plain.ne_of_mem colon).2.2.1

theorem IsPlain.pieces_eq (special : Bool) :
    Text.split (isSlash special) reference = Text.split (· == '/') reference := by
  apply Text.split_congr
  intro c member
  simp [isSlash, (plain.ne_of_mem member).2.2.2.2]

theorem IsPlain.isSlash_head {c : Char} {rest : List Char} (begins : reference = c :: rest) :
    isSlash true c = false := by
  have noSlash : c ≠ '/' := fun same => plain.relative (by rw [begins, same]; rfl)
  have noBackslash := (plain.ne_of_mem (begins ▸ List.mem_cons_self)).2.2.2.2
  simp [isSlash, noSlash, noBackslash]

theorem IsPlain.startsWithDrive_eq_false : startsWithDrive reference = false := by
  unfold startsWithDrive
  split
  · rename_i letter mark rest
    have member : mark ∈ letter :: mark :: rest := List.mem_cons_of_mem _ List.mem_cons_self
    obtain ⟨-, -, colon, bar, -⟩ := plain.ne_of_mem member
    simp [isDrive, colon, bar]
  · rfl

theorem readRelative_plain (base : Url) (above : List (List Char)) :
    ∃ url, readRelative base (above ++ [[]]) reference = .ok url ∧
      (url.path = base.path ∨ url.path = pathFrom base.scheme above reference) := by
  cases begins : reference with
  | nil => exact ⟨_, rfl, .inl rfl⟩
  | cons c rest =>
    have inside : endsPath c = false := plain.isUnmarked c (begins ▸ List.mem_cons_self)
    refine ⟨follow base.scheme base.authority above (c :: rest), ?_, .inr rfl⟩
    simp [readRelative, inside, plain.isSlash_head begins]

theorem readFile_plain (filed : isFile base.scheme = true)
    (folder : base.path = .rooted (above ++ [[]])) :
    ∃ url, readFile base reference = .ok url ∧
      (url.path = base.path ∨ url.path = pathFrom base.scheme above reference) := by
  have file : base.scheme = "file".toList := by simpa [isFile] using filed
  have parts : fileParts? base =
      some (above ++ [[]], (base.authority.map Authority.host).getD (.domain [])) := by
    simp [fileParts?, folder, filed]
  have single : readFile base reference = readFile.relative base reference := by
    unfold readFile
    split
    · simp only [plain.isSlash_head rfl, Bool.false_and, Bool.false_eq_true, if_false]
    · rfl
  have noDrive : (above ++ [[]]).getLast?.filter isPlainDrive = none := by
    simp [isPlainDrive, isDrive]
  rw [single, readFile.relative]
  simp only [Option.bind_some, parts, Option.map_some]
  cases begins : reference with
  | nil => exact ⟨_, rfl, .inl rfl⟩
  | cons c rest =>
    have inside : endsPath c = false := plain.isUnmarked c (begins ▸ List.mem_cons_self)
    have unnamed := plain.startsWithDrive_eq_false
    rw [begins] at unnamed
    simp only [plain.isSlash_head begins, inside, unnamed, noDrive, Bool.false_eq_true, if_false]
    let host := (base.authority.map Authority.host).getD (.domain [])
    refine ⟨fileUrl host above (c :: rest), ?_, .inr (by rw [file]; rfl)⟩
    split
    · rename_i named
      cases named
    · simp [host]

theorem join_plain (folder : base.path = .rooted (above ++ [[]])) :
    ∃ url, base.join reference = .ok url ∧
      (url.path = base.path ∨ url.path = pathFrom base.scheme above reference) := by
  have noFragment : (reference.head? == some '#') = false := by
    rw [beq_eq_false_iff_ne]
    intro first
    exact absurd rfl (plain.ne_of_mem (List.mem_of_head? first)).2.1
  rw [join, plain.solid, resolve, plain.splitScheme?_eq_none]
  simp only [noFragment, folder, Bool.false_eq_true, if_false]
  split
  · rename_i filed
    rw [← folder]
    exact readFile_plain plain filed folder
  · rw [← folder]
    exact readRelative_plain plain base above

/-- The segments that a plain path leads to are below those that it leads on from. -/
theorem prefix_text_pathFrom (scheme : List Char)
    (tidy : isFile scheme = true → above.head? ≠ some []) :
    (Path.rooted (above ++ [[]])).text <+: (pathFrom scheme above reference).text := by
  obtain ⟨others, nonempty, down⟩ := walk_staysBelow (isFile scheme) above
    (Text.split_ne_nil _ _) plain.stays [] (Nat.zero_le _)
  rw [List.append_nil] at down
  have below {others : List (List Char)} (nonempty : others ≠ []) :
      (Path.rooted (above ++ [[]])).text <+: (Path.rooted (above ++ others)).text := by
    obtain ⟨segment, others, rfl⟩ := List.exists_cons_of_ne_nil nonempty
    have text := text_below above [] segment others
    rw [List.append_nil] at text
    rw [text, List.append_assoc]
    exact List.prefix_append _ _
  rw [pathFrom, takeWhile_of_isUnmarked plain.isUnmarked, readPath, plain.pieces_eq, down]
  split
  · rename_i filed
    by_cases root : above = []
    · subst root
      exact below (tidyFile_ne_nil others)
    · rw [tidyFile_append (tidy filed) root]
      exact below nonempty
  · exact below nonempty

end Folders

/-- Plain paths join below the whole path of a base just if it is the path of a folder. -/
theorem keepsPath_iff {base : Url} (tidy : base.IsTidy) : base.KeepsPath ↔ base.path.IsFolder := by
  constructor
  · rintro ⟨ends, below⟩
    have empty : IsPlain [] := ⟨rfl, List.forall_mem_nil _, nofun, by decide⟩
    cases path : base.path with
    | rooted segments => exact path ▸ isFolder_of_getLast? tidy path ends
    | rootless text =>
      obtain ⟨url, joined, -⟩ := below [] empty
      have refused : base.join [] = .error .rootlessBase := by
        change resolve base [] = _
        simp [resolve, splitScheme?, path]
      cases refused.symm.trans joined
  · rintro ⟨above, folder⟩
    refine ⟨getLast?_text_of_isFolder ⟨above, folder⟩, fun reference plain => ?_⟩
    obtain ⟨url, joined, shape⟩ := join_plain plain folder
    refine ⟨url, joined, ?_⟩
    rcases shape with same | led
    · exact same ▸ List.prefix_rfl
    · rw [led, folder]
      refine prefix_text_pathFrom plain base.scheme fun filed => ?_
      rcases tidy _ folder with nothing | ⟨text, whole⟩
      · simp at nothing
      · rw [readPath, if_pos filed] at whole
        exact head?_tidyFile whole.symm

end Provision.Url
