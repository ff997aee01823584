import Provision.Proofs.Url.Authority

/-!
How the path of a URL depends on the end of its text. What is added after a mark does not change it.
Without a mark a slash at the end is the end of the path, except where it is taken for a part of
what comes before the path.
-/
namespace Provision.Url

section Files

/-- The path that a text leads to from the root of the files. -/
abbrev filePath (text : List Char) : Path := pathFrom "file".toList [] text

def dropSlash (text : List Char) : List Char :=
  if text.head?.any (isSlash true) then text.drop 1 else text

variable {text extra : List Char} {url : Url}

theorem path_fileOnHost (host : Host) (text : List Char) :
    (fileOnHost host text).path =
      filePath (if host == .domain [] then text else dropSlash text) := by
  rw [fileOnHost]
  split <;> rfl

theorem scheme_fileOnHost (host : Host) (text : List Char) :
    (fileOnHost host text).scheme = "file".toList := by
  rw [fileOnHost]
  split <;> rfl

def beginsWithSlashes : List Char → Bool
  | a :: b :: _ => isSlash true a && isSlash true b
  | _ => false

private theorem drop_takeWhile (keeps : Char → Bool) (text : List Char) :
    text.drop (text.takeWhile keeps).length = text.dropWhile keeps := by
  have parts : (text.takeWhile keeps ++ text.dropWhile keeps).drop (text.takeWhile keeps).length =
      text.dropWhile keeps := List.drop_left' rfl
  rwa [List.takeWhile_append_dropWhile] at parts

theorem exists_of_beginsWithSlashes (slashes : beginsWithSlashes text = true) :
    ∃ a b rest, text = a :: b :: rest ∧ isSlash true a = true ∧ isSlash true b = true := by
  unfold beginsWithSlashes at slashes
  split at slashes
  · obtain ⟨first, second⟩ := Bool.and_eq_true_iff.mp slashes
    exact ⟨_, _, _, rfl, first, second⟩
  · cases slashes

theorem readFile_of_slashes {a b : Char} (first : isSlash true a = true)
    (second : isSlash true b = true) (text : List Char) :
    readFile none (a :: b :: text) =
      let name := text.takeWhile fun c => !endsAuthority true c
      if isDrive name then .ok (fileUrl (.domain []) [] text)
      else (readFileHost name).map fun host =>
        fileOnHost host (text.dropWhile fun c => !endsAuthority true c) := by
  rw [readFile, first, second]
  simp only [Bool.and_self, if_true, drop_takeWhile]
  rfl

theorem readFile_of_not_slashes (single : beginsWithSlashes text = false) :
    readFile none text = .ok (fileUrl (.domain []) [] (dropSlash text)) := by
  cases text with
  | nil => rfl
  | cons a rest =>
    cases rest with
    | nil => rfl
    | cons b rest =>
      rw [beginsWithSlashes] at single
      rw [readFile, single]
      rfl

theorem dropSlash_suffix (text : List Char) : dropSlash text <:+ text := by
  rw [dropSlash]
  split
  · exact List.drop_suffix 1 text
  · exact List.suffix_rfl

theorem dropSlash_append (nonempty : text ≠ []) (extra : List Char) :
    dropSlash (text ++ extra) = dropSlash text ++ extra := by
  obtain ⟨c, rest, rfl⟩ := List.exists_cons_of_ne_nil nonempty
  rw [dropSlash, dropSlash]
  split
  · rename_i slash
    exact (if_pos slash).symm ▸ rfl
  · rename_i slash
    exact (if_neg slash).symm ▸ rfl

/-- The path of a file is where some end of the text leads to. -/
theorem exists_path_of_readFile (read : readFile none text = .ok url) :
    url.scheme = "file".toList ∧ ∃ rest, rest <:+ text ∧ url.path = filePath rest := by
  cases slashes : beginsWithSlashes text with
  | false =>
    rw [readFile_of_not_slashes slashes] at read
    cases read
    exact ⟨rfl, _, dropSlash_suffix text, rfl⟩
  | true =>
    obtain ⟨a, b, rest, rfl, first, second⟩ := exists_of_beginsWithSlashes slashes
    have below : rest <:+ a :: b :: rest := ⟨[a, b], rfl⟩
    rw [readFile_of_slashes first second] at read
    dsimp only at read
    split at read
    · cases read
      exact ⟨rfl, rest, below, rfl⟩
    · obtain ⟨host, -, rfl⟩ := map_eq_ok_iff.mp read
      refine ⟨scheme_fileOnHost _ _, _, ?_, path_fileOnHost _ _⟩
      split
      · exact (List.dropWhile_suffix _).trans below
      · exact ((dropSlash_suffix _).trans (List.dropWhile_suffix _)).trans below

theorem isUnmarked_of_dropSlash (unmarked : IsUnmarked (dropSlash text)) : IsUnmarked text := by
  cases text with
  | nil => exact unmarked
  | cons c rest =>
    rw [dropSlash] at unmarked
    split at unmarked
    · rename_i slash
      exact unmarked.cons (endsPath_of_isSlash slash)
    · exact unmarked

theorem filePath_dropSlash_append (marked : ¬ IsUnmarked text) (extra : List Char) :
    filePath (dropSlash (text ++ extra)) = filePath (dropSlash text) := by
  have nonempty : text ≠ [] := by
    rintro rfl
    exact marked isUnmarked_nil
  rw [dropSlash_append nonempty]
  exact pathFrom_append _ _ (mt isUnmarked_of_dropSlash marked) extra

private theorem name_append (follows : MayFollow text extra) :
    ((text ++ extra).takeWhile fun c => !endsAuthority true c) =
        text.takeWhile (fun c => !endsAuthority true c) ∧
      ((text ++ extra).dropWhile fun c => !endsAuthority true c) =
        text.dropWhile (fun c => !endsAuthority true c) ++ extra := by
  rcases follows with marked | rfl
  · obtain ⟨c, member, mark⟩ := exists_mark marked
    rw [Bool.not_eq_false'] at mark
    have stops : ∃ c ∈ text, (!endsAuthority true c) = false :=
      ⟨c, member, by rw [endsAuthority_of_endsPath true mark]; rfl⟩
    exact ⟨Text.takeWhile_append_of_mem stops extra, Text.dropWhile_append_of_mem stops extra⟩
  · have stops : ∀ c ∈ ['/'].head?, (!endsAuthority true c) = false :=
      fun c first => by cases first; rfl
    exact ⟨Text.takeWhile_append_of_stops stops text, Text.dropWhile_append_of_stops stops text⟩

theorem isFolder_of_readFile (read : readFile none text = .ok url) (unmarked : IsUnmarked text)
    (closed : IsClosed text) : url.path.IsFolder := by
  obtain ⟨-, rest, below, path⟩ := exists_path_of_readFile read
  rw [path]
  exact isFolder_pathFrom _ _ (unmarked.suffix below) (closed.suffix below)

theorem continues_readFile (read : readFile none text = .ok url)
    (follows : MayFollow text extra) : Continues (readFile none) text extra url := by
  cases slashes : beginsWithSlashes text with
  | true =>
    obtain ⟨a, b, rest, rfl, first, second⟩ := exists_of_beginsWithSlashes slashes
    have behind : ¬ IsUnmarked (a :: b :: rest) → ¬ IsUnmarked rest := mt fun unmarked =>
      (unmarked.cons (endsPath_of_isSlash second)).cons (endsPath_of_isSlash first)
    obtain ⟨sameName, further⟩ := name_append (follows.imp_left behind)
    simp only [Continues, List.cons_append, readFile_of_slashes first second, sameName, further]
      at read ⊢
    split at read
    · cases read
      rename_i drive
      exact ⟨_, if_pos drive, fun marked => pathFrom_append _ _ (behind marked) extra⟩
    · rename_i noDrive
      rw [if_neg noDrive]
      obtain ⟨host, hosted, rfl⟩ := map_eq_ok_iff.mp read
      refine ⟨_, congrArg (Except.map _) hosted, fun marked => ?_⟩
      have after : ¬ IsUnmarked (rest.dropWhile fun c => !endsAuthority true c) :=
        mt (isUnmarked_of_dropWhile _ rfl rfl) (behind marked)
      rw [path_fileOnHost, path_fileOnHost]
      split
      · exact pathFrom_append _ _ after extra
      · exact filePath_dropSlash_append after extra
  | false =>
    rw [readFile_of_not_slashes slashes] at read
    cases read
    cases longerSlashes : beginsWithSlashes (text ++ extra) with
    | false =>
      exact ⟨_, readFile_of_not_slashes longerSlashes,
        fun marked => filePath_dropSlash_append marked extra⟩
    | true =>
      -- Only a slash that follows a single one makes two of them.
      obtain ⟨a, b, rest, whole, first, -⟩ := exists_of_beginsWithSlashes longerSlashes
      cases text with
      | nil =>
        obtain rfl := follows.resolve_left (not_not_intro isUnmarked_nil)
        cases longerSlashes
      | cons c others =>
        cases others with
        | cons d others => cases slashes.symm.trans longerSlashes
        | nil =>
          obtain rfl := (List.cons.inj whole).1
          have unmarked : IsUnmarked [c] := isUnmarked_nil.cons (endsPath_of_isSlash first)
          obtain rfl := follows.resolve_left (not_not_intro unmarked)
          exact ⟨_, readFile_of_slashes first rfl [], fun marked => absurd unmarked marked⟩

end Files

section Plain

variable {scheme text extra : List Char} {url : Url}

/-- Whether the text after a scheme that is not special leads to a place below a root: it has a path,
and neither only an authority nor no authority that can be without a path. -/
def isGroundedPlain (text : List Char) : Bool :=
  text.head? == some '/' && text != ['/', '/'] && text != ['/', '/', '@', '/']

theorem isTidy_of_readPlain (read : readPlain scheme text = .ok url) : url.IsTidy := by
  unfold readPlain at read
  split at read
  · exact isTidy_of_readAuthority read
  · cases read
    exact isTidy_of_path rfl
  · cases read
    rintro segments ⟨⟩

/-- Where neither an authority nor a path is named, the path is empty. -/
theorem readAuthority_nil (plain : isSpecial scheme = false) :
    readAuthority scheme [] =
      .ok ⟨scheme, some ⟨[], [], .domain [], none⟩, .rooted [], none, none⟩ := by
  have appended := readAuthority_append (List.forall_mem_nil _) (isBeyond_nil (isSpecial scheme))
  have served : readServer scheme none [] = .ok (⟨[], [], .domain [], none⟩, []) := by
    simp only [readServer, splitHost, readHost, plain]
    rfl
  rw [List.append_nil] at appended
  rw [appended, if_neg (by simp)]
  change (readServer scheme none []).map _ = _
  rw [served]
  simp [Except.map, followAuthority, plain]

theorem readAuthority_at_slash (scheme : List Char) :
    readAuthority scheme ['@', '/'] = .error .emptyHost := by
  have whole : ∀ c ∈ ['@'], endsAuthority (isSpecial scheme) c = false :=
    List.forall_mem_singleton.mpr (by cases isSpecial scheme <;> rfl)
  exact (readAuthority_append whole (isBeyond_slash _)).trans (if_pos ⟨rfl, List.cons_ne_nil _ _⟩)

theorem isFolder_iff_of_readPlain (read : readPlain scheme text = .ok url)
    (plain : isSpecial scheme = false) (unmarked : IsUnmarked text) (closed : IsClosed text) :
    url.path.IsFolder ↔ isGroundedPlain text = true := by
  unfold readPlain at read
  split at read
  · rename_i rest
    by_cases nothing : rest = []
    · subst nothing
      rw [readAuthority_nil plain] at read
      cases read
      refine iff_of_false ?_ (by decide)
      rintro ⟨above, rooted⟩
      simp at rooted
    by_cases unserved : rest = ['@', '/']
    · subst unserved
      rw [readAuthority_at_slash] at read
      cases read
    · have below : rest <:+ '/' :: '/' :: rest := ⟨['/', '/'], rfl⟩
      refine iff_of_true ?_ (by simp [isGroundedPlain, nothing, unserved])
      exact isFolder_of_readAuthority read (unmarked.suffix below) (closed.suffix below) nothing
  · rename_i rest single
    cases read
    have below := List.suffix_cons '/' rest
    have other : ∀ text, rest ≠ '/' :: text := fun text same => single text (by rw [same])
    refine iff_of_true ?_ (by simp [isGroundedPlain, other])
    exact isFolder_pathFrom scheme [] (unmarked.suffix below) (closed.suffix below)
  · rename_i _ rooted
    cases read
    refine iff_of_false (fun ⟨above, rooted⟩ => nomatch rooted) fun grounded => ?_
    simp only [isGroundedPlain, Bool.and_eq_true, beq_iff_eq] at grounded
    obtain ⟨rest, begins⟩ := List.head?_eq_some_iff.mp grounded.1.1
    exact rooted rest begins

theorem exists_readPlain_eq (scheme : List Char) (rootless : text.head? ≠ some '/') :
    ∃ url, readPlain scheme text = .ok url ∧
      url.path = .rootless (percentEncode isControl (text.takeWhile (!endsPath ·))) := by
  unfold readPlain
  split
  · exact absurd rfl rootless
  · exact absurd rfl rootless
  · exact ⟨_, rfl, rfl⟩

theorem continues_readPlain (read : readPlain scheme text = .ok url)
    (plain : isSpecial scheme = false) (follows : MayFollow text extra)
    (served : text ≠ ['/', '/', '@']) :
    Continues (readPlain scheme) text extra url := by
  unfold readPlain at read
  split at read
  · rename_i rest
    have behind : ¬ IsUnmarked ('/' :: '/' :: rest) → ¬ IsUnmarked rest :=
      mt fun unmarked => (unmarked.cons rfl).cons rfl
    obtain ⟨longer, found, same⟩ := continues_readAuthority read (follows.imp_left behind)
      fun alone => served (by rw [alone])
    exact ⟨longer, found, fun marked => same (behind marked)⟩
  · rename_i rest single
    cases read
    cases rest with
    | nil =>
      have unmarked : IsUnmarked ['/'] := isUnmarked_nil.cons rfl
      obtain rfl := follows.resolve_left (not_not_intro unmarked)
      exact ⟨_, readAuthority_nil plain, fun marked => absurd unmarked marked⟩
    | cons c others =>
      have other : c ≠ '/' := by
        rintro rfl
        exact single others rfl
      have longer : readPlain scheme ('/' :: c :: others ++ extra) =
          .ok (follow scheme none [] (c :: others ++ extra)) := by
        rw [List.cons_append, List.cons_append, readPlain]
        exact fun rest same => other (List.cons.inj same).1
      exact ⟨_, longer, fun marked =>
        pathFrom_append scheme [] (mt (IsUnmarked.cons rfl) marked) extra⟩
  · rename_i _ rooted
    cases read
    cases text with
    | nil =>
      obtain rfl := follows.resolve_left (not_not_intro isUnmarked_nil)
      exact ⟨_, rfl, fun marked => absurd isUnmarked_nil marked⟩
    | cons c others =>
      have rootless : (c :: others ++ extra).head? ≠ some '/' := by
        intro first
        cases first
        exact rooted others rfl
      obtain ⟨longer, found, path⟩ := exists_readPlain_eq scheme rootless
      refine ⟨longer, found, fun marked => ?_⟩
      rw [path, Text.takeWhile_append_of_mem (exists_mark marked)]

end Plain

section Whole

variable {scheme text rest extra : List Char} {url : Url}

/-- Whether a text with a scheme leads to a place below a root. -/
def isGrounded (text : List Char) : Bool :=
  match splitScheme? text with
  | some (scheme, rest) => isSpecial scheme || isGroundedPlain rest
  | none => false

theorem splitScheme?_eq_some_iff : splitScheme? text = some (scheme, rest) ↔
    text.head?.any Char.isAlpha = true ∧ text.dropWhile isSchemeChar = ':' :: rest ∧
      scheme = (text.takeWhile isSchemeChar).map Char.toLower := by
  rw [splitScheme?]
  split
  · rename_i first others begins cut
    rw [begins, cut]
    by_cases letter : first.isAlpha = true
    · simp [letter, eq_comm, and_comm]
    · simp [letter]
  · rename_i other
    constructor
    · intro found
      cases found
    · rintro ⟨letter, cut, -⟩
      cases begins : text.head? with
      | none => simp [begins] at letter
      | some first => exact absurd cut (other first rest begins)

theorem splitScheme?_append (found : splitScheme? text = some (scheme, rest))
    (extra : List Char) : splitScheme? (text ++ extra) = some (scheme, rest ++ extra) := by
  rw [splitScheme?_eq_some_iff] at found ⊢
  obtain ⟨letter, cut, lower⟩ := found
  have colon : ':' ∈ text := by
    have inside : ':' ∈ text.dropWhile isSchemeChar := cut ▸ List.mem_cons_self
    exact (List.dropWhile_suffix _).subset inside
  have stops : ∃ c ∈ text, isSchemeChar c = false := ⟨':', colon, by decide⟩
  refine ⟨?_, ?_, ?_⟩
  · cases text with
    | nil => cases colon
    | cons c others => exact letter
  · rw [Text.dropWhile_append_of_mem stops, cut, List.cons_append]
  · rw [Text.takeWhile_append_of_mem stops, lower]

theorem isUnmarked_of_splitScheme? (found : splitScheme? text = some (scheme, rest))
    (unmarked : IsUnmarked rest) : IsUnmarked text := by
  obtain ⟨-, cut, -⟩ := splitScheme?_eq_some_iff.mp found
  exact isUnmarked_of_dropWhile isSchemeChar rfl rfl (cut ▸ unmarked.cons rfl)

theorem suffix_of_splitScheme? (found : splitScheme? text = some (scheme, rest)) :
    ':' :: rest <:+ text := by
  obtain ⟨-, cut, -⟩ := splitScheme?_eq_some_iff.mp found
  exact cut ▸ List.dropWhile_suffix _

theorem resolve_of_splitScheme? (found : splitScheme? text = some (scheme, rest)) :
    resolve none text =
      if isFile scheme then readFile none rest
      else if isSpecial scheme then readAuthority scheme (rest.dropWhile (isSlash true))
      else readPlain scheme rest := by
  rw [resolve, found]

theorem exists_scheme_of_resolve (read : resolve none text = .ok url) :
    ∃ scheme rest, splitScheme? text = some (scheme, rest) := by
  cases found : splitScheme? text with
  | none =>
    rw [resolve, found] at read
    cases read
  | some parts => exact ⟨_, _, rfl⟩

theorem isTidy_of_resolve (read : resolve none text = .ok url) : url.IsTidy := by
  obtain ⟨scheme, rest, found⟩ := exists_scheme_of_resolve read
  rw [resolve_of_splitScheme? found] at read
  split at read
  · obtain ⟨own, rest, -, path⟩ := exists_path_of_readFile read
    exact isTidy_of_path (by rw [own]; exact path)
  split at read
  · exact isTidy_of_readAuthority read
  · exact isTidy_of_readPlain read

theorem isFolder_iff_of_resolve (read : resolve none text = .ok url) (unmarked : IsUnmarked text)
    (ends : text.getLast? = some '/') : url.path.IsFolder ↔ isGrounded text = true := by
  obtain ⟨scheme, rest, found⟩ := exists_scheme_of_resolve read
  have whole := suffix_of_splitScheme? found
  have below := (List.suffix_cons ':' rest).trans whole
  have unmarked := unmarked.suffix below
  have closed : IsClosed text := fun c last => Option.some.inj (last.symm.trans ends)
  have closed := closed.suffix below
  rw [resolve_of_splitScheme? found] at read
  rw [isGrounded, found]
  split at read
  · rename_i file
    have special : isSpecial scheme = true := by rw [isSpecial, file, Bool.or_true]
    exact iff_of_true (isFolder_of_readFile read unmarked closed) (by simp [special])
  split at read
  · rename_i special
    have served : rest.dropWhile (isSlash true) ≠ [] := fun nothing =>
      readAuthority_ne_ok_of_isSpecial special (.inl nothing) read
    have further := List.dropWhile_suffix (isSlash true) (l := rest)
    refine iff_of_true ?_ (by simp [special])
    exact isFolder_of_readAuthority read (unmarked.suffix further) (closed.suffix further) served
  · rename_i plain
    rw [Bool.not_eq_true] at plain
    simpa [plain] using isFolder_iff_of_readPlain read plain unmarked closed

/-- A text that is read is still read when something is added that may follow it. -/
theorem continues_resolve (read : resolve none text = .ok url)
    (follows : MayFollow text extra)
    (grounded : IsUnmarked text → isGrounded (text ++ extra) = true) :
    Continues (resolve none) text extra url := by
  obtain ⟨scheme, rest, found⟩ := exists_scheme_of_resolve read
  have behind : ¬ IsUnmarked text → ¬ IsUnmarked rest := mt (isUnmarked_of_splitScheme? found)
  have longerFound := splitScheme?_append found extra
  rw [resolve_of_splitScheme? found] at read
  rw [Continues, resolve_of_splitScheme? longerFound]
  split at read
  · rename_i file
    obtain ⟨longer, found, same⟩ := continues_readFile read (follows.imp_left behind)
    exact ⟨longer, by rw [if_pos file, found], fun marked => same (behind marked)⟩
  rename_i unfiled
  rw [if_neg unfiled]
  split at read
  · rename_i special
    have served : rest.dropWhile (isSlash true) ≠ [] := fun nothing =>
      readAuthority_ne_ok_of_isSpecial special (.inl nothing) read
    have stops : ∃ c ∈ rest, isSlash true c = false := by
      rw [ne_eq, List.dropWhile_eq_nil_iff] at served
      simpa using served
    have behindSlashes : ¬ IsUnmarked rest → ¬ IsUnmarked (rest.dropWhile (isSlash true)) :=
      mt (isUnmarked_of_dropWhile _ rfl rfl)
    obtain ⟨longer, found, same⟩ := continues_readAuthority read
      (follows.imp_left fun marked => behindSlashes (behind marked))
      fun alone => readAuthority_ne_ok_of_isSpecial special (.inr alone) read
    rw [if_pos special, Text.dropWhile_append_of_mem stops, found]
    exact ⟨longer, rfl, fun marked => same (behindSlashes (behind marked))⟩
  · rename_i plain
    rw [Bool.not_eq_true] at plain
    have served : rest ≠ ['/', '/', '@'] := by
      rintro rfl
      have unmarked : IsUnmarked text := isUnmarked_of_splitScheme? found (by
        exact ((isUnmarked_nil.cons rfl).cons rfl).cons rfl)
      obtain rfl := follows.resolve_left (not_not_intro unmarked)
      have led := grounded unmarked
      rw [isGrounded, longerFound] at led
      simp [plain, isGroundedPlain] at led
    obtain ⟨longer, found, same⟩ :=
      continues_readPlain read plain (follows.imp_left behind) served
    rw [if_neg (Bool.not_eq_true _ ▸ plain), found]
    exact ⟨longer, rfl, fun marked => same (behind marked)⟩

end Whole

end Provision.Url
