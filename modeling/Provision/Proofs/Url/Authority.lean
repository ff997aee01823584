import Provision.Proofs.Url.Marks

namespace Provision.Url

theorem map_eq_ok_iff {α β : Type} {result : Except Fault α} {change : α → β} {value : β} :
    result.map change = .ok value ↔ ∃ found, result = .ok found ∧ change found = value := by
  cases result with
  | error fault => exact iff_of_false nofun nofun
  | ok found => simp [Except.map]

def endsAuthority (special : Bool) (c : Char) : Bool := isSlash special c || endsPath c

theorem endsAuthority_of_endsPath (special : Bool) {c : Char} (ends : endsPath c = true) :
    endsAuthority special c = true := by
  rw [endsAuthority, ends, Bool.or_true]

theorem endsAuthority_slash (special : Bool) : endsAuthority special '/' = true := rfl

def readHost (scheme text : List Char) : Except Fault Host :=
  if isSpecial scheme then
    if text.isEmpty then .error .emptyHost else readSpecialHost text
  else readPlainHost text

/-- The authority of a user name, a password and a host with the port that a text starts with, and
the text after it. -/
def readEnd (scheme : List Char) (userinfo : List Char × List Char) (host : Host)
    (text : List Char) : Except Fault (Authority × List Char) :=
  match text with
  | ':' :: rest =>
    if host == .domain [] then .error .emptyHost
    else (readPort scheme rest).map fun (port, rest) =>
      (⟨userinfo.1, userinfo.2, host, port⟩, rest)
  | rest =>
    if host == .domain [] && !(userinfo.1.isEmpty && userinfo.2.isEmpty) then .error .emptyHost
    else .ok (⟨userinfo.1, userinfo.2, host, none⟩, rest)

/-- The authority that a text starts with, and the text after it. -/
def readServer (scheme : List Char) (userinfo : Option (List Char)) (text : List Char) :
    Except Fault (Authority × List Char) :=
  let (hostText, rest) := splitHost (isSpecial scheme) false text
  (readHost scheme hostText).bind fun host =>
    readEnd scheme (readUserinfo (userinfo.getD [])) host rest

theorem readAuthority_eq (scheme text : List Char) :
    readAuthority scheme text =
      let front := text.takeWhile fun c => !endsAuthority (isSpecial scheme) c
      let beyond := text.dropWhile fun c => !endsAuthority (isSpecial scheme) c
      let (userinfo, server) := cutLastAt front
      if userinfo == some [] && server.isEmpty && !beyond.isEmpty then .error .emptyHost
      else (readServer scheme userinfo (server ++ beyond)).map fun (authority, rest) =>
        followAuthority scheme authority rest := by
  have ends (userinfo : List Char × List Char) (host : Host) (rest : List Char) :
      (match rest with
        | ':' :: rest => do
          if host == .domain [] then throw .emptyHost
          let (port, rest) ← readPort scheme rest
          return followAuthority scheme ⟨userinfo.1, userinfo.2, host, port⟩ rest
        | _ => do
          if host == .domain [] && !(userinfo.1.isEmpty && userinfo.2.isEmpty) then throw .emptyHost
          return followAuthority scheme ⟨userinfo.1, userinfo.2, host, none⟩ rest :
        Except Fault Url) =
      (readEnd scheme userinfo host rest).map fun (authority, rest) =>
        followAuthority scheme authority rest := by
    unfold readEnd
    split
    · split
      · rfl
      · cases readPort scheme _ <;> rfl
    · split <;> rfl
  unfold readAuthority readServer readHost endsAuthority
  dsimp only
  cases cutLastAt (text.takeWhile fun c => !(isSlash (isSpecial scheme) c || endsPath c)) with
  | mk userinfo server =>
  dsimp only
  cases splitHost (isSpecial scheme) false
    (server ++ text.dropWhile fun c => !(isSlash (isSpecial scheme) c || endsPath c)) with
  | mk hostText rest =>
  dsimp only
  split
  · rfl
  cases isSpecial scheme with
  | false =>
    cases readPlainHost hostText with
    | error fault => rfl
    | ok host => exact ends _ host rest
  | true =>
    cases hostText.isEmpty with
    | true => rfl
    | false =>
      cases readSpecialHost hostText with
      | error fault => rfl
      | ok host => exact ends _ host rest

/-- What follows an authority: nothing, or a text that begins with a character that ends it. -/
def IsBeyond (special : Bool) (beyond : List Char) : Prop :=
  ∀ c ∈ beyond.head?, endsAuthority special c = true

theorem isBeyond_nil (special : Bool) : IsBeyond special [] := fun _ first => nomatch first

theorem isBeyond_slash (special : Bool) : IsBeyond special ['/'] :=
  fun _ first => (Option.mem_some.mp first) ▸ endsAuthority_slash special

theorem cutLastAt_eq (text : List Char) :
    (cutLastAt text).2 <:+ text ∧ (cutLastAt text = (some [], []) ↔ text = ['@']) := by
  rw [cutLastAt, Text.cutFirst]
  have parts := List.takeWhile_append_dropWhile (p := fun c => !(c == '@')) (l := text.reverse)
  cases left : text.reverse.dropWhile fun c => !(c == '@') with
  | nil =>
    refine ⟨List.suffix_rfl, ?_⟩
    constructor
    · intro same
      cases (Prod.mk.inj same).1
    · rintro rfl
      cases left
  | cons mark before =>
    have first : mark = '@' := by
      have kept := List.head?_dropWhile_not (fun c => !(c == '@')) text.reverse
      simpa [left] using kept
    rw [left] at parts
    have whole : text = before.reverse ++
        mark :: (text.reverse.takeWhile fun c => !(c == '@')).reverse := by
      simpa using (congrArg List.reverse parts).symm
    refine ⟨⟨before.reverse ++ [mark], ?_⟩, ?_⟩
    · rw [List.append_assoc]
      exact whole.symm
    · dsimp only
      constructor
      · intro same
        obtain ⟨before, after⟩ := Prod.mk.inj same
        rw [whole, after, Option.some.inj before, first]
        rfl
      · rintro rfl
        cases left
        rfl

theorem splitHost_suffix (special bracketed : Bool) (text : List Char) :
    (splitHost special bracketed text).2 <:+ text := by
  induction text generalizing bracketed with
  | nil => exact List.suffix_rfl
  | cons c text ih =>
    rw [splitHost]
    split
    · exact List.suffix_rfl
    · exact (ih _).trans (List.suffix_cons c text)

theorem readPort_suffix {scheme text rest : List Char} {port : Option Nat}
    (read : readPort scheme text = .ok (port, rest)) : rest <:+ text := by
  rw [readPort] at read
  split at read
  · cases read
  · split at read <;> cases read <;> exact List.dropWhile_suffix _

theorem readServer_suffix {scheme text rest : List Char} {userinfo : Option (List Char)}
    {authority : Authority} (read : readServer scheme userinfo text = .ok (authority, rest)) :
    rest <:+ text := by
  have below := splitHost_suffix (isSpecial scheme) false text
  rw [readServer] at read
  cases hosted : readHost scheme (splitHost (isSpecial scheme) false text).1 with
  | error fault => simp [hosted, Except.bind] at read
  | ok host =>
    simp only [hosted, Except.bind, readEnd] at read
    split at read
    · rename_i digits left
      rw [left] at below
      split at read
      · cases read
      · obtain ⟨⟨port, others⟩, ported, same⟩ := map_eq_ok_iff.mp read
        cases same
        exact ((readPort_suffix ported).trans (List.suffix_cons ':' digits)).trans below
    · split at read <;> cases read
      exact below

section

variable {special : Bool} {beyond : List Char} (outside : IsBeyond special beyond)

include outside

theorem splitHost_append {front : List Char}
    (whole : ∀ c ∈ front, endsAuthority special c = false) (bracketed : Bool) :
    splitHost special bracketed (front ++ beyond) =
      ((splitHost special bracketed front).1, (splitHost special bracketed front).2 ++ beyond) := by
  induction front generalizing bracketed with
  | nil =>
    cases beyond with
    | nil => rfl
    | cons c rest =>
      have ends := outside c rfl
      rw [endsAuthority] at ends
      simp [splitHost, ends]
  | cons c front ih =>
    have rest := ih (fun d member => whole d (List.mem_cons_of_mem _ member))
    simp only [List.cons_append, splitHost, rest]
    split <;> rfl

theorem readPort_append (scheme front : List Char) :
    readPort scheme (front ++ beyond) =
      (readPort scheme front).map fun (port, rest) => (port, rest ++ beyond) := by
  have first : ∀ c ∈ beyond.head?, (isSlash true c || endsPath c) = true ∧ c.isDigit = false := by
    intro c member
    have ends := outside c member
    simp only [endsAuthority, isSlash, endsPath, Bool.or_eq_true, Bool.and_eq_true,
      beq_iff_eq] at ends
    rcases ends with (rfl | ⟨-, rfl⟩) | rfl | rfl <;> decide
  have noDigit : ∀ c ∈ beyond.head?, c.isDigit = false := fun c member => (first c member).2
  have digits := Text.takeWhile_append_of_stops noDigit front
  have rest := Text.dropWhile_append_of_stops noDigit front
  have stops : ((front.dropWhile Char.isDigit ++ beyond).head?.all fun c =>
      isSlash true c || endsPath c) =
        (front.dropWhile Char.isDigit).head?.all fun c => isSlash true c || endsPath c := by
    cases front.dropWhile Char.isDigit with
    | cons c rest => rfl
    | nil =>
      cases beyond with
      | nil => rfl
      | cons c rest => simpa using (first c rfl).1
  simp only [readPort, digits, rest, stops]
  split
  · rfl
  split <;> rfl

theorem readEnd_append (scheme : List Char) (userinfo : List Char × List Char) (host : Host)
    (front : List Char) :
    readEnd scheme userinfo host (front ++ beyond) =
      (readEnd scheme userinfo host front).map fun (authority, rest) =>
        (authority, rest ++ beyond) := by
  have colon : ∀ rest, front ++ beyond = ':' :: rest → ∃ others, front = ':' :: others := by
    intro rest same
    cases front with
    | nil =>
      have ends := outside ':' (by simp [show beyond = ':' :: rest from same])
      cases special <;> cases ends
    | cons c others => exact ⟨others, by rw [(List.cons.inj same).1]⟩
  by_cases begins : ∃ others, front = ':' :: others
  · obtain ⟨others, rfl⟩ := begins
    simp only [List.cons_append, readEnd, readPort_append outside]
    split
    · rfl
    · cases readPort scheme others <;> rfl
  · have plain (text : List Char) (other : ∀ rest, text ≠ ':' :: rest) :
        readEnd scheme userinfo host text =
          if host == .domain [] && !(userinfo.1.isEmpty && userinfo.2.isEmpty) then .error .emptyHost
          else .ok (⟨userinfo.1, userinfo.2, host, none⟩, text) := by
      rw [readEnd]
      exact other
    rw [plain front fun rest same => begins ⟨rest, same⟩,
      plain (front ++ beyond) fun rest same => begins (colon rest same)]
    split <;> rfl

theorem readServer_append {scheme : List Char} (same : isSpecial scheme = special)
    (userinfo : Option (List Char)) {front : List Char}
    (whole : ∀ c ∈ front, endsAuthority special c = false) :
    readServer scheme userinfo (front ++ beyond) =
      (readServer scheme userinfo front).map fun (authority, rest) =>
        (authority, rest ++ beyond) := by
  subst same
  rw [readServer, readServer, splitHost_append outside whole]
  dsimp only
  cases readHost scheme (splitHost (isSpecial scheme) false front).1 with
  | error fault => rfl
  | ok host => exact readEnd_append outside scheme _ host _

end

/-- An authority is read up to where it ends, whatever follows, but for a slip: no host at all is
refused after an at sign alone only if anything follows. -/
theorem readAuthority_append {scheme front beyond : List Char}
    (whole : ∀ c ∈ front, endsAuthority (isSpecial scheme) c = false)
    (outside : IsBeyond (isSpecial scheme) beyond) :
    readAuthority scheme (front ++ beyond) =
      if front = ['@'] ∧ beyond ≠ [] then .error .emptyHost
      else (readServer scheme (cutLastAt front).1 (cutLastAt front).2).map fun (authority, rest) =>
        followAuthority scheme authority (rest ++ beyond) := by
  have kept : ∀ c ∈ front, (!endsAuthority (isSpecial scheme) c) = true := fun c member => by
    simp [whole c member]
  have stops : ∀ c ∈ beyond.head?, (!endsAuthority (isSpecial scheme) c) = false :=
    fun c member => by simp [outside c member]
  have taken := Text.takeWhile_append_of_stops stops front
  have left := Text.dropWhile_append_of_stops stops front
  rw [List.takeWhile_eq_self_iff.mpr kept] at taken
  rw [List.dropWhile_eq_nil_iff.mpr kept, List.nil_append] at left
  obtain ⟨suffix, alone⟩ := cutLastAt_eq front
  rw [readAuthority_eq]
  simp only [taken, left]
  cases cut : cutLastAt front with
  | mk userinfo server =>
  rw [cut] at suffix alone
  have refused : (userinfo == some [] && server.isEmpty && !beyond.isEmpty) = true ↔
      front = ['@'] ∧ beyond ≠ [] := by
    simp [← alone]
  have server := readServer_append outside rfl userinfo fun c member =>
    whole c (suffix.subset member)
  simp only [refused, server]
  split
  · rfl
  · cases readServer scheme userinfo _ <;> rfl

/-- Whether an authority is read from a text up to where it ends, which leaves the rest of it. -/
structure IsAuthority (scheme front rest : List Char) (authority : Authority) : Prop where
  whole : ∀ c ∈ front, endsAuthority (isSpecial scheme) c = false
  suffix : rest <:+ front
  read {beyond : List Char} (outside : IsBeyond (isSpecial scheme) beyond)
    (named : front = ['@'] → beyond = []) :
    readAuthority scheme (front ++ beyond) =
      .ok (followAuthority scheme authority (rest ++ beyond))

theorem exists_isAuthority {scheme text : List Char} {url : Url}
    (read : readAuthority scheme text = .ok url) :
    ∃ front beyond rest authority, text = front ++ beyond ∧ IsBeyond (isSpecial scheme) beyond ∧
      (front = ['@'] → beyond = []) ∧ IsAuthority scheme front rest authority ∧
      url = followAuthority scheme authority (rest ++ beyond) := by
  let inside := fun c => !endsAuthority (isSpecial scheme) c
  let front := text.takeWhile inside
  let beyond := text.dropWhile inside
  have parts : front ++ beyond = text := List.takeWhile_append_dropWhile
  have whole : ∀ c ∈ front, endsAuthority (isSpecial scheme) c = false := fun c member => by
    simpa [inside] using List.mem_takeWhile_imp member
  have outside : IsBeyond (isSpecial scheme) beyond := by
    intro c first
    have kept := List.head?_dropWhile_not inside text
    rw [show (text.dropWhile inside).head? = some c from first] at kept
    simpa [inside] using kept
  have appended {beyond : List Char} (outside : IsBeyond (isSpecial scheme) beyond) :=
    readAuthority_append whole outside
  have found := appended outside
  rw [parts, read] at found
  split at found
  · cases found
  rename_i named
  obtain ⟨⟨authority, rest⟩, served, rfl⟩ := map_eq_ok_iff.mp found.symm
  refine ⟨front, beyond, rest, authority, parts.symm, outside, ?_, ?_, rfl⟩
  · exact fun alone => Classical.byContradiction fun more => named ⟨alone, more⟩
  · refine ⟨whole, (readServer_suffix served).trans (cutLastAt_eq front).1, ?_⟩
    intro beyond outside named
    rw [appended outside, if_neg fun both => both.2 (named both.1), served]
    rfl

section Paths

variable {scheme text extra : List Char} {url : Url}

theorem isTidy_followAuthority (scheme : List Char) (authority : Authority) (text : List Char) :
    (followAuthority scheme authority text).IsTidy := by
  unfold followAuthority
  split
  · split
    · exact isTidy_of_path rfl
    · rintro segments ⟨⟩
      exact .inl rfl
  · split
    · exact isTidy_of_path rfl
    split
    · rintro segments ⟨⟩
      exact .inl rfl
    · exact isTidy_of_path rfl

theorem isFolder_followAuthority (scheme : List Char) (authority : Authority)
    (unmarked : IsUnmarked text) (closed : IsClosed text) (nonempty : text ≠ []) :
    (followAuthority scheme authority text).path.IsFolder := by
  obtain ⟨c, rest, rfl⟩ := List.exists_cons_of_ne_nil nonempty
  have below := List.suffix_cons c rest
  have noMark := unmarked c List.mem_cons_self
  rw [followAuthority]
  split
  · exact isFolder_pathFrom scheme [] (unmarked.suffix below) (closed.suffix below)
  · rw [noMark, Bool.false_and]
    exact isFolder_pathFrom scheme [] unmarked closed

theorem path_followAuthority_append (scheme : List Char) (authority : Authority)
    (marked : ¬ IsUnmarked text) (extra : List Char) :
    (followAuthority scheme authority (text ++ extra)).path =
      (followAuthority scheme authority text).path := by
  cases text with
  | nil => exact absurd isUnmarked_nil marked
  | cons c rest =>
    rw [List.cons_append, followAuthority, followAuthority]
    split
    · rename_i slash
      refine pathFrom_append scheme [] (fun unmarked => marked ?_) extra
      exact unmarked.cons (endsPath_of_isSlash slash)
    split
    · rfl
    · exact pathFrom_append scheme [] marked extra

theorem isTidy_of_readAuthority (read : readAuthority scheme text = .ok url) : url.IsTidy := by
  obtain ⟨front, beyond, rest, authority, rfl, outside, named, own, rfl⟩ :=
    exists_isAuthority read
  exact isTidy_followAuthority _ _ _

private theorem IsAuthority.isUnmarked {front rest : List Char} {authority : Authority}
    (own : IsAuthority scheme front rest authority) : IsUnmarked front := by
  intro c member
  have inside := own.whole c member
  rw [endsAuthority, Bool.or_eq_false_iff] at inside
  exact inside.2

theorem isFolder_of_readAuthority (read : readAuthority scheme text = .ok url)
    (unmarked : IsUnmarked text) (closed : IsClosed text) (nonempty : text ≠ []) :
    url.path.IsFolder := by
  obtain ⟨front, beyond, rest, authority, rfl, outside, named, own, rfl⟩ :=
    exists_isAuthority read
  have more : beyond ≠ [] := by
    rintro rfl
    rw [List.append_nil] at closed nonempty
    have slash := closed _ (List.getLast?_eq_some_getLast nonempty)
    have inside := own.whole _ (List.getLast_mem nonempty)
    rw [slash, endsAuthority_slash] at inside
    cases inside
  have below : rest ++ beyond <:+ front ++ beyond := by
    obtain ⟨before, whole⟩ := own.suffix
    exact ⟨before, by rw [← whole, List.append_assoc]⟩
  exact isFolder_followAuthority scheme authority (unmarked.suffix below) (closed.suffix below)
    (List.append_ne_nil_of_right_ne_nil rest more)

theorem continues_readAuthority (read : readAuthority scheme text = .ok url)
    (follows : MayFollow text extra) (served : text ≠ ['@']) :
    Continues (readAuthority scheme) text extra url := by
  obtain ⟨front, beyond, rest, authority, rfl, outside, named, own, rfl⟩ :=
    exists_isAuthority read
  have outside : IsBeyond (isSpecial scheme) (beyond ++ extra) := by
    cases beyond with
    | cons c others => exact outside
    | nil =>
      rw [List.append_nil] at follows
      obtain rfl := follows.resolve_left (not_not_intro own.isUnmarked)
      exact isBeyond_slash _
  have longer := own.read outside fun alone =>
    absurd (by rw [named alone, alone, List.append_nil]) served
  refine ⟨_, (List.append_assoc front beyond extra).symm ▸ longer, fun marked => ?_⟩
  rw [← List.append_assoc]
  refine path_followAuthority_append scheme authority (fun unmarked => marked ?_) extra
  exact List.forall_mem_append.mpr
    ⟨own.isUnmarked, unmarked.suffix (List.suffix_append rest beyond)⟩

theorem readAuthority_ne_ok_of_isSpecial (special : isSpecial scheme = true)
    (unserved : text = [] ∨ text = ['@']) : readAuthority scheme text ≠ .ok url := by
  intro read
  have whole : ∀ c ∈ text, endsAuthority (isSpecial scheme) c = false := by
    rcases unserved with rfl | rfl
    · exact List.forall_mem_nil _
    · rw [special]
      exact List.forall_mem_singleton.mpr rfl
  have nothing : (cutLastAt text).2 = [] := by rcases unserved with rfl | rfl <;> rfl
  have refused (userinfo : Option (List Char)) :
      readServer scheme userinfo [] = .error .emptyHost := by
    simp [readServer, splitHost, readHost, special, Except.bind]
  have appended := readAuthority_append whole (isBeyond_nil _)
  rw [List.append_nil, read, nothing, refused] at appended
  split at appended <;> cases appended

end Paths

end Provision.Url
