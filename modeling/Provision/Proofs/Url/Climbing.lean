import Provision.Proofs.Text.Split
import Provision.Proofs.Url.Folder

/-!
Where paths lead. A path that begins with ordinary segments goes down along them, and what follows
stays below unless it climbs, which only segments of two dots do. So a reference that begins with
ordinary folders leads on from the last of them.
-/
namespace Provision.Url

def isOrdinaryChar (c : Char) : Bool := c.isAlphanum || ['-', '.', '_'].contains c

/-- Whether a segment is a name: letters, digits, hyphens, dots and low lines, but not only one or
two dots. -/
def isOrdinary (segment : List Char) : Bool :=
  segment.all isOrdinaryChar && segment != ['.'] && segment != ['.', '.']

def folders (segments : List (List Char)) : List Char := segments.flatMap (· ++ ['/'])

/-- Whether pieces of a path, so many segments below a place, never climb above it. -/
def staysBelow (depth : Nat) : List (List Char) → Bool
  | [] => true
  | piece :: pieces =>
    if isDoubleDot piece then
      match depth with
      | 0 => false
      | depth + 1 => staysBelow depth pieces
    else if isSingleDot piece then staysBelow depth pieces
    else staysBelow (depth + 1) pieces

/-- What URLs make of an ordinary character: nothing but itself. -/
structure IsLiteral (c : Char) : Prop where
  ascii : c.toNat < 0x80
  solid : isPadding c = false
  inPath : endsPath c = false
  inSegment : isSlash true c = false
  plain : inPathSet c = false
  noPercent : c.toLower ≠ '%'
  dot : c.toLower = '.' → c = '.'

theorem isLiteral_of_isOrdinaryChar {c : Char} (ordinary : isOrdinaryChar c = true) :
    IsLiteral c := by
  have all : ∀ n < 128, isOrdinaryChar (Char.ofNat n) = true →
      isPadding (Char.ofNat n) = false ∧ endsPath (Char.ofNat n) = false ∧
        isSlash true (Char.ofNat n) = false ∧ inPathSet (Char.ofNat n) = false ∧
        (Char.ofNat n).toLower ≠ '%' ∧
        ((Char.ofNat n).toLower = '.' → Char.ofNat n = '.') := by
    decide +kernel
  have low : c.toNat < 128 := by
    simp only [isOrdinaryChar, Bool.or_eq_true, List.contains_iff_mem, List.mem_cons,
      List.not_mem_nil, or_false] at ordinary
    rcases ordinary with plain | rfl | rfl | rfl
    · have bounds := isAlphanum_toNat plain
      omega
    all_goals decide
  have same : Char.ofNat c.toNat = c := Char.ofNat_toNat c
  have facts := all c.toNat low
  rw [same] at facts
  obtain ⟨solid, inPath, inSegment, plain, noPercent, dot⟩ := facts ordinary
  exact ⟨low, solid, inPath, inSegment, plain, noPercent, dot⟩

section Segment

variable {segment : List Char} (ordinary : isOrdinary segment = true)

include ordinary

private theorem isOrdinaryChar_of_mem {c : Char} (member : c ∈ segment) :
    isOrdinaryChar c = true := by
  simp only [isOrdinary, Bool.and_eq_true, List.all_eq_true] at ordinary
  exact ordinary.1.1 c member

theorem isLiteral_of_mem {c : Char} (member : c ∈ segment) : IsLiteral c :=
  isLiteral_of_isOrdinaryChar (isOrdinaryChar_of_mem ordinary member)

private theorem map_toLower_ne {dots : List Char} (percent : '%' ∈ dots) :
    segment.map Char.toLower ≠ dots := by
  rintro rfl
  obtain ⟨c, member, lowered⟩ := List.mem_map.mp percent
  exact (isLiteral_of_mem ordinary member).noPercent lowered

theorem isSingleDot_of_isOrdinary : isSingleDot segment = false := by
  have encoded : segment.map Char.toLower ≠ ['%', '2', 'e'] := map_toLower_ne ordinary (by simp)
  simp only [isOrdinary, Bool.and_eq_true, bne_iff_ne] at ordinary
  simp [isSingleDot, encoded, ordinary.1.2]

theorem isDoubleDot_of_isOrdinary : isDoubleDot segment = false := by
  have twoDots : segment.map Char.toLower ≠ ['.', '.'] := by
    intro lowered
    obtain ⟨a, rest, rfl, first, lowered⟩ := List.map_eq_cons_iff.mp lowered
    obtain ⟨b, rest, rfl, second, lowered⟩ := List.map_eq_cons_iff.mp lowered
    cases List.map_eq_nil_iff.mp lowered
    cases (isLiteral_of_mem ordinary (by simp)).dot first
    cases (isLiteral_of_mem ordinary (by simp)).dot second
    simp [isOrdinary] at ordinary
  have encoded {dots : List Char} (percent : '%' ∈ dots) : segment.map Char.toLower ≠ dots :=
    map_toLower_ne ordinary percent
  simp [isDoubleDot, twoDots, encoded]

theorem percentEncode_of_isOrdinary : percentEncode inPathSet segment = segment := by
  have alone : ∀ c ∈ segment,
      (if c.toNat < 0x80 && !inPathSet c then [c]
        else (String.utf8EncodeChar c).flatMap encodeByte) = [c] := by
    intro c member
    have literal := isLiteral_of_mem ordinary member
    simp [literal.ascii, literal.plain]
  rw [percentEncode, List.flatMap_def, List.map_congr_left alone, ← List.flatMap_def,
    List.flatMap_singleton']

theorem segmentText_of_isOrdinary (file : Bool) (above : List (List Char)) :
    segmentText file above segment = segment := by
  unfold segmentText
  split
  · have bar := isOrdinaryChar_of_mem ordinary (c := '|') (by simp)
    cases bar
  · exact percentEncode_of_isOrdinary ordinary

theorem walk_ordinary (file : Bool) (above : List (List Char)) {pieces : List (List Char)}
    (more : pieces ≠ []) :
    walk file above (segment :: pieces) = walk file (above ++ [segment]) pieces := by
  obtain ⟨piece, others, rfl⟩ := List.exists_cons_of_ne_nil more
  simp only [walk, isDoubleDot_of_isOrdinary ordinary, isSingleDot_of_isOrdinary ordinary,
    segmentText_of_isOrdinary ordinary, Bool.false_eq_true, if_false]

end Segment

theorem isSlash_slash (special : Bool) : isSlash special '/' = true := rfl

/-- A path that begins with ordinary folders leads on from the last of them. -/
theorem walk_folders (file : Bool) (above : List (List Char)) {names : List (List Char)}
    (ordinary : ∀ name ∈ names, isOrdinary name = true) (rest : List Char) :
    walk file above (Text.split (isSlash true) (folders names ++ rest)) =
      walk file (above ++ names) (Text.split (isSlash true) rest) := by
  induction names generalizing above with
  | nil => simp [folders]
  | cons name names ih =>
    have own := ordinary name List.mem_cons_self
    have others := ih (above ++ [name]) fun other member =>
      ordinary other (List.mem_cons_of_mem _ member)
    have whole : ∀ c ∈ name, isSlash true c = false := fun c member =>
      (isLiteral_of_mem own member).inSegment
    have cut := Text.split_piece whole (isSlash_slash true) (folders names ++ rest)
    have text : folders (name :: names) ++ rest = name ++ '/' :: (folders names ++ rest) := by
      simp [folders]
    rw [text, cut, walk_ordinary own file above (Text.split_ne_nil _ _), others]
    simp

theorem goUp_append (above rest : List (List Char)) {depth : Nat}
    (deep : depth + 1 ≤ rest.length) :
    ∃ others, depth ≤ others.length ∧ goUp (above ++ rest) = above ++ others := by
  rw [goUp]
  split
  · exact ⟨rest, by omega, rfl⟩
  · refine ⟨rest.dropLast, by simp; omega, ?_⟩
    exact List.dropLast_append_of_ne_nil (List.ne_nil_of_length_pos (by omega))

theorem walk_staysBelow (file : Bool) (above : List (List Char)) {pieces : List (List Char)}
    (nonempty : pieces ≠ []) {depth : Nat} (stays : staysBelow depth pieces = true)
    (rest : List (List Char)) (deep : depth ≤ rest.length) :
    ∃ others, others ≠ [] ∧ walk file (above ++ rest) pieces = above ++ others := by
  -- By induction on the pieces. Below the place there are at least as many segments as are counted:
  -- more of them where the name of a drive was not left.
  induction pieces generalizing depth rest with
  | nil => exact absurd rfl nonempty
  | cons piece pieces ih =>
    unfold staysBelow at stays
    split at stays
    next up =>
      cases depth with
      | zero => cases stays
      | succ depth =>
        obtain ⟨others, deep, climbed⟩ := goUp_append above rest deep
        cases pieces with
        | nil => exact ⟨others ++ [[]], by simp, by simp [walk, up, climbed]⟩
        | cons next pieces =>
          simpa [walk, up, climbed] using ih (List.cons_ne_nil _ _) stays _ deep
    next notUp =>
      split at stays
      next here =>
        cases pieces with
        | nil => exact ⟨rest ++ [[]], by simp, by simp [walk, notUp, here]⟩
        | cons next pieces =>
          simpa [walk, notUp, here] using ih (List.cons_ne_nil _ _) stays _ deep
      next down =>
        let segment := segmentText file (above ++ rest) piece
        cases pieces with
        | nil => exact ⟨rest ++ [segment], by simp, by simp [walk, notUp, down, segment]⟩
        | cons next pieces =>
          have deeper : depth + 1 ≤ (rest ++ [segment]).length := by simp; omega
          simpa [walk, notUp, down, segment] using ih (List.cons_ne_nil _ _) stays _ deeper

/-- The text of a reference up to its query, in the pieces between the slashes. -/
def pieces (text : List Char) : List (List Char) :=
  Text.split (isSlash true) ((cleanEnd text).takeWhile (!endsPath ·))

theorem walk_name (above : List (List Char)) {segment : List Char}
    (ordinary : isOrdinary segment = true) :
    walk false above (pieces segment) = above ++ [segment] := by
  have solid : cleanEnd segment = segment := by
    have kept := cleanEnd_append (fun c member => (isLiteral_of_mem ordinary member).solid) []
    simpa [cleanEnd] using kept
  have inPath : segment.takeWhile (!endsPath ·) = segment := by
    apply List.takeWhile_eq_self_iff.mpr
    intro c member
    rw [(isLiteral_of_mem ordinary member).inPath]
    rfl
  have whole : ∀ c ∈ segment, isSlash true c = false := fun c member =>
    (isLiteral_of_mem ordinary member).inSegment
  have one := Text.split_eq_singleton whole
  rw [pieces, solid, inPath, one]
  simp only [walk, isDoubleDot_of_isOrdinary ordinary, isSingleDot_of_isOrdinary ordinary,
    segmentText_of_isOrdinary ordinary, Bool.false_eq_true, if_false]

/-- Whether a URL has neither a query nor a fragment. -/
def IsBare (url : Url) : Prop := url.query = none ∧ url.fragment = none

theorem splitQuery_eq_none_iff {special : Bool} {text : List Char}
    (begins : ∀ mark, text.head? = some mark → endsPath mark = true) :
    (splitQuery special text).1 = none ∧ (splitQuery special text).2 = none ↔ text = [] := by
  constructor
  · rintro ⟨query, fragment⟩
    cases text with
    | nil => rfl
    | cons mark rest =>
      have ends := begins mark rfl
      simp only [endsPath, Bool.or_eq_true, beq_iff_eq] at ends
      rcases ends with rfl | rfl
      · have front : ∃ others, (Text.cutFirst (· == '#') ('?' :: rest)).1 = '?' :: others := by
          rw [Text.cutFirst]
          split
          · exact ⟨_, rfl⟩
          · exact ⟨_, rfl⟩
        obtain ⟨others, front⟩ := front
        simp [splitQuery, front] at query
      · simp [splitQuery, Text.cutFirst] at fragment
  · rintro rfl
    exact ⟨rfl, rfl⟩

section Folders

variable {names : List (List Char)} (ordinary : ∀ name ∈ names, isOrdinary name = true)

include ordinary

private theorem of_mem_folders {c : Char} (member : c ∈ folders names) :
    isPadding c = false ∧ endsPath c = false := by
  obtain ⟨name, inNames, inName⟩ := List.mem_flatMap.mp member
  rcases List.mem_append.mp inName with inName | slash
  · have literal := isLiteral_of_mem (ordinary name inNames) inName
    exact ⟨literal.solid, literal.inPath⟩
  · cases List.mem_singleton.mp slash
    decide

theorem cleanEnd_folders (text : List Char) :
    cleanEnd (folders names ++ text) = folders names ++ cleanEnd text :=
  cleanEnd_append (fun _ member => (of_mem_folders ordinary member).1) text

private theorem inPath_of_mem_folders : ∀ c ∈ folders names, (!endsPath c) = true := by
  intro c member
  rw [(of_mem_folders ordinary member).2]
  rfl

variable {scheme : List Char} {authority : Option Authority} {above : List (List Char)}

/-- Only marks after the folders begin a query or a fragment. -/
theorem isBare_follow_folders (text : List Char) :
    (follow scheme authority above (folders names ++ cleanEnd text)).IsBare ↔
      '?' ∉ text ∧ '#' ∉ text := by
  rw [← mem_cleanEnd_iff (c := '?') (by decide), ← mem_cleanEnd_iff (c := '#') (by decide)]
  simp only [IsBare, follow, List.dropWhile_append_of_pos (inPath_of_mem_folders ordinary)]
  rw [splitQuery_eq_none_iff]
  · simp only [List.dropWhile_eq_nil_iff, endsPath, Bool.not_eq_true', Bool.or_eq_false_iff,
      beq_eq_false_iff_ne]
    constructor
    · intro inside
      exact ⟨fun member => (inside _ member).1 rfl, fun member => (inside _ member).2 rfl⟩
    · rintro ⟨noQuery, noFragment⟩ c member
      constructor
      · rintro rfl
        exact noQuery member
      · rintro rfl
        exact noFragment member
  · intro mark first
    have outside := List.head?_dropWhile_not (!endsPath ·) (cleanEnd text)
    simpa [first] using outside

/-- A reference leads on from the folders that it begins with. -/
theorem path_follow_folders (web : isWeb scheme = true) (text : List Char) :
    (follow scheme authority above (folders names ++ cleanEnd text)).path =
      .rooted (walk false (above ++ names) (pieces text)) := by
  simp only [follow, readPath, isSpecial_of_isWeb web, unfiled_of_isWeb web, Bool.false_eq_true,
    if_false, List.takeWhile_append_of_pos (inPath_of_mem_folders ordinary),
    walk_folders false above ordinary]
  rfl

end Folders

section Text

variable (above names : List (List Char))

private theorem cons_slash_folders : '/' :: folders names = names.flatMap ('/' :: ·) ++ ['/'] := by
  induction names with
  | nil => rfl
  | cons name names ih => simp [folders, ← ih]

/-- The text of a folder is the start of the text of whatever is below it. -/
theorem text_below (segment : List Char) (others : List (List Char)) :
    (Path.rooted (above ++ names ++ segment :: others)).text =
      (Path.rooted (above ++ [[]])).text ++ folders names ++
        (segment ++ (Path.rooted others).text) := by
  calc (Path.rooted (above ++ names ++ segment :: others)).text
      = (Path.rooted above).text ++ (names.flatMap ('/' :: ·) ++ ['/']) ++
          (segment ++ (Path.rooted others).text) := by simp [Path.text]
    _ = (Path.rooted above).text ++ '/' :: folders names ++
          (segment ++ (Path.rooted others).text) := by rw [cons_slash_folders]
    _ = _ := by simp [Path.text]

end Text

end Provision.Url
