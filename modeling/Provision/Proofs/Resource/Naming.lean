import Provision.Resource.Kind

namespace Provision.Kind

def names (kind : Kind) : List String := [kind.name, kind.typeName]

def Matches (kind : Kind) (text : String) : Bool := kind.spellings.contains (normalize text)

/-- One text is another but for the case of letters and for separators. -/
inductive Respells : List Char → List Char → Prop where
  | nil : Respells [] []
  | letter {c d : Char} {text other : List Char} (same : c.toLower = d.toLower)
    (rest : Respells text other) : Respells (c :: text) (d :: other)
  | inserted {c : Char} {text other : List Char} (separates : isSeparator c = true)
    (rest : Respells text other) : Respells (c :: text) other
  | removed {c : Char} {text other : List Char} (separates : isSeparator c = true)
    (rest : Respells text other) : Respells text (c :: other)

/-- The Kelvin sign as the letter that it looks like. -/
def plainLetter (c : Char) : Char := if c.toNat = 0x212A then 'k' else c

section Letters

variable (c : Char)

private theorem toLower_ascii : ∀ code : Fin 128,
    isSeparator (Char.ofNat code.val).toLower = isSeparator (Char.ofNat code.val) ∧
      Text.lowerChar (Char.ofNat code.val).toLower = Text.lowerChar (Char.ofNat code.val) := by
  decide +kernel

private theorem toLower_keeps :
    isSeparator c.toLower = isSeparator c ∧ Text.lowerChar c.toLower = Text.lowerChar c := by
  by_cases ascii : c.toNat < 128
  · have kept := toLower_ascii ⟨c.toNat, ascii⟩
    rwa [Char.ofNat_toNat] at kept
  · rw [Text.toLower_of_ge (Nat.not_lt.mp ascii)]
    exact ⟨rfl, rfl⟩

theorem isSeparator_toLower : isSeparator c.toLower = isSeparator c := (toLower_keeps c).1

theorem lowerChar_toLower : Text.lowerChar c.toLower = Text.lowerChar c := (toLower_keeps c).2

theorem lowerChar_eq_toLower_plainLetter : Text.lowerChar c = (plainLetter c).toLower := by
  rw [Text.lowerChar, plainLetter]
  split <;> rfl

theorem isSeparator_plainLetter : isSeparator (plainLetter c) = isSeparator c := by
  rw [plainLetter]
  split
  · next kelvin =>
    have known : c = Char.ofNat 0x212A := by rw [← kelvin, Char.ofNat_toNat]
    rw [known]
    decide
  · rfl

theorem isSeparator_lowerChar : isSeparator (Text.lowerChar c) = isSeparator c := by
  rw [lowerChar_eq_toLower_plainLetter, isSeparator_toLower, isSeparator_plainLetter]

end Letters

def letters (text : List Char) : List Char :=
  (text.filter (!isSeparator ·)).map Char.toLower

theorem letters_cons (c : Char) (text : List Char) :
    letters (c :: text) = if isSeparator c then letters text else c.toLower :: letters text := by
  cases separates : isSeparator c <;> simp [letters, separates]

/-- Spelling goes by the letters alone. -/
theorem respells_iff {text other : List Char} :
    Respells text other ↔ letters text = letters other := by
  constructor
  · intro spelt
    induction spelt with
    | nil => rfl
    | @letter c d text other same _ ih =>
      have alike : isSeparator c = isSeparator d := by
        rw [← isSeparator_toLower, same, isSeparator_toLower]
      rw [letters_cons, letters_cons, alike, same, ih]
    | inserted separates _ ih => rw [letters_cons, if_pos separates, ih]
    | removed separates _ ih => rw [letters_cons, if_pos separates, ih]
  · -- Along the first text; within each step, along the separators that the other begins with.
    intro same
    induction text generalizing other with
    | nil =>
      induction other with
      | nil => exact .nil
      | cons d other ih =>
        rw [letters_cons] at same
        split at same
        · next separates => exact .removed separates (ih same)
        · cases same
    | cons c text ih =>
      by_cases separates : isSeparator c = true
      · rw [letters_cons, if_pos separates] at same
        exact .inserted separates (ih same)
      · induction other with
        | nil =>
          rw [letters_cons, if_neg separates] at same
          cases same
        | cons d other inner =>
          rw [letters_cons d] at same
          split at same
          · next drops => exact .removed drops (inner same)
          · rw [letters_cons, if_neg separates] at same
            obtain ⟨first, rest⟩ := List.cons_eq_cons.mp same
            exact .letter first (ih rest)

/-- A text is compared by its letters, the Kelvin sign being one of them. -/
theorem normalize_eq_letters (text : String) :
    normalize text = letters (text.toList.map plainLetter) := by
  have kept (chars : List Char) : (chars.filter (!isSeparator ·)).map Text.lowerChar =
      letters (chars.map plainLetter) := by
    induction chars with
    | nil => rfl
    | cons c chars ih =>
      rw [List.map_cons, letters_cons, isSeparator_plainLetter, ← lowerChar_eq_toLower_plainLetter,
        ← ih]
      cases separates : isSeparator c <;> simp [separates]
  exact kept text.toList

theorem normalize_eq_map_letters (text : String) :
    normalize text = (letters text.toList).map Text.lowerChar := by
  rw [letters, List.map_map, normalize, Text.lower]
  exact List.map_congr_left fun c _ => (lowerChar_toLower c).symm

section Matching

variable {kind other : Kind} {text : String}

/-- Separators that a spelling has kept play no part for texts, which keep none. -/
private theorem normalize_eq_of_lower {chars : List Char} {name : String}
    (kept : chars.filter (!isSeparator ·) = name.toList.filter (!isSeparator ·))
    (same : normalize text = Text.lower chars) : normalize text = normalize name := by
  have pure : (normalize text).filter (!isSeparator ·) = normalize text := by
    rw [normalize, Text.lower, List.filter_map, List.filter_filter]
    simp only [Function.comp_def, isSeparator_lowerChar, Bool.and_self]
  rw [← pure, same, Text.lower, List.filter_map]
  simp only [Function.comp_def, isSeparator_lowerChar, kept]
  rfl

theorem matches_iff : kind.Matches text = true ↔
    ∃ name ∈ kind.names, normalize text = normalize name := by
  rw [Matches, List.contains_iff_mem]
  constructor
  · intro member
    rw [spellings, List.mem_cons, List.mem_singleton] at member
    rcases member with display | record
    · refine ⟨kind.name, List.mem_cons_self, normalize_eq_of_lower ?_ display⟩
      rw [List.filter_filter]
      refine List.filter_congr fun c _ => ?_
      cases blank : c == ' ' <;> simp [isSeparator, blank, bne]
    · exact ⟨kind.typeName, List.mem_cons_of_mem _ List.mem_cons_self,
        normalize_eq_of_lower rfl record⟩
  · rintro ⟨name, listed, same⟩
    have spelt : ∀ kind ∈ all, ∀ name ∈ kind.names, normalize name ∈ kind.spellings := by
      decide +kernel
    rw [same]
    exact spelt kind (mem_all kind) name listed

theorem eq_of_matches (own : kind.Matches text = true) (also : other.Matches text = true) :
    kind = other := by
  have apart : ∀ kind ∈ all, ∀ other ∈ all, ∀ spelling ∈ kind.spellings,
      spelling ∈ other.spellings → kind = other := by decide +kernel
  rw [Matches, List.contains_iff_mem] at own also
  exact apart kind (mem_all kind) other (mem_all other) _ own also

/-- Wherever a kind stands in a list, it is found by what matches it. -/
theorem find?_eq_some_iff {order : List Kind} (member : kind ∈ order) :
    order.find? (·.Matches text) = some kind ↔ kind.Matches text = true := by
  constructor
  · exact List.find?_some
  · intro own
    obtain ⟨found, first⟩ : ∃ found, order.find? (·.Matches text) = some found :=
      Option.isSome_iff_exists.mp (List.find?_isSome.mpr ⟨kind, member, own⟩)
    have matched := List.find?_some first
    rw [first, eq_of_matches matched own]

theorem parse_eq_ok_iff : parse text = .ok kind ↔ kind.Matches text = true := by
  rw [← find?_eq_some_iff (mem_all kind)]
  have searched : ofString? text = all.find? (·.Matches text) := rfl
  rw [parse, searched]
  cases all.find? (·.Matches text) <;> simp

/-- A text has the letters of a name just if it is a spelling of it, but for Kelvin signs. -/
theorem normalize_eq_iff {name : String} (listed : name ∈ kind.names) :
    normalize text = normalize name ↔
      Respells (text.toList.map plainLetter) name.toList := by
  have plain : ∀ kind ∈ all, ∀ name ∈ kind.names,
      name.toList.map plainLetter = name.toList := by decide +kernel
  rw [respells_iff, normalize_eq_letters, normalize_eq_letters name,
    plain kind (mem_all kind) name listed]

end Matching

structure ToldByName : Prop where
  /-- A name may be written in letters of either case, with separators anywhere. -/
  reads (kind : Kind) (name text : String) : name ∈ kind.names →
    Respells text.toList name.toList → parse text = .ok kind
  reads_name (kind : Kind) : parse kind.name = .ok kind
  /-- Only a text with the letters of a name is read. -/
  named (kind : Kind) (text : String) : parse text = .ok kind →
    ∃ name ∈ kind.names, normalize text = normalize name
  /-- That is a spelling of the name, but for Kelvin signs. -/
  respells (kind : Kind) (text : String) : parse text = .ok kind →
    ∃ name ∈ kind.names, Respells (text.toList.map plainLetter) name.toList
  unambiguous (kind other : Kind) (text : String) :
    kind.Matches text = true → other.Matches text = true → kind = other
  /-- In whatever order the kinds are tried, the result is the same. -/
  ordered (order : List Kind) (text : String) : (∀ kind, kind ∈ order) →
    order.find? (·.Matches text) = ofString? text
  /-- What names no kind is refused and shown. -/
  refuses (text : String) : (∀ kind : Kind, kind.Matches text = false) →
    parse text = .error (.invalidRequest s!"Unknown resource type: {text}")

/-- The names tell all kinds apart, however they are spelt. -/
theorem toldByName : ToldByName where
  reads kind name text listed spelt := by
    refine parse_eq_ok_iff.mpr (matches_iff.mpr ⟨name, listed, ?_⟩)
    rw [normalize_eq_map_letters, respells_iff.mp spelt, normalize_eq_map_letters name]
  reads_name kind := parse_eq_ok_iff.mpr (matches_iff.mpr ⟨kind.name, List.mem_cons_self, rfl⟩)
  named kind text read := matches_iff.mp (parse_eq_ok_iff.mp read)
  respells kind text read := by
    obtain ⟨name, listed, same⟩ := matches_iff.mp (parse_eq_ok_iff.mp read)
    exact ⟨name, listed, (normalize_eq_iff listed).mp same⟩
  unambiguous kind other text := eq_of_matches
  ordered order text complete := by
    refine Option.ext fun kind => ?_
    exact (find?_eq_some_iff (complete kind)).trans (find?_eq_some_iff (mem_all kind)).symm
  refuses text unknown := by
    have none : all.find? (·.Matches text) = none :=
      List.find?_eq_none.mpr fun kind _ => by simp [unknown kind]
    have missing : ofString? text = .none := none
    rw [parse, missing]

example : ofString? "networ\u212A_Adapter" = some .networkAdapter := by decide +kernel

end Provision.Kind
