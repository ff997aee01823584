import Mathlib.Logic.ExistsUnique
import Provision.Proofs.Json.Faithful

namespace Provision.Id

open Json (Codec)
open Json.Syntax (Blanks Doc Literal)

variable {kind : IdKind} {id : Id kind} {text : String}

theorem parse_eq_ok_iff : parse text = .ok id ↔ Uuid.ofString? text = some id.uuid := by
  obtain ⟨uuid⟩ := id
  rw [parse]
  cases Uuid.ofString? text <;> simp

/-- A text is read just if it is one of the texts of the number. -/
theorem parse_eq_ok_iff_denotes :
    parse text = .ok id ↔ Uuid.Denotes Uuid.IsUrnHead id.uuid.toNat text.toList := by
  rw [parse_eq_ok_iff, Uuid.ofString?, Uuid.ofChars?_eq_some_iff]

theorem parse_toString (id : Id kind) : parse id.toString = .ok id :=
  parse_eq_ok_iff.mpr id.uuid.ofString?_toString

theorem decode_string_eq_ok_iff {literal : Literal} (spells : literal.Spells text)
    (before after : Blanks) :
    codec.decode (Doc.mk before (.string literal) after).bytes = .ok id ↔ parse text = .ok id := by
  have content : literal.quotation.content = .ok text := (literal.content_eq_ok_iff text).mpr spells
  have outline : (Doc.mk before (.string literal) after).outline = .string literal.quotation := rfl
  rw [parse_eq_ok_iff, Codec.decode_doc, outline]
  obtain ⟨uuid⟩ := id
  simp only [codec, Codec.imap, Codec.uuid, Codec.readText, content, bind, Except.bind]
  cases read : Uuid.ofString? text <;> simp [read, Except.map]

/-- How identifiers of a kind are read and written, by what may stand at the head of a URN. -/
structure FollowsForms (IsHead : List Char → Prop) (kind : IdKind) : Prop where
  /-- A text is read just if it is one of the texts of a number, as the identifier of that. -/
  parses (text : String) (id : Id kind) :
    parse text = .ok id ↔ Uuid.Denotes IsHead id.uuid.toNat text.toList
  /-- The numbers are those of 128 bits, and each has one identifier. -/
  numbers (number : Nat) : number < 2 ^ 128 ↔ ∃! id : Id kind, id.uuid.toNat = number
  refuses (text : String) : (∀ number < 2 ^ 128, ¬ Uuid.Denotes IsHead number text.toList) →
    (parse text : Except Error (Id kind)) = .error (.invalidUuid text)
  /-- In JSON a string is read as its content is by itself. -/
  decodes (text : String) (literal : Literal) (before after : Blanks) (id : Id kind) :
    literal.Spells text →
      (codec.decode (Doc.mk before (.string literal) after).bytes = .ok id ↔ parse text = .ok id)
  /-- An identifier is shown by its number, in lower case and in groups. -/
  shows (id : Id kind) :
    Uuid.Grouped Uuid.groupLengths id.toString.toList (Uuid.digitsOf id.uuid.toNat)
  writes (id : Id kind) : codec.write id = .string id.toString
  parses_shown (id : Id kind) : parse id.toString = .ok id
  decodes_written (id : Id kind) : codec.decode (Text.utf8 (codec.write id).print) = .ok id
  /-- Showing what was read changes nothing any more. -/
  settles (text shown : String) :
    (parse text : Except Error (Id kind)).map toString = .ok shown →
      (parse shown : Except Error (Id kind)).map toString = .ok shown

/-- Identifiers of every kind do so with a head in letters of either case. -/
theorem followsForms (kind : IdKind) : FollowsForms Uuid.IsUrnHead kind where
  parses _ _ := parse_eq_ok_iff_denotes
  numbers number := by
    constructor
    · intro fits
      obtain ⟨uuid, stands⟩ := Uuid.exists_toNat fits
      refine ⟨⟨uuid⟩, stands, ?_⟩
      rintro ⟨other⟩ same
      exact congrArg mk (Uuid.eq_of_toNat_eq (same.trans stands.symm))
    · rintro ⟨id, rfl, -⟩
      exact id.uuid.toNat_lt
  refuses text unknown := by
    rw [parse]
    cases read : Uuid.ofString? text with
    | none => rfl
    | some uuid => exact absurd (Uuid.ofChars?_eq_some_iff.mp read) (unknown _ uuid.toNat_lt)
  decodes _ _ before after _ spells := decode_string_eq_ok_iff spells before after
  shows id := by
    rw [toString, Uuid.toString, String.toList_ofList]
    exact id.uuid.grouped_toChars
  writes _ := rfl
  parses_shown := parse_toString
  decodes_written id := by
    have faithful : (codec : Codec (Id kind)).IsFaithful := Codec.isFaithful_id
    have exact : (codec.write id).IsExact := faithful.exact false id
    rw [Codec.decode_print _ exact]
    exact faithful.reads false id
  settles text shown read := by
    cases parsed : (parse text : Except Error (Id kind)) with
    | error error => rw [parsed] at read; cases read
    | ok id =>
      rw [parsed] at read
      cases read
      rw [parse_toString]
      rfl

/-- A head in capitals is read too, so not only `urn:uuid:` may stand there. -/
theorem capital_head_parses :
    let text := "URN:UUID:484174a2-ae74-4658-9e56-50fc90e086cf"
    (∃ id : Id .image, parse text = .ok id ∧ id.toString = "484174a2-ae74-4658-9e56-50fc90e086cf") ∧
      ¬ FollowsForms (· = Uuid.urnStart) .image := by
  intro text
  let id : Id .image :=
    ⟨[4, 8, 4, 1, 7, 4, 10, 2, 10, 14, 7, 4, 4, 6, 5, 8, 9, 14, 5, 6, 5, 0, 15, 12, 9, 0, 14, 0, 8,
      6, 12, 15], rfl⟩
  have read : parse text = .ok id := parse_eq_ok_iff.mpr (by decide +kernel)
  refine ⟨⟨id, read, by decide +kernel⟩, fun follows => ?_⟩
  have denotes := (follows.parses text id).mp read
  have headed : (Uuid.unwrap text.toList).1 = .urn := by decide +kernel
  have first : text.toList.head? = some 'U' := by decide +kernel
  generalize text.toList = chars at denotes headed first
  cases denotes with
  | plain digits => rw [Uuid.unwrap_of_digits digits] at headed; cases headed
  | hyphenated groups => rw [Uuid.unwrap_of_hyphenates groups] at headed; cases headed
  | braced groups => cases first
  | urn heads groups => cases heads; cases first

end Provision.Id
