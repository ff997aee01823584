import Provision.Id
import Provision.Proofs.Json.Objects
import Provision.Proofs.Json.Printing
import Provision.Proofs.Timestamp
import Provision.Proofs.Uuid

/-!
Readers that get back what their writers wrote, also from a value whose objects have been sorted.
For a record this rests on its fields alone: each is either written and read back, or not written
and its own default.
-/
namespace Provision.Json

variable {α β : Type} {types : List Type}

/-- A value as it is, or with all its objects sorted. -/
def arranged (tidy : Bool) (json : Json) : Json := if tidy then json.sorted else json

section Arranged

variable (tidy : Bool)

@[simp] theorem arranged_bool (value : Bool) : (bool value).arranged tidy = .bool value := by
  cases tidy <;> rfl

@[simp] theorem arranged_number (value : Number) :
    (number value).arranged tidy = .number value := by
  cases tidy <;> rfl

@[simp] theorem arranged_string (value : String) :
    (string value).arranged tidy = .string value := by
  cases tidy <;> rfl

theorem sortedItems_eq_map (items : List Json) : sortedItems items = items.map sorted := by
  induction items with
  | nil => rfl
  | cons item items ih => rw [sortedItems, ih, List.map_cons]

@[simp] theorem arranged_list (items : List Json) :
    (list items).arranged tidy = .list (items.map (arranged tidy)) := by
  cases tidy with
  | false => exact congrArg Json.list items.map_id.symm
  | true => exact congrArg Json.list (sortedItems_eq_map items)

theorem insertMember_perm {member : String × Json} {members : List (String × Json)}
    (fresh : ∀ other ∈ members, other.1 ≠ member.1) :
    (insertMember member members).Perm (member :: members) := by
  induction members with
  | nil => rfl
  | cons next members ih =>
    obtain ⟨other, fresh⟩ := List.forall_mem_cons.mp fresh
    rw [insertMember, if_neg (Ne.symm other)]
    split
    · rfl
    · exact ((ih fresh).cons next).trans (.swap _ _ _)

theorem sortedMembers_perm {members : List (String × Json)}
    (distinct : (members.map Prod.fst).Nodup) :
    (sortedMembers members).Perm (members.map fun member => (member.1, member.2.sorted)) := by
  induction members with
  | nil => rfl
  | cons member members ih =>
    obtain ⟨key, value⟩ := member
    obtain ⟨fresh, distinct⟩ := List.nodup_cons.mp distinct
    have same := ih distinct
    have others : ∀ other ∈ sortedMembers members, other.1 ≠ key := by
      intro other present own
      obtain ⟨source, listed, rfl⟩ := List.mem_map.mp (same.mem_iff.mp present)
      exact fresh (List.mem_map.mpr ⟨source, listed, own⟩)
    rw [sortedMembers, sortedMember]
    exact (insertMember_perm others).trans (same.cons _)

/-- Arranging an object arranges its values, and changes at most the order of the members. -/
theorem exists_arranged_object {members : List (String × Json)}
    (distinct : (members.map Prod.fst).Nodup) :
    ∃ written, (object members).arranged tidy = .object written ∧
      written.Perm (members.map fun member => (member.1, member.2.arranged tidy)) := by
  cases tidy with
  | false => exact ⟨members, rfl, .of_eq members.map_id.symm⟩
  | true => exact ⟨sortedMembers members, rfl, sortedMembers_perm distinct⟩

end Arranged

/-- A reader and a writer that agree: what is written can be printed, is not `null`, and is read
back. -/
structure Codec.IsFaithful (codec : Codec α) : Prop where
  reads (tidy : Bool) (value : α) :
    codec.read ((codec.write value).arranged tidy).outline = .ok value
  exact (tidy : Bool) (value : α) : ((codec.write value).arranged tidy).IsExact
  present (tidy : Bool) (value : α) : ((codec.write value).arranged tidy).outline ≠ .null

namespace Codec

/-- What is written as a text is faithful if that text is read. -/
theorem isFaithful_of_text {codec : Codec α} {expected : String} {read : String → Except Refusal α}
    (print : α → String) (reads : codec.read = readText expected read)
    (writes : ∀ value, codec.write value = .string (print value))
    (same : ∀ value, read (print value) = .ok value) : codec.IsFaithful where
  reads tidy value := by
    rw [writes, arranged_string, reads]
    exact same value
  exact tidy value := by
    rw [writes, arranged_string]
    trivial
  present tidy value := by
    rw [writes, arranged_string]
    exact Outline.noConfusion

@[simp] theorem isFaithful_text : text.IsFaithful :=
  isFaithful_of_text id rfl (fun _ => rfl) fun _ => rfl

@[simp] theorem isFaithful_path : path.IsFaithful :=
  isFaithful_of_text id rfl (fun _ => rfl) fun _ => rfl

@[simp] theorem isFaithful_uuid : uuid.IsFaithful :=
  isFaithful_of_text Uuid.toString rfl (fun _ => rfl) fun id => by
    simp only [Uuid.ofString?_toString]

@[simp] theorem isFaithful_timestamp : timestamp.IsFaithful :=
  isFaithful_of_text Timestamp.toString rfl (fun _ => rfl) fun time => by
    rw [Timestamp.ofString_toString]
    rfl

@[simp] theorem isFaithful_bool : bool.IsFaithful where
  reads tidy value := by
    rw [bool, arranged_bool]
    rfl
  exact tidy value := by
    rw [bool, arranged_bool]
    trivial
  present tidy value := by
    rw [bool, arranged_bool]
    exact Outline.noConfusion

/-- What is written as a number of up to 64 bits is faithful if that number is read. -/
theorem isFaithful_of_nat {codec : Codec α} (toNat : α → Nat) (bits : Nat) (ofNat : Nat → α)
    (atMost : bits ≤ 64) (write : ∀ value, codec.write value = .nat (toNat value))
    (read : ∀ outline, codec.read outline = (readNat bits outline).map ofNat)
    (fits : ∀ value, toNat value < Nat.pow 2 bits) (same : ∀ value, ofNat (toNat value) = value) :
    codec.IsFaithful where
  reads tidy value := by
    have inRange : 0 ≤ (toNat value : Int) ∧ (toNat value : Int) < Nat.pow 2 bits :=
      ⟨Int.natCast_nonneg _, Int.ofNat_lt.mpr (fits value)⟩
    rw [write, nat, arranged_number, read]
    change (if 0 ≤ (toNat value : Int) ∧ (toNat value : Int) < Nat.pow 2 bits then
      Except.ok (Int.toNat (toNat value)) else _).map ofNat = _
    rw [if_pos inRange, Int.toNat_natCast, Except.map, same]
  exact tidy value := by
    have below : toNat value < Nat.pow 2 64 :=
      Nat.lt_of_lt_of_le (fits value) (Nat.pow_le_pow_right (by decide) atMost)
    rw [write, nat, arranged_number]
    exact ⟨Int.le_trans (by decide) (Int.natCast_nonneg _), Int.ofNat_lt.mpr below⟩
  present tidy value := by
    rw [write, nat, arranged_number]
    exact Outline.noConfusion

@[simp] theorem isFaithful_uint8 : uint8.IsFaithful :=
  isFaithful_of_nat UInt8.toNat 8 Nat.toUInt8 (by decide) (fun _ => rfl) (fun _ => rfl)
    UInt8.toNat_lt fun _ => UInt8.ofNat_toNat

@[simp] theorem isFaithful_uint16 : uint16.IsFaithful :=
  isFaithful_of_nat UInt16.toNat 16 Nat.toUInt16 (by decide) (fun _ => rfl) (fun _ => rfl)
    UInt16.toNat_lt fun _ => UInt16.ofNat_toNat

@[simp] theorem isFaithful_uint32 : uint32.IsFaithful :=
  isFaithful_of_nat UInt32.toNat 32 Nat.toUInt32 (by decide) (fun _ => rfl) (fun _ => rfl)
    UInt32.toNat_lt fun _ => UInt32.ofNat_toNat

@[simp] theorem isFaithful_uint64 : uint64.IsFaithful :=
  isFaithful_of_nat UInt64.toNat 64 Nat.toUInt64 (by decide) (fun _ => rfl) (fun _ => rfl)
    UInt64.toNat_lt fun _ => UInt64.ofNat_toNat

variable {codec : Codec α}

theorem IsFaithful.imap (faithful : codec.IsFaithful) {wrap : α → β} {unwrap : β → α}
    (same : ∀ value, wrap (unwrap value) = value) : (codec.imap wrap unwrap).IsFaithful where
  reads tidy value := by
    change (codec.read ((codec.write (unwrap value)).arranged tidy).outline).map wrap = _
    rw [faithful.reads, Except.map, same]
  exact tidy value := faithful.exact tidy (unwrap value)
  present tidy value := faithful.present tidy (unwrap value)

@[simp] theorem isFaithful_id {kind : IdKind} : (Id.codec : Codec (Id kind)).IsFaithful :=
  isFaithful_uuid.imap fun _ => rfl

@[simp] theorem IsFaithful.list (faithful : codec.IsFaithful) : codec.list.IsFaithful where
  reads tidy values := by
    have items : codec.readItems (outlines (values.map fun value =>
        (codec.write value).arranged tidy)) = .ok values := by
      rw [readItems_eq_ok_iff, outlines_eq_map, List.map_map, List.forall₂_map_left_iff,
        List.forall₂_same]
      exact fun value _ => faithful.reads tidy value
    change codec.list.read ((Json.list (values.map codec.write)).arranged tidy).outline = _
    rw [arranged_list, List.map_map]
    change (codec.readItems (outlines (values.map fun value =>
      (codec.write value).arranged tidy))).bind _ = _
    rw [items]
    rfl
  exact tidy values := by
    change ((Json.list (values.map codec.write)).arranged tidy).IsExact
    rw [arranged_list, List.map_map, IsExact, areExact_iff, List.forall_mem_map]
    exact fun value _ => faithful.exact tidy value
  present tidy values := by
    change ((Json.list (values.map codec.write)).arranged tidy).outline ≠ .null
    rw [arranged_list]
    exact Outline.noConfusion

end Codec

/-- A field of a record that agrees with itself: a value is read as it was written, and one that is
not written is the default. -/
structure Field.IsFaithful (field : Field α) : Prop where
  reads (tidy : Bool) (value : α) (shown : field.hides value = false) :
    field.codec.read ((field.codec.write value).arranged tidy).outline = .ok value
  exact (tidy : Bool) (value : α) (shown : field.hides value = false) :
    ((field.codec.write value).arranged tidy).IsExact
  default (value : α) (hidden : field.hides value = true) : field.absent = some value

namespace Field

variable {codec : Codec α} (faithful : codec.IsFaithful) (key : String)

include faithful

@[simp] theorem isFaithful_required : (required key codec).IsFaithful where
  reads tidy value _ := faithful.reads tidy value
  exact tidy value _ := faithful.exact tidy value
  default _ hidden := nomatch hidden

@[simp] theorem isFaithful_defaulted (default : α) :
    (defaulted key codec default).IsFaithful where
  reads tidy value _ := faithful.reads tidy value
  exact tidy value _ := faithful.exact tidy value
  default _ hidden := nomatch hidden

@[simp] theorem isFaithful_optional : (optional key codec).IsFaithful where
  reads tidy value shown := by
    match value with
    | none => cases shown
    | some value =>
      change codec.optional.read ((codec.write value).arranged tidy).outline = _
      rw [codec.read_optional (faithful.present tidy value), faithful.reads]
      rfl
  exact tidy value shown := by
    match value with
    | none => cases shown
    | some value => exact faithful.exact tidy value
  default value hidden := by
    match value with
    | none => rfl
    | some value => cases hidden

@[simp] theorem isFaithful_items : (items key codec).IsFaithful where
  reads tidy value _ := faithful.list.reads tidy value
  exact tidy value _ := faithful.list.exact tidy value
  default _ hidden := nomatch hidden

@[simp] theorem isFaithful_someItems : (someItems key codec).IsFaithful where
  reads tidy value _ := faithful.list.reads tidy value
  exact tidy value _ := faithful.list.exact tidy value
  default value hidden := by
    match value with
    | [] => rfl
    | _ :: _ => cases hidden

end Field

namespace Fields

def AreFaithful (fields : Fields types) : Prop :=
  ∀ {α : Type} (place : Place types α), (fields.get place).IsFaithful

@[simp] theorem areFaithful_nil : nil.AreFaithful := fun place => nomatch place

variable {field : Field α} {fields : Fields types}

theorem AreFaithful.cons (own : field.IsFaithful) (rest : fields.AreFaithful) :
    (Fields.cons field fields).AreFaithful := by
  intro β place
  cases place with
  | here => exact own
  | there place => exact rest place

@[simp] theorem areFaithful_cons :
    (Fields.cons field fields).AreFaithful ↔ field.IsFaithful ∧ fields.AreFaithful :=
  ⟨fun faithful => ⟨faithful .here, fun place => faithful (.there place)⟩,
    fun ⟨own, rest⟩ => AreFaithful.cons own rest⟩

theorem keys_members (fields : Fields types) (row : Row types) :
    ((fields.members row).map Prod.fst).Sublist fields.keys := by
  induction fields with
  | nil => exact .slnil
  | cons field fields ih =>
    obtain ⟨value, row⟩ := row
    change ((field.member value ++ fields.members row).map Prod.fst).Sublist
      (field.key :: fields.keys)
    rw [Field.member, List.map_append]
    split
    · exact (ih row).cons _
    · exact (ih row).cons_cons _

/-- A field's key has the field's value, unless that is not written. -/
theorem valuesOf_members (distinct : fields.keys.Nodup) (place : Place types α) (row : Row types) :
    valuesOf (fields.get place).key (fields.members row) =
      if (fields.get place).hides (row.get place) then []
      else [(fields.get place).codec.write (row.get place)] := by
  induction fields with
  | nil => cases place
  | cons field fields ih =>
    obtain ⟨value, row⟩ := row
    obtain ⟨fresh, distinct⟩ := List.nodup_cons.mp distinct
    change valuesOf _ (field.member value ++ fields.members row) = _
    rw [valuesOf_append]
    cases place with
    | here =>
      have others : valuesOf field.key (fields.members row) = [] :=
        valuesOf_eq_nil fun present => fresh ((fields.keys_members row).subset present)
      change valuesOf field.key (field.member value) ++ valuesOf field.key (fields.members row) =
        if field.hides value then [] else [field.codec.write value]
      rw [others, List.append_nil, Field.member]
      split
      · rfl
      · exact valuesOf_cons_of_eq _ _
    | there place =>
      have other : field.key ≠ (fields.get place).key := fun same =>
        fresh (same ▸ fields.key_mem_keys place)
      have own : valuesOf (fields.get place).key (field.member value) = [] := by
        apply valuesOf_eq_nil
        rw [Field.member]
        split
        · exact List.not_mem_nil
        · exact fun present => other (List.mem_singleton.mp present).symm
      rw [show (cons field fields).get (.there place) = fields.get place from rfl, own]
      exact ih distinct place row

/-- From what a row is written as, in any order, each field gets its value. -/
theorem gets_members (distinct : fields.keys.Nodup) (faithful : fields.AreFaithful) (tidy : Bool)
    (row : Row types) {written : List (String × Json)}
    (same : written.Perm
      ((fields.members row).map fun member => (member.1, member.2.arranged tidy)))
    (place : Place types α) :
    (fields.get place).Gets
      (valuesOf (fields.get place).key
        (written.map fun member => (member.1, member.2.outline))) (row.get place) := by
  have values : (valuesOf (fields.get place).key written).Perm
      ((valuesOf (fields.get place).key (fields.members row)).map (arranged tidy)) :=
    valuesOf_map (arranged tidy) (fields.get place).key (fields.members row) ▸ valuesOf_perm same
  rw [valuesOf_members distinct] at values
  rw [valuesOf_map]
  cases hidden : (fields.get place).hides (row.get place) with
  | true =>
    rw [hidden, if_pos rfl] at values
    rw [values.eq_nil]
    exact .absent ((faithful place).default _ hidden)
  | false =>
    rw [hidden, if_neg (by decide)] at values
    rw [List.perm_singleton.mp values]
    exact .present ((faithful place).reads tidy _ hidden)

theorem exact_members (faithful : fields.AreFaithful) (tidy : Bool) (row : Row types) :
    ∀ member ∈ fields.members row, (member.2.arranged tidy).IsExact := by
  induction fields with
  | nil => exact fun _ absurd => nomatch absurd
  | cons field fields ih =>
    obtain ⟨value, row⟩ := row
    obtain ⟨own, rest⟩ := areFaithful_cons.mp faithful
    intro member present
    rcases List.mem_append.mp present with first | later
    · cases hidden : field.hides value with
      | true =>
        rw [Field.member, hidden] at first
        cases first
      | false =>
        rw [Field.member, hidden] at first
        cases List.mem_singleton.mp first
        exact own.exact tidy value hidden
    · exact ih rest row member later

end Fields

theorem named_memberOutlines (members : List (String × Json)) :
    named (memberOutlines members) = members.map fun member => (member.1, member.2.outline) := by
  induction members with
  | nil => rfl
  | cons member members ih =>
    obtain ⟨key, value⟩ := member
    change (key, value.outline) :: named (memberOutlines members) = _
    rw [ih]
    rfl

/-- Whatever writes a record of faithful fields, and reads it by what each field gets, is
faithful. -/
theorem Codec.isFaithful_of_members {codec : Codec α} {record : Record α}
    (distinct : record.fields.keys.Nodup) (faithful : record.fields.AreFaithful)
    (writes : ∀ value, codec.write value = .object (record.members value))
    (reads : ∀ (members : List (Quotation × Outline)) (value : α),
      (∀ member ∈ members, ∃ key, member.1.content = .ok key) →
      (∀ member ∈ named members, member.1 ∈ record.fields.keys) →
      (∀ {β : Type} (place : Place record.types β), (record.fields.get place).Gets
        (valuesOf (record.fields.get place).key (named members))
        ((record.parts value).get place)) →
      codec.read (.object members .closed) = .ok value) : codec.IsFaithful := by
  have arranges (tidy : Bool) (value : α) :
      ∃ written, (codec.write value).arranged tidy = .object written ∧
        written.Perm ((record.members value).map fun member =>
          (member.1, member.2.arranged tidy)) := by
    rw [writes]
    exact exists_arranged_object tidy ((record.fields.keys_members _).nodup distinct)
  refine ⟨fun tidy value => ?_, fun tidy value => ?_, fun tidy value => ?_⟩
  · obtain ⟨written, shape, same⟩ := arranges tidy value
    rw [shape]
    apply reads (memberOutlines written) value
    · rw [memberOutlines_eq_map, List.forall_mem_map]
      exact fun member _ => ⟨member.1, rfl⟩
    · rw [named_memberOutlines, List.forall_mem_map]
      intro member present
      obtain ⟨source, listed, rfl⟩ := List.mem_map.mp (same.mem_iff.mp present)
      exact (record.fields.keys_members _).subset (List.mem_map.mpr ⟨source, listed, rfl⟩)
    · rw [named_memberOutlines]
      exact fun place => Fields.gets_members distinct faithful tidy _ same place
  · obtain ⟨written, shape, same⟩ := arranges tidy value
    rw [shape, IsExact, membersAreExact_iff]
    intro member present
    obtain ⟨source, listed, rfl⟩ := List.mem_map.mp (same.mem_iff.mp present)
    exact Fields.exact_members faithful tidy _ source listed
  · obtain ⟨written, shape, -⟩ := arranges tidy value
    rw [shape]
    exact Outline.noConfusion

theorem Record.isFaithful (record : Record α) (distinct : record.fields.keys.Nodup)
    (faithful : record.fields.AreFaithful) : record.codec.IsFaithful := by
  apply Codec.isFaithful_of_members distinct faithful (fun _ => rfl)
  intro members value texts known gets
  apply (record.read_object_iff distinct).mpr
  refine ⟨texts, ?_, _, record.build_parts value, gets⟩
  exact fun member present unknown => absurd (known member present) unknown

end Provision.Json
