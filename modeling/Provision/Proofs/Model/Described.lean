import Provision.Proofs.Json.Objects
import Provision.Proofs.Model.Page

/-!
Documents are read member by member. What a record or a page takes from a text is decided by its
known members, each by itself; of all others it only matters that they can be passed over, which in
a page means that they can be kept.
-/
namespace Provision

open Json Json.Syntax

variable {α β : Type} {types : List Type}

def PageFormat.record (format : PageFormat α) : Record (Page α) where
  name := format.name
  types := List α :: PageInfo.record.types
  fields := format.fields
  build := Page.ofRow
  parts page := Prod.mk page.items (PageInfo.record.parts page.info)
  build_parts _ := rfl
  parts_build _ := rfl

namespace Json

/-- The fields that describe the objects of a type, and which values may stand under other keys. -/
inductive Described : {α : Type} → Codec α → Record α → (Doc → Prop) → Prop where
  | record {α : Type} {record : Record α} (distinct : record.fields.keys.Nodup) :
    Described record.codec record fun _ => True
  | page {α : Type} {format : PageFormat α} (distinct : format.fields.keys.Nodup) :
    Described format.codec format.record (Doc.CanBeKept (Outline.depthLimit - 1))

/-- What a document must be in its known members: none occurs twice, those of fields without a
default occur, and the value of each reads as its field's type by itself. -/
structure Fits (fields : Fields types) (members : List Member) : Prop where
  once : ∀ key ∈ fields.keys, (valuesOf key (entries members)).length ≤ 1
  complete : ∀ {α : Type} (place : Place types α), (fields.get place).absent = none →
    ∃ value, ((fields.get place).key, value) ∈ entries members
  reads : ∀ {α : Type} (place : Place types α) (doc : Doc),
    ((fields.get place).key, doc) ∈ entries members →
      ∃ value, (fields.get place).codec.decode doc.bytes = .ok value

/-- What a document must be to be read: it fits in its known members, every key is a text, and the
values under other keys can be passed over. -/
structure Admits (fields : Fields types) (Passable : Doc → Prop) (members : List Member) : Prop
    extends Fits fields members where
  texts : ∀ member ∈ members, ∃ key, member.key.Spells key
  passes : ∀ entry ∈ entries members, entry.1 ∉ fields.keys → Passable entry.2

namespace Described

variable {codec : Codec β} {record : Record β} {Passable : Doc → Prop}

theorem distinct (described : Described codec record Passable) : record.fields.keys.Nodup := by
  cases described with
  | record distinct => exact distinct
  | page distinct => exact distinct

private theorem texts_iff (members : List Member) :
    (∀ member ∈ membersOutline members, ∃ key, member.1.content = .ok key) ↔
      ∀ member ∈ members, ∃ key, member.key.Spells key := by
  induction members with
  | nil => simp [membersOutline]
  | cons member members ih =>
    obtain ⟨before, key, after, value⟩ := member
    simp only [membersOutline, List.forall_mem_cons, ih, Member.outline, Member.key,
      Literal.content_eq_ok_iff]

/-- What is said of the outlines of members, said of the members. -/
private theorem members_iff (record : Record β) (passes : Outline → Prop)
    (passable : ∀ doc : Doc, passes doc.outline ↔ Passable doc) (members : List Member)
    (value : β) :
    ((∀ member ∈ membersOutline members, ∃ key, member.1.content = .ok key) ∧
        (∀ member ∈ named (membersOutline members), member.1 ∉ record.fields.keys →
          passes member.2) ∧
        ∃ row, record.build row = value ∧ ∀ {α : Type} (place : Place record.types α),
          (record.fields.get place).Gets
            (valuesOf (record.fields.get place).key (named (membersOutline members)))
            (row.get place)) ↔
      (∀ member ∈ members, ∃ key, member.key.Spells key) ∧
        (∀ entry ∈ entries members, entry.1 ∉ record.fields.keys → Passable entry.2) ∧
        ∀ {α : Type} (place : Place record.types α), (record.fields.get place).Takes
          (valuesOf (record.fields.get place).key (entries members))
          ((record.parts value).get place) := by
  rw [texts_iff]
  simp only [named_membersOutline, List.forall_mem_map, passable, valuesOf_map,
    ← Field.takes_iff_gets]
  refine and_congr_right fun _ => and_congr_right fun _ => ?_
  constructor
  · rintro ⟨row, rfl, takes⟩
    rwa [record.parts_build]
  · intro takes
    exact ⟨_, record.build_parts value, takes⟩

/-- A document is read by what each field takes from the members of its key. -/
theorem decode_eq_ok_iff (described : Described codec record Passable) (margins : Margins)
    (members : List Member) (value : β) :
    codec.decode (margins.object members).bytes = .ok value ↔
      (∀ member ∈ members, ∃ key, member.key.Spells key) ∧
        (∀ entry ∈ entries members, entry.1 ∉ record.fields.keys → Passable entry.2) ∧
        ∀ {α : Type} (place : Place record.types α), (record.fields.get place).Takes
          (valuesOf (record.fields.get place).key (entries members))
          ((record.parts value).get place) := by
  rw [codec.decode_doc]
  cases described with
  | record distinct =>
    exact (record.read_object_iff distinct).trans
      (members_iff record (fun outline => outline.skip = .ok ())
        (fun doc => iff_of_true (skip_doc doc) trivial) members value)
  | @page _ format distinct =>
    exact (format.read_object_iff distinct).trans
      (members_iff format.record Outline.IsKept (fun doc => exists_doc_iff doc _) members value)

theorem accepts_iff (described : Described codec record Passable) (margins : Margins)
    (members : List Member) :
    (∃ value, codec.decode (margins.object members).bytes = .ok value) ↔
      Admits record.fields Passable members := by
  constructor
  · rintro ⟨value, done⟩
    obtain ⟨texts, passes, takes⟩ := (described.decode_eq_ok_iff margins members value).mp done
    refine ⟨⟨?_, ?_, ?_⟩, texts, passes⟩
    · intro key known
      obtain ⟨α, place, rfl⟩ := Fields.exists_place known
      exact (takes place).length_le_one
    · intro α place required
      have own := takes place
      cases values : valuesOf (record.fields.get place).key (entries members) with
      | nil =>
        rw [values] at own
        exact absurd (required.symm.trans own.eq_default) (by simp)
      | cons value rest => exact ⟨value, mem_valuesOf.mp (values ▸ List.mem_cons_self)⟩
    · intro α place doc present
      exact ⟨_, (takes place).reads_of_mem (mem_valuesOf.mpr present)⟩
  · rintro ⟨⟨once, complete, reads⟩, texts, passes⟩
    have takes {α : Type} (place : Place record.types α) :
        ∃ value, (record.fields.get place).Takes
          (valuesOf (record.fields.get place).key (entries members)) value := by
      have atMost := once _ (record.fields.key_mem_keys place)
      match values : valuesOf (record.fields.get place).key (entries members) with
      | [] =>
        cases default : (record.fields.get place).absent with
        | none =>
          obtain ⟨value, present⟩ := complete place default
          exact absurd (mem_valuesOf.mpr present) (values ▸ List.not_mem_nil)
        | some default' => exact ⟨default', .absent default⟩
      | [doc] =>
        obtain ⟨value, own⟩ := reads place doc (mem_valuesOf.mp (values ▸ List.mem_cons_self))
        exact ⟨value, .present own⟩
      | _ :: _ :: _ =>
        rw [values] at atMost
        simp at atMost
    refine ⟨record.build (.ofGet record.types fun place => (takes place).choose), ?_⟩
    apply (described.decode_eq_ok_iff margins members _).mpr
    refine ⟨texts, passes, fun place => ?_⟩
    rw [record.parts_build, Row.get_ofGet]
    exact (takes place).choose_spec

theorem decode_reorder (described : Described codec record Passable) (margins others : Margins)
    {members reordered : List Member} (same : members.Perm reordered) {value : β}
    (done : codec.decode (margins.object members).bytes = .ok value) :
    codec.decode (others.object reordered).bytes = .ok value := by
  obtain ⟨texts, passes, takes⟩ := (described.decode_eq_ok_iff margins members value).mp done
  have sameEntries : (entries members).Perm (entries reordered) := same.filterMap _
  apply (described.decode_eq_ok_iff others reordered value).mpr
  refine ⟨?_, ?_, fun place => (takes place).perm (valuesOf_perm sameEntries)⟩
  · intro member present
    exact texts member (same.mem_iff.mpr present)
  · intro entry present
    exact passes entry (sameEntries.mem_iff.mpr present)

theorem decode_cons_iff_of_unknown (described : Described codec record Passable)
    (margins : Margins) {extra : Member} {key : String} (spelt : extra.key.Spells key)
    (unknown : key ∉ record.fields.keys) (passable : Passable extra.value)
    (members : List Member) (value : β) :
    codec.decode (margins.object (extra :: members)).bytes = .ok value ↔
      codec.decode (margins.object members).bytes = .ok value := by
  have other {α : Type} (place : Place record.types α) :
      valuesOf (record.fields.get place).key (entries (extra :: members)) =
        valuesOf (record.fields.get place).key (entries members) := by
    rw [entries_cons spelt]
    exact valuesOf_cons_of_ne _ _ fun same => unknown (same ▸ record.fields.key_mem_keys place)
  rw [described.decode_eq_ok_iff, described.decode_eq_ok_iff]
  simp only [other]
  rw [entries_cons spelt]
  simp only [List.forall_mem_cons]
  constructor
  · rintro ⟨⟨-, texts⟩, ⟨-, passes⟩, takes⟩
    exact ⟨texts, passes, takes⟩
  · rintro ⟨texts, passes, takes⟩
    exact ⟨⟨⟨key, spelt⟩, texts⟩, ⟨fun _ => passable, passes⟩, takes⟩

theorem decode_append_iff_of_unknown (described : Described codec record Passable)
    (margins : Margins) {extras : List Member}
    (unknown : ∀ extra ∈ extras, ∃ key, extra.key.Spells key ∧ key ∉ record.fields.keys ∧
      Passable extra.value)
    (members : List Member) (value : β) :
    codec.decode (margins.object (extras ++ members)).bytes = .ok value ↔
      codec.decode (margins.object members).bytes = .ok value := by
  induction extras with
  | nil => rfl
  | cons extra extras ih =>
    obtain ⟨⟨key, spelt, fresh, passable⟩, unknown⟩ := List.forall_mem_cons.mp unknown
    exact (described.decode_cons_iff_of_unknown margins spelt fresh passable _ value).trans
      (ih unknown)

/-- The only member of a known key holds the only value of that key. -/
private theorem valuesOf_rest (described : Described codec record Passable) {margins : Margins}
    {member : Member} {members : List Member} (place : Place record.types α)
    (spelt : member.key.Spells (record.fields.get place).key) {value : β}
    (done : codec.decode (margins.object (member :: members)).bytes = .ok value) :
    valuesOf (record.fields.get place).key (entries members) = [] := by
  obtain ⟨-, -, takes⟩ := (described.decode_eq_ok_iff _ _ _).mp done
  have atMost := (takes place).length_le_one
  rw [entries_cons spelt, valuesOf_cons_of_eq, List.length_cons] at atMost
  exact List.eq_nil_of_length_eq_zero (by omega)

theorem decode_remove (described : Described codec record Passable) {margins : Margins}
    {member : Member} {members : List Member} (place : Place record.types α)
    (spelt : member.key.Spells (record.fields.get place).key) {default : α}
    (optional : (record.fields.get place).absent = some default) {value : β}
    (done : codec.decode (margins.object (member :: members)).bytes = .ok value) :
    codec.decode (margins.object members).bytes =
      .ok (record.build ((record.parts value).set place default)) := by
  have rest := described.valuesOf_rest place spelt done
  obtain ⟨texts, passes, takes⟩ := (described.decode_eq_ok_iff _ _ _).mp done
  apply (described.decode_eq_ok_iff margins members _).mpr
  rw [entries_cons spelt] at passes takes
  refine ⟨(List.forall_mem_cons.mp texts).2, (List.forall_mem_cons.mp passes).2, ?_⟩
  rw [record.parts_build]
  apply Fields.takes_set described.distinct
    (fun key => valuesOf key (((record.fields.get place).key, member.value) :: entries members))
    (fun key => valuesOf key (entries members)) takes
  · intro key other
    exact (valuesOf_cons_of_ne _ _ (Ne.symm other)).symm
  · rw [rest]
    exact .absent optional

theorem decode_exchange (described : Described codec record Passable) {margins : Margins}
    {member other : Member} {members : List Member} (place : Place record.types α)
    (spelt : member.key.Spells (record.fields.get place).key)
    (speltToo : other.key.Spells (record.fields.get place).key)
    (same : ∀ read, (record.fields.get place).codec.decode member.value.bytes = .ok read →
      (record.fields.get place).codec.decode other.value.bytes = .ok read) {value : β}
    (done : codec.decode (margins.object (member :: members)).bytes = .ok value) :
    codec.decode (margins.object (other :: members)).bytes = .ok value := by
  have rest := described.valuesOf_rest place spelt done
  obtain ⟨texts, passes, takes⟩ := (described.decode_eq_ok_iff _ _ _).mp done
  apply (described.decode_eq_ok_iff margins _ _).mpr
  rw [entries_cons spelt] at passes takes
  rw [entries_cons speltToo]
  have own := takes place
  rw [valuesOf_cons_of_eq, rest] at own
  refine ⟨List.forall_mem_cons.mpr ⟨⟨_, speltToo⟩, (List.forall_mem_cons.mp texts).2⟩,
    List.forall_mem_cons.mpr ⟨?_, (List.forall_mem_cons.mp passes).2⟩, ?_⟩
  · exact fun unknown => absurd (record.fields.key_mem_keys place) unknown
  · rw [← (record.parts value).set_get place]
    apply Fields.takes_set described.distinct
      (fun key => valuesOf key (((record.fields.get place).key, member.value) :: entries members))
      (fun key => valuesOf key (((record.fields.get place).key, other.value) :: entries members))
      takes
    · intro key ne
      rw [valuesOf_cons_of_ne _ _ (Ne.symm ne), valuesOf_cons_of_ne _ _ (Ne.symm ne)]
    · rw [valuesOf_cons_of_eq, rest]
      exact .present (same _ (own.reads_of_mem List.mem_cons_self))

end Described

structure Composes (codec : Codec β) (record : Record β) (Passable : Doc → Prop) : Prop where
  /-- A document is read if and only if it is admissible. -/
  accepts (margins : Margins) (members : List Member) :
    (∃ value, codec.decode (margins.object members).bytes = .ok value) ↔
      Admits record.fields Passable members
  /-- A field that occurs is what its member reads as by itself. -/
  present {margins : Margins} {members : List Member} {value : β}
    (done : codec.decode (margins.object members).bytes = .ok value) {α : Type}
    (place : Place record.types α) {doc : Doc}
    (occurs : ((record.fields.get place).key, doc) ∈ entries members) :
    (record.fields.get place).codec.decode doc.bytes = .ok ((record.parts value).get place)
  /-- A field that does not occur is its default. -/
  absent {margins : Margins} {members : List Member} {value : β}
    (done : codec.decode (margins.object members).bytes = .ok value) {α : Type}
    (place : Place record.types α)
    (misses : ∀ doc, ((record.fields.get place).key, doc) ∉ entries members) :
    (record.fields.get place).absent = some ((record.parts value).get place)
  /-- Blanks are of no account. -/
  blanks {doc other : Doc} (same : doc.bare = other.bare) :
    codec.decode doc.bytes = codec.decode other.bytes
  /-- The order of members is of no account. -/
  order {members reordered : List Member} (same : members.Perm reordered)
    (margins others : Margins) (value : β) :
    codec.decode (margins.object members).bytes = .ok value ↔
      codec.decode (others.object reordered).bytes = .ok value
  /-- Unknown members are of no account, wherever they stand. -/
  unknown {extras members mixed : List Member}
    (unknown : ∀ extra ∈ extras, ∃ key, extra.key.Spells key ∧ key ∉ record.fields.keys ∧
      Passable extra.value)
    (parts : mixed.Perm (extras ++ members)) (margins others : Margins) (value : β) :
    codec.decode (margins.object mixed).bytes = .ok value ↔
      codec.decode (others.object members).bytes = .ok value
  /-- Without its member a field with a default falls back to that, and the others stay. -/
  removal {margins : Margins} {front back : List Member} {member : Member} {value : β}
    (done : codec.decode (margins.object (front ++ member :: back)).bytes = .ok value) {α : Type}
    (place : Place record.types α) (spelt : member.key.Spells (record.fields.get place).key)
    {default : α} (optional : (record.fields.get place).absent = some default) :
    codec.decode (margins.object (front ++ back)).bytes =
      .ok (record.build ((record.parts value).set place default))

theorem Described.composes {codec : Codec β} {record : Record β} {Passable : Doc → Prop}
    (described : Described codec record Passable) : Composes codec record Passable where
  accepts := described.accepts_iff
  present {margins members value} done _ place _ occurs := by
    obtain ⟨-, -, takes⟩ := (described.decode_eq_ok_iff margins members value).mp done
    exact (takes place).reads_of_mem (mem_valuesOf.mpr occurs)
  absent {margins members value} done _ place misses := by
    obtain ⟨-, -, takes⟩ := (described.decode_eq_ok_iff margins members value).mp done
    have none' : valuesOf (record.fields.get place).key (entries members) = [] :=
      List.eq_nil_iff_forall_not_mem.mpr fun doc occurs => misses doc (mem_valuesOf.mp occurs)
    exact (none' ▸ takes place).eq_default
  blanks := codec.decode_of_bare_eq
  order same margins others _ :=
    ⟨described.decode_reorder margins others same,
      described.decode_reorder others margins same.symm⟩
  unknown unknown parts margins others value := by
    rw [← described.decode_append_iff_of_unknown others unknown]
    exact ⟨described.decode_reorder margins others parts,
      described.decode_reorder others margins parts.symm⟩
  removal {margins _ _ _ _} done _ place spelt _ optional := by
    have moved := described.decode_reorder margins margins List.perm_middle done
    exact described.decode_remove place spelt optional moved

/-- Two texts of a type that differ in blanks, in the order of members and in unknown members, at
any depth. -/
inductive Variant : {α : Type} → Codec α → Doc → Doc → Prop where
  | blanks {α : Type} {codec : Codec α} {doc other : Doc} (same : doc.bare = other.bare) :
    Variant codec doc other
  | order {α : Type} {codec : Codec α} {record : Record α} {Passable : Doc → Prop}
    (described : Described codec record Passable) {members reordered : List Member}
    (same : members.Perm reordered) (margins : Margins) :
    Variant codec (margins.object members) (margins.object reordered)
  | unknown {α : Type} {codec : Codec α} {record : Record α} {Passable : Doc → Prop}
    (described : Described codec record Passable) {extra : Member} {key : String}
    (spelt : extra.key.Spells key) (fresh : key ∉ record.fields.keys)
    (passable : Passable extra.value) (margins : Margins) (members : List Member) :
    Variant codec (margins.object (extra :: members)) (margins.object members)
  | member {α β : Type} {codec : Codec β} {record : Record β} {Passable : Doc → Prop}
    (described : Described codec record Passable) (place : Place record.types α)
    {member other : Member} (spelt : member.key.Spells (record.fields.get place).key)
    (speltToo : other.key.Spells (record.fields.get place).key)
    (inner : Variant (record.fields.get place).codec member.value other.value)
    (margins : Margins) (members : List Member) :
    Variant codec (margins.object (member :: members)) (margins.object (other :: members))
  | item {α : Type} {codec : Codec α} {doc other : Doc} (inner : Variant codec doc other)
    (margins : Margins) (front back : List Doc) :
    Variant codec.list (margins.list (front ++ doc :: back)) (margins.list (front ++ other :: back))
  | optional {α : Type} {codec : Codec α} {doc other : Doc} (inner : Variant codec doc other) :
    Variant codec.optional doc other
  | symm {α : Type} {codec : Codec α} {doc other : Doc} (inner : Variant codec doc other) :
    Variant codec other doc
  | trans {α : Type} {codec : Codec α} {doc middle other : Doc} (first : Variant codec doc middle)
    (second : Variant codec middle other) : Variant codec doc other

namespace Variant

variable {codec : Codec α} {doc other : Doc}

theorem content_eq_null_iff (variant : Variant codec doc other) :
    doc.content = .null ↔ other.content = .null := by
  have bare (doc : Doc) : doc.bare.content = .null ↔ doc.content = .null := by
    obtain ⟨before, value, after⟩ := doc
    cases value <;> simp [Doc.bare, Doc.content, Value.bare]
  induction variant with
  | blanks same => rw [← bare, same, bare]
  | order => simp [Margins.object, Doc.content]
  | unknown => simp [Margins.object, Doc.content]
  | member => simp [Margins.object, Doc.content]
  | item => simp [Margins.list, Doc.content]
  | optional _ ih => exact ih
  | symm _ ih => exact ih.symm
  | trans _ _ first second => exact first.trans second

theorem decode_iff (variant : Variant codec doc other) (value : α) :
    codec.decode doc.bytes = .ok value ↔ codec.decode other.bytes = .ok value := by
  induction variant with
  | blanks same => rw [Codec.decode_of_bare_eq _ same]
  | order described same margins => exact described.composes.order same margins margins value
  | unknown described spelt fresh passable margins members =>
    exact described.decode_cons_iff_of_unknown margins spelt fresh passable members value
  | member described place spelt speltToo _ margins members ih =>
    exact ⟨described.decode_exchange place spelt speltToo fun read => (ih read).mp,
      described.decode_exchange place speltToo spelt fun read => (ih read).mpr⟩
  | item _ margins front back ih =>
    rw [Codec.decode_list_iff, Codec.decode_list_iff]
    induction front generalizing value with
    | nil => simp only [List.nil_append, List.forall₂_cons_left_iff, ih]
    | cons _ front rest => simp only [List.cons_append, List.forall₂_cons_left_iff, rest]
  | optional inner ih =>
    simp only [Codec.decode_optional_iff, ne_eq, inner.content_eq_null_iff, ih]
  | symm _ ih => exact (ih value).symm
  | trans _ _ first second => exact (first value).trans (second value)

end Variant

end Json

end Provision
