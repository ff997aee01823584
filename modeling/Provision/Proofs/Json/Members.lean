import Provision.Model.Page
import Provision.Proofs.Json.Fields

/-!
What is read from the members of an object, whatever their order. Each field gets the value of its
key, or its default; a key may not occur twice, and of other members it only matters that they can
be passed over.
-/
namespace Provision.Json

variable {α : Type} {types : List Type}

@[simp] theorem wanted_ok (value : α) : wanted (.ok value) = .ok value := rfl

@[simp] theorem wanted_error (fault : Fault) :
    wanted (.error fault : Except Fault α) = .error (.malformed fault) := rfl

def Slots.ofGet : (types : List Type) → ({α : Type} → Place types α → Option α) → Slots types
  | [], _ => ()
  | _ :: types, held => (held .here, ofGet types fun place => held (.there place))

def Row.ofGet : (types : List Type) → ({α : Type} → Place types α → α) → Row types
  | [], _ => ()
  | _ :: types, value => (value .here, ofGet types fun place => value (.there place))

theorem Slots.get_ofGet (held : {α : Type} → Place types α → Option α) (place : Place types α) :
    (ofGet types held).get place = held place := by
  induction place with
  | here => rfl
  | there place ih => exact ih fun place => held (.there place)

theorem Row.get_ofGet (value : {α : Type} → Place types α → α) (place : Place types α) :
    (ofGet types value).get place = value place := by
  induction place with
  | here => rfl
  | there place ih => exact ih fun place => value (.there place)

theorem Slots.ext {types : List Type} {slots others : Slots types}
    (same : ∀ {α : Type} (place : Place types α), slots.get place = others.get place) :
    slots = others := by
  induction types with
  | nil => rfl
  | cons β types ih => exact Prod.ext (same .here) (ih fun place => same (.there place))

def named (members : List (Quotation × Outline)) : List (String × Outline) :=
  members.filterMap fun member => member.1.content.toOption.map (·, member.2)

def valuesOf {β : Type} (key : String) (members : List (String × β)) : List β :=
  (members.filter fun member => member.1 = key).map Prod.snd

section ValuesOf

variable {β : Type} {key other : String} (value : β) (members : List (String × β))

@[simp] theorem valuesOf_nil : valuesOf key ([] : List (String × β)) = [] := rfl

@[simp] theorem valuesOf_cons_of_eq :
    valuesOf key ((key, value) :: members) = value :: valuesOf key members := by
  simp [valuesOf]

theorem valuesOf_cons_of_ne (ne : other ≠ key) :
    valuesOf key ((other, value) :: members) = valuesOf key members := by
  simp [valuesOf, ne]

variable {value members} in
theorem mem_valuesOf : value ∈ valuesOf key members ↔ (key, value) ∈ members := by
  simp only [valuesOf, List.mem_map, List.mem_filter, decide_eq_true_eq]
  constructor
  · rintro ⟨member, ⟨present, rfl⟩, rfl⟩
    exact present
  · intro present
    exact ⟨_, ⟨present, rfl⟩, rfl⟩

end ValuesOf

namespace Field

/-- What becomes of the slot of a field by the values that its key has. -/
inductive Fills (field : Field α) : Option α → List Outline → Option α → Prop where
  | kept {slot : Option α} : Fills field slot [] slot
  | filled {only : Outline} {read : α} (reads : field.codec.read only = .ok read) :
    Fills field none [only] (some read)

inductive Gets (field : Field α) : List Outline → α → Prop where
  | absent {value : α} (default : field.absent = some value) : Gets field [] value
  | present {only : Outline} {value : α} (reads : field.codec.read only = .ok value) :
    Gets field [only] value

variable {field : Field α}

theorem Fills.eq_of_nil {slot filled : Option α} (fills : field.Fills slot [] filled) :
    slot = filled := by
  cases fills
  rfl

theorem fills_cons_iff {value : Outline} {values : List Outline} {slot filled : Option α} :
    field.Fills slot (value :: values) filled ↔
      slot = none ∧ ∃ read, field.codec.read value = .ok read ∧ values = [] ∧
        filled = some read := by
  constructor
  · intro fills
    cases fills with
    | filled reads => exact ⟨rfl, _, reads, rfl, rfl⟩
  · rintro ⟨rfl, read, reads, rfl, rfl⟩
    exact .filled reads

theorem fills_some_iff {values : List Outline} {held : α} {filled : Option α} :
    field.Fills (some held) values filled ↔ values = [] ∧ filled = some held := by
  constructor
  · intro fills
    cases fills
    exact ⟨rfl, rfl⟩
  · rintro ⟨rfl, rfl⟩
    exact .kept

theorem gets_iff {values : List Outline} {value : α} :
    field.Gets values value ↔
      ∃ slot, field.Fills none values slot ∧ slot.or field.absent = some value := by
  constructor
  · intro gets
    cases gets with
    | absent default => exact ⟨none, .kept, default⟩
    | present reads => exact ⟨some value, .filled reads, rfl⟩
  · rintro ⟨slot, fills, chosen⟩
    cases fills with
    | kept => exact .absent chosen
    | filled reads =>
      cases Option.some.inj chosen
      exact .present reads

theorem Gets.reads_of_mem {values : List Outline} {value : α} (gets : field.Gets values value)
    {only : Outline} (member : only ∈ values) : field.codec.read only = .ok value := by
  cases gets with
  | absent default => cases member
  | present reads =>
    cases List.mem_singleton.mp member
    exact reads

end Field

namespace Fields

variable {fields : Fields types}

theorem exists_place {key : String} (known : key ∈ fields.keys) :
    ∃ (α : Type) (place : Place types α), (fields.get place).key = key := by
  induction fields with
  | nil => cases known
  | cons field fields ih =>
    rcases List.mem_cons.mp known with rfl | known
    · exact ⟨_, .here, rfl⟩
    · obtain ⟨α, place, same⟩ := ih known
      exact ⟨α, .there place, same⟩

theorem fill_of_not_mem {key : String} (unknown : key ∉ fields.keys) (value : Outline)
    (slots : Slots types) : fields.fill key value slots = .ok slots := by
  induction fields with
  | nil => rfl
  | cons field fields ih =>
    obtain ⟨slot, slots⟩ := slots
    have other : field.key ≠ key := fun same => unknown (same ▸ List.mem_cons_self)
    have others := ih (fun known => unknown (List.mem_cons_of_mem _ known)) slots
    rw [fill_cons_of_ne other, others]
    rfl

theorem exists_fill (distinct : fields.keys.Nodup) {value : Outline} {read : α}
    (place : Place types α) {slots : Slots types} (empty : slots.get place = none)
    (reads : (fields.get place).codec.read value = .ok read) :
    ∃ filled, fields.fill (fields.get place).key value slots = .ok filled := by
  induction fields with
  | nil => cases place
  | cons field fields ih =>
    obtain ⟨slot, slots⟩ := slots
    obtain ⟨fresh, distinct⟩ := List.nodup_cons.mp distinct
    cases place with
    | here =>
      change slot = none at empty
      subst empty
      refine ⟨(some read, slots), ?_⟩
      rw [get, fill_cons_of_eq, show field.codec.read value = .ok read from reads]
      rfl
    | there place =>
      have other : field.key ≠ (fields.get place).key := fun same =>
        fresh (same ▸ fields.key_mem_keys place)
      obtain ⟨filled, done⟩ := ih distinct place empty reads
      refine ⟨(slot, filled), ?_⟩
      rw [get, fill_cons_of_ne other, done]
      rfl

/-- Once the first member has filled its slot, the other members fill the slots that are left. -/
theorem fills_valuesOf_cons_iff (distinct : fields.keys.Nodup) {key : String} {value : Outline}
    {slots next : Slots types} (filled : fields.fill key value slots = .ok next)
    (place : Place types α) (members : List (String × Outline)) {held : Option α} :
    (fields.get place).Fills (slots.get place)
        (valuesOf (fields.get place).key ((key, value) :: members)) held ↔
      (fields.get place).Fills (next.get place) (valuesOf (fields.get place).key members) held := by
  by_cases own : (fields.get place).key = key
  · subst own
    obtain ⟨empty, read, reads, now⟩ := get_fill_of_eq distinct place filled
    rw [valuesOf_cons_of_eq, Field.fills_cons_iff, now, Field.fills_some_iff]
    constructor
    · rintro ⟨-, other, readsToo, others, stored⟩
      cases reads.symm.trans readsToo
      exact ⟨others, stored⟩
    · rintro ⟨others, stored⟩
      exact ⟨empty, read, reads, others, stored⟩
  · rw [valuesOf_cons_of_ne _ _ (Ne.symm own), get_fill_of_ne filled place own]

theorem fillAll_eq_ok_iff (distinct : fields.keys.Nodup) {members : List (String × Outline)}
    {slots taken : Slots types} :
    PageFormat.fillAll fields members slots = .ok taken ↔
      ∀ {α : Type} (place : Place types α),
        (fields.get place).Fills (slots.get place) (valuesOf (fields.get place).key members)
          (taken.get place) := by
  induction members generalizing slots with
  | nil =>
    constructor
    · intro done α place
      cases done
      exact .kept
    · intro fills
      apply congrArg Except.ok
      apply Slots.ext
      intro α place
      have own := fills place
      rw [valuesOf_nil] at own
      exact own.eq_of_nil
  | cons member members ih =>
    obtain ⟨key, value⟩ := member
    rw [PageFormat.fillAll, bind_eq_ok_iff]
    constructor
    · rintro ⟨next, filled, rest⟩ α place
      exact (fills_valuesOf_cons_iff distinct filled place members).mpr (ih.mp rest place)
    · intro fills
      -- The member fills the slot of its key, if it has one, and leaves the others as they are.
      obtain ⟨next, filled⟩ : ∃ next, fields.fill key value slots = .ok next := by
        by_cases known : key ∈ fields.keys
        · obtain ⟨β, place, rfl⟩ := exists_place known
          have own := fills place
          rw [valuesOf_cons_of_eq] at own
          obtain ⟨empty, read, reads, -⟩ := Field.fills_cons_iff.mp own
          exact exists_fill distinct place empty reads
        · exact ⟨slots, fill_of_not_mem known value slots⟩
      exact ⟨next, filled, ih.mpr fun place =>
        (fills_valuesOf_cons_iff distinct filled place members).mp (fills place)⟩

/-- A known key takes its value, and an unknown one lets it be skipped. -/
theorem take_eq_ok_iff {key : String} {value : Outline} {slots taken : Slots types} :
    fields.take key value slots = .ok taken ↔
      (key ∉ fields.keys → value.skip = .ok ()) ∧ fields.fill key value slots = .ok taken := by
  rw [take]
  by_cases known : key ∈ fields.keys
  · simp [(fields.hasKey_iff key).mpr known, known]
  · have unknown : ¬ fields.hasKey key = true := fun has => known ((fields.hasKey_iff key).mp has)
    rw [if_neg unknown, fill_of_not_mem known]
    cases value.skip <;>
      simp [known, bind, Except.bind, pure, Except.pure]

theorem takeAll_eq_ok_iff {members : List (Quotation × Outline)} {slots taken : Slots types} :
    fields.takeAll members slots = .ok taken ↔
      (∀ member ∈ members, ∃ key, member.1.content = .ok key) ∧
        (∀ member ∈ named members, member.1 ∉ fields.keys → member.2.skip = .ok ()) ∧
        PageFormat.fillAll fields (named members) slots = .ok taken := by
  induction members generalizing slots with
  | nil => simp [takeAll, named, PageFormat.fillAll]
  | cons member members ih =>
    obtain ⟨⟨content, fatal⟩, value⟩ := member
    cases content with
    | error fault => simp [takeAll, bind, Except.bind]
    | ok key =>
      have step : fields.takeAll ((⟨.ok key, fatal⟩, value) :: members) slots = .ok taken ↔
          ∃ next, fields.take key value slots = .ok next ∧
            fields.takeAll members next = .ok taken := by
        change fields.take key value slots >>= _ = .ok taken ↔ _
        exact bind_eq_ok_iff
      have first : named ((⟨.ok key, fatal⟩, value) :: members) = (key, value) :: named members :=
        rfl
      rw [step, first, PageFormat.fillAll, bind_eq_ok_iff]
      simp only [take_eq_ok_iff, ih, List.forall_mem_cons]
      constructor
      · rintro ⟨next, ⟨skips, filled⟩, keys, others, done⟩
        exact ⟨⟨⟨key, rfl⟩, keys⟩, ⟨skips, others⟩, next, filled, done⟩
      · rintro ⟨⟨-, keys⟩, ⟨skips, others⟩, next, filled, done⟩
        exact ⟨next, ⟨skips, filled⟩, keys, others, done⟩

theorem close_eq_ok_iff {slots : Slots types} {row : Row types} :
    fields.close slots = .ok row ↔
      ∀ {α : Type} (place : Place types α),
        (slots.get place).or (fields.get place).absent = some (row.get place) := by
  constructor
  · intro done α place
    exact get_close done place
  · intro chosen
    induction fields with
    | nil => rfl
    | cons field fields ih =>
      obtain ⟨slot, slots⟩ := slots
      have own : slot.or field.absent = some row.1 := chosen .here
      have others : fields.close slots = .ok row.2 := ih fun place => chosen (.there place)
      simp only [close, own, others]
      rfl

/-- Together a field gets what its values are, or its default. -/
theorem exists_fillAll_close_iff (distinct : fields.keys.Nodup) {members : List (String × Outline)}
    {row : Row types} :
    (∃ slots, PageFormat.fillAll fields members fields.empty = .ok slots ∧
        fields.close slots = .ok row) ↔
      ∀ {α : Type} (place : Place types α),
        (fields.get place).Gets (valuesOf (fields.get place).key members) (row.get place) := by
  constructor
  · rintro ⟨slots, filled, closed⟩ α place
    have fills := (fillAll_eq_ok_iff distinct).mp filled place
    rw [get_empty] at fills
    exact Field.gets_iff.mpr ⟨_, fills, close_eq_ok_iff.mp closed place⟩
  · intro gets
    have held {α : Type} (place : Place types α) := Field.gets_iff.mp (gets place)
    refine ⟨.ofGet types fun place => (held place).choose, ?_, ?_⟩
    · apply (fillAll_eq_ok_iff distinct).mpr
      intro α place
      rw [get_empty, Slots.get_ofGet]
      exact (held place).choose_spec.1
    · apply close_eq_ok_iff.mpr
      intro α place
      rw [Slots.get_ofGet]
      exact (held place).choose_spec.2

end Fields

/-- A record is read from an object by the values of its keys. -/
theorem Record.read_object_iff (record : Record α) (distinct : record.fields.keys.Nodup)
    {members : List (Quotation × Outline)} {value : α} :
    record.read (.object members .closed) = .ok value ↔
      (∀ member ∈ members, ∃ key, member.1.content = .ok key) ∧
        (∀ member ∈ named members, member.1 ∉ record.fields.keys → member.2.skip = .ok ()) ∧
        ∃ row, record.build row = value ∧ ∀ {β : Type} (place : Place record.types β),
          (record.fields.get place).Gets
            (valuesOf (record.fields.get place).key (named members)) (row.get place) := by
  have steps : record.read (.object members .closed) = .ok value ↔
      ∃ slots row, record.fields.takeAll members record.fields.empty = .ok slots ∧
        record.fields.close slots = .ok row ∧ record.build row = value := by
    constructor
    · intro done
      obtain ⟨slots, taken, later⟩ := bind_eq_ok done
      obtain ⟨-, -, later⟩ := bind_eq_ok later
      obtain ⟨row, closed, built⟩ := bind_eq_ok later
      exact ⟨slots, row, taken, closed, Except.ok.inj built⟩
    · rintro ⟨slots, row, taken, closed, rfl⟩
      refine bind_eq_ok_iff.mpr ⟨slots, taken, bind_eq_ok_iff.mpr ⟨(), rfl, ?_⟩⟩
      exact bind_eq_ok_iff.mpr ⟨row, closed, rfl⟩
  rw [steps]
  simp only [← Fields.exists_fillAll_close_iff distinct, Fields.takeAll_eq_ok_iff]
  constructor
  · rintro ⟨slots, row, ⟨keys, skips, filled⟩, closed, built⟩
    exact ⟨keys, skips, row, built, slots, filled, closed⟩
  · rintro ⟨keys, skips, row, built, slots, filled, closed⟩
    exact ⟨slots, row, ⟨keys, skips, filled⟩, closed, built⟩

end Provision.Json
