import Provision.Json.Record

namespace Provision.Json

inductive Place : List Type → Type → Type 1 where
  | here {α : Type} {types : List Type} : Place (α :: types) α
  | there {α β : Type} {types : List Type} (place : Place types α) : Place (β :: types) α

variable {α : Type} {types : List Type}

def Place.index : {types : List Type} → Place types α → Nat
  | _, .here => 0
  | _, .there place => place.index + 1

def Fields.get : {types : List Type} → Fields types → Place types α → Field α
  | _, .cons field _, .here => field
  | _, .cons _ fields, .there place => fields.get place

def Slots.get : {types : List Type} → Slots types → Place types α → Option α
  | _, slots, .here => slots.1
  | _, slots, .there place => Slots.get slots.2 place

def Row.get : {types : List Type} → Row types → Place types α → α
  | _, row, .here => row.1
  | _, row, .there place => Row.get row.2 place

theorem bind_eq_ok {ε β γ : Type} {first : Except ε β} {next : β → Except ε γ} {result : γ}
    (done : first.bind next = .ok result) :
    ∃ value, first = .ok value ∧ next value = .ok result := by
  cases first with
  | error error => cases done
  | ok value => exact ⟨value, rfl, done⟩

theorem bind_eq_ok_iff {ε β γ : Type} {first : Except ε β} {next : β → Except ε γ} {result : γ} :
    first >>= next = .ok result ↔ ∃ value, first = .ok value ∧ next value = .ok result := by
  constructor
  · exact bind_eq_ok
  · rintro ⟨value, done, later⟩
    rw [done]
    exact later

namespace Fields

def keys : {types : List Type} → Fields types → List String
  | _, .nil => []
  | _, .cons field fields => field.key :: fields.keys

theorem hasKey_iff (fields : Fields types) (key : String) :
    fields.hasKey key = true ↔ key ∈ fields.keys := by
  induction fields with
  | nil => simp [hasKey, keys]
  | cons field fields ih => simp [hasKey, keys, ih, @eq_comm _ key field.key]

theorem key_mem_keys (fields : Fields types) (place : Place types α) :
    (fields.get place).key ∈ fields.keys := by
  induction fields with
  | nil => cases place
  | cons field fields ih =>
    cases place with
    | here => exact List.mem_cons_self
    | there place => exact List.mem_cons_of_mem _ (ih place)

theorem get_empty (fields : Fields types) (place : Place types α) :
    Slots.get fields.empty place = none := by
  induction fields with
  | nil => cases place
  | cons field fields ih =>
    cases place with
    | here => rfl
    | there place => exact ih place

theorem fill_cons_of_eq (field : Field α) (fields : Fields types) (value : Outline)
    (slot : Option α) (slots : Slots types) :
    (Fields.cons field fields).fill field.key value (slot, slots) =
      match slot with
      | some _ => .error (.duplicate field.key)
      | none => (field.codec.read value).bind fun read => .ok (some read, slots) :=
  if_pos rfl

theorem fill_cons_of_ne {field : Field α} {key : String} (other : field.key ≠ key)
    (fields : Fields types) (value : Outline) (slot : Option α) (slots : Slots types) :
    (Fields.cons field fields).fill key value (slot, slots) =
      (fields.fill key value slots).bind fun slots => .ok (slot, slots) :=
  if_neg other

theorem get_fill_of_ne {fields : Fields types} {key : String} {value : Outline}
    {slots filled : Slots types} (done : fields.fill key value slots = .ok filled)
    (place : Place types α) (other : (fields.get place).key ≠ key) :
    filled.get place = slots.get place := by
  induction fields with
  | nil => cases place
  | cons field fields ih =>
    obtain ⟨slot, slots⟩ := slots
    by_cases same : field.key = key
    · subst same
      rw [fill_cons_of_eq] at done
      cases slot with
      | some held => cases done
      | none =>
        obtain ⟨read, -, stored⟩ := bind_eq_ok done
        cases stored
        cases place with
        | here => exact absurd rfl other
        | there place => rfl
    · rw [fill_cons_of_ne same] at done
      obtain ⟨rest, restDone, stored⟩ := bind_eq_ok done
      cases stored
      cases place with
      | here => rfl
      | there place => exact ih restDone place other

/-- A member with the key of an empty slot fills it; a slot that is filled already takes no more. -/
theorem get_fill_of_eq {fields : Fields types} (distinct : fields.keys.Nodup) {value : Outline}
    (place : Place types α) {slots filled : Slots types}
    (done : fields.fill (fields.get place).key value slots = .ok filled) :
    slots.get place = none ∧
      ∃ read, (fields.get place).codec.read value = .ok read ∧ filled.get place = some read := by
  induction fields with
  | nil => cases place
  | cons field fields ih =>
    obtain ⟨slot, slots⟩ := slots
    obtain ⟨fresh, distinct⟩ := List.nodup_cons.mp distinct
    cases place with
    | here =>
      rw [get, fill_cons_of_eq] at done
      cases slot with
      | some held => cases done
      | none =>
        obtain ⟨read, wasRead, stored⟩ := bind_eq_ok done
        cases stored
        exact ⟨rfl, read, wasRead, rfl⟩
    | there place =>
      have other : field.key ≠ (fields.get place).key := fun same =>
        fresh (same ▸ fields.key_mem_keys place)
      rw [get, fill_cons_of_ne other] at done
      obtain ⟨rest, restDone, stored⟩ := bind_eq_ok done
      cases stored
      exact ih distinct place restDone

theorem get_take_of_ne {fields : Fields types} {key : String} {value : Outline}
    {slots taken : Slots types} (done : fields.take key value slots = .ok taken)
    (place : Place types α) (other : (fields.get place).key ≠ key) :
    taken.get place = slots.get place := by
  rw [take] at done
  split at done
  · exact get_fill_of_ne done place other
  · obtain ⟨-, -, stored⟩ := bind_eq_ok done
    cases stored
    rfl

theorem get_take_of_eq {fields : Fields types} (distinct : fields.keys.Nodup) {value : Outline}
    (place : Place types α) {slots taken : Slots types}
    (done : fields.take (fields.get place).key value slots = .ok taken) :
    slots.get place = none ∧
      ∃ read, (fields.get place).codec.read value = .ok read ∧ taken.get place = some read := by
  rw [take, if_pos ((fields.hasKey_iff _).mpr (fields.key_mem_keys place))] at done
  exact get_fill_of_eq distinct place done

theorem get_takeAll_of_some {fields : Fields types} (distinct : fields.keys.Nodup)
    {members : List (Quotation × Outline)} (place : Place types α) {slots taken : Slots types}
    (done : fields.takeAll members slots = .ok taken) {held : α}
    (filled : slots.get place = some held) : taken.get place = some held := by
  induction members generalizing slots with
  | nil =>
    cases done
    exact filled
  | cons member members ih =>
    obtain ⟨key, named, later⟩ := bind_eq_ok done
    obtain ⟨next, took, rest⟩ := bind_eq_ok later
    apply ih rest
    by_cases own : (fields.get place).key = key
    · subst own
      obtain ⟨empty, -⟩ := get_take_of_eq distinct place took
      rw [filled] at empty
      cases empty
    · rw [get_take_of_ne took place own, filled]

/-- Every member with the key of a field gives what is in the field's slot. -/
theorem get_takeAll_of_mem {fields : Fields types} (distinct : fields.keys.Nodup)
    {members : List (Quotation × Outline)} (place : Place types α) {slots taken : Slots types}
    (done : fields.takeAll members slots = .ok taken) {member : Quotation × Outline}
    (present : member ∈ members) (own : member.1.content = .ok (fields.get place).key) :
    ∃ read, (fields.get place).codec.read member.2 = .ok read ∧ taken.get place = some read := by
  induction members generalizing slots with
  | nil => exact absurd present List.not_mem_nil
  | cons first members ih =>
    obtain ⟨key, named, later⟩ := bind_eq_ok done
    obtain ⟨next, took, rest⟩ := bind_eq_ok later
    rcases List.mem_cons.mp present with rfl | present
    · rw [own] at named
      cases named
      obtain ⟨-, read, wasRead, filled⟩ := get_take_of_eq distinct place took
      exact ⟨read, wasRead, get_takeAll_of_some distinct place rest filled⟩
    · exact ih rest present

theorem get_takeAll_of_not_mem {fields : Fields types} {members : List (Quotation × Outline)}
    (place : Place types α) {slots taken : Slots types}
    (done : fields.takeAll members slots = .ok taken)
    (missing : ∀ member ∈ members, member.1.content ≠ .ok (fields.get place).key) :
    taken.get place = slots.get place := by
  induction members generalizing slots with
  | nil =>
    cases done
    rfl
  | cons first members ih =>
    obtain ⟨key, named, later⟩ := bind_eq_ok done
    obtain ⟨next, took, rest⟩ := bind_eq_ok later
    have other : (fields.get place).key ≠ key := by
      rintro rfl
      apply missing first List.mem_cons_self
      cases content : first.1.content with
      | error fault =>
        rw [content] at named
        cases named
      | ok text =>
        rw [content] at named
        cases named
        rfl
    rw [ih rest fun member present => missing member (List.mem_cons_of_mem _ present)]
    exact get_take_of_ne took place other

theorem get_close {fields : Fields types} {slots : Slots types} {row : Row types}
    (done : fields.close slots = .ok row) (place : Place types α) :
    (slots.get place).or (fields.get place).absent = some (row.get place) := by
  induction fields with
  | nil => cases place
  | cons field fields ih =>
    obtain ⟨slot, slots⟩ := slots
    rw [close] at done
    split at done
    · cases done
    · rename_i value chosen
      obtain ⟨rest, closed, stored⟩ := bind_eq_ok done
      cases stored
      cases place with
      | here => exact chosen
      | there place => exact ih closed place

/-- The value at a place is that of the item there, or the default after the last item. -/
theorem get_takeItems {name : String} {size position : Nat} {ending : Ending}
    {fields : Fields types} {items : List Outline} {row : Row types}
    (done : fields.takeItems name size position ending items = .ok row) (place : Place types α) :
    match items[place.index]? with
    | some item => (fields.get place).codec.read item = .ok (row.get place)
    | none => (fields.get place).absent = some (row.get place) := by
  induction fields generalizing items position with
  | nil => cases place
  | cons field fields ih =>
    cases items with
    | nil =>
      obtain ⟨-, -, later⟩ := bind_eq_ok done
      split at later
      · cases later
      · rename_i value given
        obtain ⟨rest, took, stored⟩ := bind_eq_ok later
        cases stored
        cases place with
        | here => exact given
        | there place => exact ih took place
    | cons item items =>
      obtain ⟨value, wasRead, later⟩ := bind_eq_ok done
      obtain ⟨rest, took, stored⟩ := bind_eq_ok later
      cases stored
      cases place with
      | here => exact wasRead
      | there place => exact ih took place

end Fields

theorem Codec.read_of_decode {codec : Codec α} {bytes : List UInt8} {value : α}
    (done : codec.decode bytes = .ok value) :
    codec.read (Sheet.ofBytes bytes).outline = .ok value := by
  obtain ⟨held, read, later⟩ := bind_eq_ok done
  cases trailing : (Sheet.ofBytes bytes).trailing with
  | false =>
    simp only [trailing] at later
    cases later
    exact read
  | true =>
    simp only [trailing] at later
    cases later

/-- Whether a document has nothing but `null` for a key, or at a position if it is a list. -/
def Outline.Lacks (key : String) (position : Nat) : Outline → Prop
  | .object members _ => ∀ member ∈ members, member.1.content = .ok key → member.2 = .null
  | .list items _ => ∀ item, items[position]? = some item → item = .null
  | _ => False

theorem Outline.refuse_ne_ok (outline : Outline) (expected : String) (value : α) :
    outline.refuse expected ≠ .ok value := by
  intro accepted
  obtain ⟨found, -, thrown⟩ := bind_eq_ok accepted
  cases thrown

theorem Codec.read_optional_eq_none_iff (codec : Codec α) (outline : Outline) :
    codec.optional.read outline = .ok none ↔ outline = .null := by
  have never (result : Except Refusal α) : result.map some ≠ .ok none := by
    cases result <;> simp [Except.map]
  cases outline with
  | null => simp [optional]
  | _ => exact iff_of_false (never _) Outline.noConfusion

/-- An optional field of a record is empty just when the document lacks it. -/
theorem Record.get_eq_none_iff {β : Type} (record : Record β) (distinct : record.fields.keys.Nodup)
    {key : String} {codec : Codec α} (place : Place record.types (Option α))
    (optional : record.fields.get place = .optional key codec) {outline : Outline} {value : β}
    (read : record.read outline = .ok value) :
    (record.parts value).get place = none ↔ outline.Lacks key place.index := by
  cases outline with
  | object members ending =>
    obtain ⟨slots, taken, later⟩ := bind_eq_ok read
    obtain ⟨-, -, later⟩ := bind_eq_ok later
    obtain ⟨row, closed, stored⟩ := bind_eq_ok later
    cases stored
    rw [record.parts_build]
    have kept := Fields.get_close closed place
    rw [optional] at kept
    constructor
    · intro empty member present own
      obtain ⟨held, wasRead, filled⟩ := Fields.get_takeAll_of_mem distinct place taken present
        (by rw [optional]; exact own)
      rw [optional] at wasRead
      rw [filled, empty] at kept
      cases kept
      exact (codec.read_optional_eq_none_iff _).mp wasRead
    · intro lacks
      by_cases written : ∃ member ∈ members, member.1.content = .ok key
      · obtain ⟨member, present, own⟩ := written
        obtain ⟨held, wasRead, filled⟩ := Fields.get_takeAll_of_mem distinct place taken present
          (by rw [optional]; exact own)
        rw [optional, lacks member present own] at wasRead
        cases wasRead
        rw [filled] at kept
        exact (Option.some.inj kept).symm
      · have unfilled := Fields.get_takeAll_of_not_mem place taken fun member present own =>
          written ⟨member, present, by rw [own, optional]; rfl⟩
        rw [unfilled, Fields.get_empty] at kept
        exact (Option.some.inj kept).symm
  | list items ending =>
    obtain ⟨row, taken, stored⟩ := bind_eq_ok read
    cases stored
    rw [record.parts_build]
    have kept := Fields.get_takeItems taken place
    rw [optional] at kept
    simp only [Outline.Lacks]
    cases held : items[place.index]? with
    | none =>
      rw [held] at kept
      simpa using (Option.some.inj kept).symm
    | some item =>
      rw [held] at kept
      have empty : row.get place = none ↔ item = .null := by
        rw [← codec.read_optional_eq_none_iff, show codec.optional.read item = _ from kept]
        simp
      simpa using empty
  | _ => exact absurd read (Outline.refuse_ne_ok _ _ _)

end Provision.Json
