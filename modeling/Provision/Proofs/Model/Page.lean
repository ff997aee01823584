import Provision.Proofs.Json.Members

/-!
Pages by their members. A page takes the long way round: the items are read as they come, and the
paging afterwards from what was laid aside. In the end it is read as a record of its items and its
paging would be, except that what no field takes must be such that it can be kept.
-/
namespace Provision

open Json

def Json.Outline.IsKept (outline : Outline) : Prop :=
  ∃ json, outline.value (Outline.depthLimit - 1) = .ok json

def Page.ofRow {α : Type} (row : Row (List α :: PageInfo.record.types)) : Page α :=
  ⟨row.1, PageInfo.record.build row.2⟩

namespace PageFormat

variable {α : Type} (format : PageFormat α)

def fields : Fields (List α :: PageInfo.record.types) :=
  .cons (.items format.key format.item) PageInfo.record.fields

section TakeAll

variable {key : String} {fatal : Option Fault} {value : Outline} {members : List (Quotation × Outline)}
  {items : Option (List α)} {others : List (String × Outline)}
  {taken : Option (List α) × List (String × Outline)}

private theorem takeAll_cons_of_eq :
    format.takeAll ((⟨.ok format.key, fatal⟩, value) :: members) items others = .ok taken ↔
      items = none ∧ ∃ read, format.item.list.read value = .ok read ∧
        format.takeAll members (some read) others = .ok taken := by
  cases items with
  | some held => simp [takeAll, bind, Except.bind, throw, throwThe, MonadExceptOf.throw]
  | none =>
    rw [takeAll, wanted_ok, bind_eq_ok_iff]
    simp [bind_eq_ok_iff]

private theorem takeAll_cons_of_ne (other : key ≠ format.key) :
    format.takeAll ((⟨.ok key, fatal⟩, value) :: members) items others = .ok taken ↔
      value.IsKept ∧ format.takeAll members items ((key, value) :: others) = .ok taken := by
  rw [takeAll, wanted_ok, bind_eq_ok_iff]
  cases kept : value.value (Outline.depthLimit - 1) <;>
    simp [Outline.IsKept, kept, other, bind, Except.bind]

end TakeAll

theorem takeAll_eq_ok_iff {members : List (Quotation × Outline)} {items read : Option (List α)}
    {others aside : List (String × Outline)} :
    format.takeAll members items others = .ok (read, aside) ↔
      (∀ member ∈ members, ∃ key, member.1.content = .ok key) ∧
        (∀ member ∈ named members, member.1 ≠ format.key → member.2.IsKept) ∧
        (Field.items format.key format.item).Fills items (valuesOf format.key (named members))
          read ∧
        aside = others.reverse ++ (named members).filter (·.1 ≠ format.key) := by
  induction members generalizing items others with
  | nil =>
    constructor
    · intro done
      cases done
      exact ⟨by simp, by simp [named], .kept, by simp [named]⟩
    · rintro ⟨-, -, fills, rfl⟩
      rw [fills.eq_of_nil]
      simp [takeAll, named]
  | cons member members ih =>
    obtain ⟨⟨content, fatal⟩, value⟩ := member
    cases content with
    | error fault => simp [takeAll, bind, Except.bind]
    | ok key =>
      have first : named ((⟨.ok key, fatal⟩, value) :: members) = (key, value) :: named members :=
        rfl
      rw [first]
      by_cases own : key = format.key
      · subst own
        rw [takeAll_cons_of_eq, valuesOf_cons_of_eq, Field.fills_cons_iff]
        simp only [ih, Field.fills_some_iff, List.forall_mem_cons, ne_eq, not_true_eq_false,
          false_imp_iff, true_and, decide_false, List.filter_cons_of_neg, Bool.false_eq_true,
          not_false_eq_true]
        constructor
        · rintro ⟨free, list, reads, keys, kept, ⟨none', same⟩, laid⟩
          exact ⟨⟨⟨_, rfl⟩, keys⟩, kept, ⟨free, list, reads, none', same⟩, laid⟩
        · rintro ⟨⟨-, keys⟩, kept, ⟨free, list, reads, none', same⟩, laid⟩
          exact ⟨free, list, reads, keys, kept, ⟨none', same⟩, laid⟩
      · rw [takeAll_cons_of_ne format own, valuesOf_cons_of_ne _ _ own,
          List.filter_cons_of_pos (by simp [own])]
        simp only [ih, List.forall_mem_cons, List.reverse_cons, List.append_assoc,
          List.singleton_append]
        constructor
        · rintro ⟨own, keys, kept, fills, laid⟩
          exact ⟨⟨⟨_, rfl⟩, keys⟩, ⟨fun _ => own, kept⟩, fills, laid⟩
        · rintro ⟨⟨-, keys⟩, ⟨keeps, kept⟩, fills, laid⟩
          exact ⟨keeps own, keys, kept, fills, laid⟩

private theorem isKept_of_reads {β : Type} (place : Place PageInfo.record.types β)
    {outline : Outline} {value : β}
    (reads : (PageInfo.record.fields.get place).codec.read outline = .ok value) :
    outline.IsKept := by
  have number {value : UInt32} (reads : Codec.uint32.read outline = .ok value) :
      outline.IsKept := by
    cases outline with
    | number held =>
      cases held with
      | ok number => exact ⟨.number number, rfl⟩
      | error fault => cases reads
    | null => cases reads
    | bool held => cases reads
    | list items ending => cases reads
    | object members ending => cases reads
    | broken wanted skipped => cases reads
    | string text =>
      obtain ⟨content, fatal⟩ := text
      cases content <;> cases reads
  match place with
  | .here => exact number reads
  | .there .here => exact number reads
  | .there (.there .here) => exact number reads
  | .there (.there (.there .here)) => exact number reads

private theorem valuesOf_filter {key : String} {members : List (String × Outline)}
    (other : key ≠ format.key) :
    valuesOf key (members.filter (·.1 ≠ format.key)) = valuesOf key members := by
  rw [valuesOf, valuesOf, List.filter_filter]
  congr 1
  apply List.filter_congr
  intro member _
  by_cases same : member.1 = key
  · simp [same, other]
  · simp [same]

/-- A page is read in three steps: items, paging, defaults. -/
private theorem read_object_steps {members : List (Quotation × Outline)} {page : Page α} :
    format.read (.object members .closed) = .ok page ↔
      ∃ items aside row, format.takeAll members none [] = .ok (items, aside) ∧
        (∃ slots, fillAll PageInfo.record.fields aside PageInfo.record.fields.empty = .ok slots ∧
          PageInfo.record.fields.close slots = .ok row) ∧
        ⟨items.getD [], PageInfo.record.build row⟩ = page := by
  constructor
  · intro done
    obtain ⟨⟨items, aside⟩, taken, later⟩ := bind_eq_ok done
    obtain ⟨-, -, later⟩ := bind_eq_ok later
    obtain ⟨slots, filled, later⟩ := bind_eq_ok later
    obtain ⟨row, closed, built⟩ := bind_eq_ok later
    exact ⟨items, aside, row, taken, ⟨slots, filled, closed⟩, Except.ok.inj built⟩
  · rintro ⟨items, aside, row, taken, ⟨slots, filled, closed⟩, rfl⟩
    refine bind_eq_ok_iff.mpr ⟨(items, aside), taken, bind_eq_ok_iff.mpr ⟨(), rfl, ?_⟩⟩
    exact bind_eq_ok_iff.mpr ⟨slots, filled, bind_eq_ok_iff.mpr ⟨row, closed, rfl⟩⟩

/-- A page is read from an object by the values of its keys. -/
theorem read_object_iff (distinct : format.fields.keys.Nodup)
    {members : List (Quotation × Outline)} {page : Page α} :
    format.read (.object members .closed) = .ok page ↔
      (∀ member ∈ members, ∃ key, member.1.content = .ok key) ∧
        (∀ member ∈ named members, member.1 ∉ format.fields.keys → member.2.IsKept) ∧
        ∃ row, Page.ofRow row = page ∧
          ∀ {β : Type} (place : Place (List α :: PageInfo.record.types) β),
            (format.fields.get place).Gets
              (valuesOf (format.fields.get place).key (named members)) (row.get place) := by
  obtain ⟨fresh, distinctInfo⟩ := List.nodup_cons.mp distinct
  have other {β : Type} (place : Place PageInfo.record.types β) :
      (PageInfo.record.fields.get place).key ≠ format.key := fun same =>
    fresh (same ▸ PageInfo.record.fields.key_mem_keys place)
  rw [read_object_steps]
  simp only [Fields.exists_fillAll_close_iff distinctInfo, takeAll_eq_ok_iff]
  constructor
  · rintro ⟨items, aside, row, ⟨keys, kept, fills, rfl⟩, gets, rfl⟩
    refine ⟨keys, ?_, (items.getD [], row), rfl, ?_⟩
    · intro member present unknown
      exact kept member present fun same => unknown (same ▸ List.mem_cons_self)
    · intro β place
      cases place with
      | here =>
        apply Field.gets_iff.mpr
        exact ⟨items, fills, by cases items <;> rfl⟩
      | there place =>
        have own := gets place
        rwa [List.reverse_nil, List.nil_append, valuesOf_filter format (other place)] at own
  · rintro ⟨keys, kept, row, rfl, gets⟩
    obtain ⟨items, fills, chosen⟩ := Field.gets_iff.mp (gets .here)
    refine ⟨items, _, row.2, ⟨keys, ?_, fills, rfl⟩, ?_, ?_⟩
    · intro member present unlisted
      by_cases known : member.1 ∈ PageInfo.record.fields.keys
      · obtain ⟨β, place, same⟩ := Fields.exists_place known
        have own := mem_valuesOf.mpr (same ▸ present :
          ((PageInfo.record.fields.get place).key, member.2) ∈ named members)
        exact isKept_of_reads place ((gets (.there place)).reads_of_mem own)
      · exact kept member present fun listed =>
          (List.mem_cons.mp listed).elim unlisted known
    · intro β place
      rw [List.reverse_nil, List.nil_append, valuesOf_filter format (other place)]
      exact gets (.there place)
    · have same : items.getD [] = row.1 := by
        cases items with
        | none => exact Option.some.inj chosen
        | some list => exact Option.some.inj chosen
      rw [same]
      rfl

end PageFormat

end Provision
