import Mathlib.Algebra.Order.Floor.Div
import Provision.Model.Page
import Provision.Query

/-!
Walks along the pages of a list. Each page tells whether another follows it, so a walk from the
first page comes to an end, and by then every item has been on one page. No number on the way leaves
its width.
-/
namespace Provision

namespace PageInfo

variable (info : PageInfo)

/-- The number of the items up to the end of a page fits into the width that it is computed in. -/
theorem toNat_mul_toUInt64 : (info.pageNumber.toUInt64 * info.pageSize.toUInt64).toNat =
    info.pageNumber.toNat * info.pageSize.toNat := by
  have number := info.pageNumber.toNat_lt
  have size := info.pageSize.toNat_lt
  have product : info.pageNumber.toNat * info.pageSize.toNat < 2 ^ 32 * 2 ^ 32 :=
    Nat.mul_lt_mul'' number size
  rw [UInt64.toNat_mul, UInt32.toNat_toUInt64, UInt32.toNat_toUInt64]
  exact Nat.mod_eq_of_lt product

theorem hasMore_iff : info.hasMore = true ↔
    info.pageNumber.toNat * info.pageSize.toNat < info.totalCount.toNat := by
  rw [hasMore, decide_eq_true_iff, UInt64.lt_iff_toNat_lt, toNat_mul_toUInt64,
    UInt32.toNat_toUInt64]

end PageInfo

namespace Paging

def number (paging : Paging) : UInt32 := paging.pageNumber.getD 1

/-- The number of the next page, as long as there is a number for it. -/
theorem toNat_number_next {paging : Paging} (room : paging.number.toNat + 1 < UInt32.size) :
    paging.next.number.toNat = paging.number.toNat + 1 := by
  change (paging.number + 1).toNat = _
  rw [UInt32.toNat_add]
  exact Nat.mod_eq_of_lt room

theorem map_number_walk {paging : Paging} {left : Nat}
    (room : paging.number.toNat + left < UInt32.size) :
    (paging.walk left).map (·.number.toNat) = List.range' paging.number.toNat (left + 1) := by
  induction left generalizing paging with
  | zero => rfl
  | succ left ih =>
    have next : paging.next.number.toNat = paging.number.toNat + 1 :=
      toNat_number_next (by omega)
    rw [walk, List.map_cons, ih (by omega), next, ← List.range'_succ]

/-- The pages that are seen from one page on: the next one too, if there are more after it. -/
inductive Visits (report : Paging → PageInfo) : Paging → List Paging → Prop where
  | last {paging : Paging} (ends : (report paging).hasMore = false) :
    Visits report paging [paging]
  | next {paging : Paging} {others : List Paging} (more : (report paging).hasMore = true)
    (rest : Visits report paging.next others) : Visits report paging (paging :: others)

end Paging

/-- What a server tells on each page of a list of so many items, with so many items to a page. -/
structure Reports (total size : UInt32) (report : Paging → PageInfo) : Prop where
  pageNumber (paging : Paging) : (report paging).pageNumber = paging.number
  pageSize (paging : Paging) : (report paging).pageSize = size
  totalCount (paging : Paging) : (report paging).totalCount = total

/-- The number of the pages of such a list. There is a first page also of an empty list. -/
def pagesOf (total size : UInt32) : Nat := max 1 (total.toNat ⌈/⌉ size.toNat)

/-- The items on a page of such a list, by their places in it from 0. -/
def placesOn (total size : UInt32) (number : Nat) : List Nat :=
  let start := (number - 1) * size.toNat
  List.range' start (min (number * size.toNat) total.toNat - start)

section

variable {total size : UInt32}

theorem flatMap_placesOn (count : Nat) :
    (List.range' 1 count).flatMap (placesOn total size) =
      List.range (min (count * size.toNat) total.toNat) := by
  induction count with
  | zero => simp
  | succ count ih =>
    let start := count * size.toNat
    have grown : (count + 1) * size.toNat = start + size.toNat := Nat.succ_mul _ _
    have last : placesOn total size (1 + count) =
        List.range' start (min (start + size.toNat) total.toNat - start) := by
      rw [placesOn, Nat.add_comm 1 count, grown, Nat.add_sub_cancel]
    rw [List.range'_concat, List.flatMap_append, ih, Nat.one_mul, List.flatMap_singleton, last,
      grown, List.range_eq_range', List.range_eq_range']
    rcases Nat.le_total total.toNat start with beyond | within
    · have nothing : min (start + size.toNat) total.toNat - start = 0 := by omega
      have same : min (start + size.toNat) total.toNat = min start total.toNat := by omega
      rw [nothing, same, List.range'_zero, List.append_nil]
    · have joined := List.range'_append_1 (s := 0) (m := start)
        (n := min (start + size.toNat) total.toNat - start)
      have whole : start + (min (start + size.toNat) total.toNat - start) =
          min (start + size.toNat) total.toNat := by omega
      rw [Nat.min_eq_left within]
      simpa [whole] using joined

theorem total_le_pagesOf_mul (positive : 0 < size) :
    total.toNat ≤ pagesOf total size * size.toNat := by
  have enough : total.toNat ⌈/⌉ size.toNat ≤ pagesOf total size := Nat.le_max_right _ _
  rwa [ceilDiv_le_iff_le_mul (UInt32.lt_iff_toNat_lt.mp positive), Nat.mul_comm] at enough

/-- A page is not the last one just if it ends before the list does. -/
theorem mul_lt_total_iff (positive : 0 < size) {number : Nat} (counted : 1 ≤ number) :
    number * size.toNat < total.toNat ↔ number < pagesOf total size := by
  have ends := ceilDiv_le_iff_le_mul (b := total.toNat) (c := number)
    (UInt32.lt_iff_toNat_lt.mp positive)
  rw [pagesOf, ← Nat.not_le, ← Nat.not_le, Nat.mul_comm, ← ends, max_le_iff]
  simp [counted]

theorem pagesOf_lt (positive : 0 < size) : pagesOf total size < UInt32.size := by
  have within := total.toNat_lt
  have few : total.toNat ⌈/⌉ size.toNat ≤ total.toNat := by
    rw [ceilDiv_le_iff_le_mul (UInt32.lt_iff_toNat_lt.mp positive)]
    exact Nat.le_mul_of_pos_left _ (UInt32.lt_iff_toNat_lt.mp positive)
  exact Nat.max_lt.mpr ⟨by decide, Nat.lt_of_le_of_lt few within⟩

end

section

variable {total size : UInt32} {report : Paging → PageInfo}

theorem Reports.hasMore_iff (reports : Reports total size report) (positive : 0 < size)
    {paging : Paging} (counted : 1 ≤ paging.number.toNat) :
    (report paging).hasMore = true ↔ paging.number.toNat < pagesOf total size := by
  rw [PageInfo.hasMore_iff, reports.pageNumber, reports.pageSize, reports.totalCount,
    mul_lt_total_iff positive counted]

/-- From a page with so many pages after it, these are seen and no others. -/
theorem Reports.visits_iff (reports : Reports total size report) (positive : 0 < size)
    {paging : Paging} {left : Nat} (counted : 1 ≤ paging.number.toNat)
    (ends : paging.number.toNat + left = pagesOf total size) (pages : List Paging) :
    Paging.Visits report paging pages ↔ pages = paging.walk left := by
  have more := reports.hasMore_iff positive counted
  have room : pagesOf total size < UInt32.size := pagesOf_lt positive
  induction left generalizing paging pages with
  | zero =>
    have final : (report paging).hasMore = false := by
      rw [Bool.eq_false_iff, ne_eq, more]
      omega
    constructor
    · intro visits
      cases visits with
      | last => rfl
      | next goes rest => cases final.symm.trans goes
    · rintro rfl
      exact .last final
  | succ left ih =>
    have goes : (report paging).hasMore = true := more.mpr (by omega)
    have next : paging.next.number.toNat = paging.number.toNat + 1 :=
      Paging.toNat_number_next (by omega)
    have rest (others : List Paging) :
        Paging.Visits report paging.next others ↔ others = paging.next.walk left :=
      ih (by omega) (by omega) others (reports.hasMore_iff positive (by omega))
    constructor
    · intro visits
      cases visits with
      | last final => cases final.symm.trans goes
      | next _ visits => rw [(rest _).mp visits, Paging.walk]
    · rintro rfl
      exact .next goes ((rest _).mpr rfl)

end

structure Covers (total size : UInt32) (report : Paging → PageInfo) (start : Paging)
    (pages : List Paging) : Prop where
  /-- The walk comes to its end after these pages, and after no others. -/
  visits (others : List Paging) : Paging.Visits report start others ↔ others = pages
  numbers : pages.map (·.number.toNat) = List.range' 1 (pagesOf total size)
  /-- The pages hold every item once, in order. -/
  places : pages.flatMap (fun paging => placesOn total size paging.number.toNat) =
    List.range total.toNat
  /-- Where the items up to the end of a page are counted, nothing is cut off. -/
  product : ∀ paging ∈ pages,
    ((report paging).pageNumber.toUInt64 * (report paging).pageSize.toUInt64).toNat =
      paging.number.toNat * size.toNat
  /-- Nor is it where the next page is numbered, if it is asked for. -/
  successor : ∀ paging ∈ pages, (report paging).hasMore = true →
    paging.next.number.toNat = paging.number.toNat + 1

/-- A walk from the first page on covers the list. -/
theorem Reports.covers {total size : UInt32} {report : Paging → PageInfo}
    (reports : Reports total size report) (positive : 0 < size) {start : Paging}
    (first : start.number = 1) :
    Covers total size report start (start.walk (pagesOf total size - 1)) := by
  have one : start.number.toNat = 1 := by rw [first]; rfl
  have atLeast : 1 ≤ pagesOf total size := Nat.le_max_left _ _
  have room : pagesOf total size < UInt32.size := pagesOf_lt positive
  have numbers : (start.walk (pagesOf total size - 1)).map (·.number.toNat) =
      List.range' 1 (pagesOf total size) := by
    rw [Paging.map_number_walk (by omega), one, Nat.sub_add_cancel atLeast]
  have places : (List.range' 1 (pagesOf total size)).flatMap (placesOn total size) =
      List.range (min (pagesOf total size * size.toNat) total.toNat) := flatMap_placesOn _
  rw [← numbers, List.flatMap_map, Nat.min_eq_right (total_le_pagesOf_mul positive)] at places
  refine ⟨reports.visits_iff positive (by omega) (by omega), numbers, places, ?_, ?_⟩
  · intro paging _
    rw [PageInfo.toNat_mul_toUInt64, reports.pageNumber, reports.pageSize]
  · intro paging member more
    have listed : paging.number.toNat ∈ List.range' 1 (pagesOf total size) := by
      rw [← numbers]
      exact List.mem_map.mpr ⟨paging, member, rfl⟩
    have counted : 1 ≤ paging.number.toNat := (List.mem_range'_1.mp listed).1
    have before := (reports.hasMore_iff positive counted).mp more
    exact Paging.toNat_number_next (by omega)

/-- As many items as can be counted, on two pages: the second ends beyond them. -/
theorem vast_list_covers :
    let report := fun paging : Paging =>
      ({ pageNumber := paging.number, totalCount := 4294967295, pageSize := 2147483648 } : PageInfo)
    let start : Paging := { pageSize := some 2147483648 }
    Reports 4294967295 2147483648 report ∧ (0 : UInt32) < 2147483648 ∧ start.number = 1 ∧
      Covers 4294967295 2147483648 report start [start, .mk (some 2) (some 2147483648)] := by
  intro report start
  have reports : Reports 4294967295 2147483648 report :=
    ⟨fun _ => rfl, fun _ => rfl, fun _ => rfl⟩
  have two : pagesOf 4294967295 2147483648 = 2 := by decide
  have covers := reports.covers (by decide) (show start.number = 1 from rfl)
  rw [two] at covers
  exact ⟨reports, by decide, rfl, covers⟩

end Provision
