import Provision.Proofs.Settings.Validity
import Provision.Proofs.Url.Below

/-!
The base of the addresses that valid settings lead to. The rule for the address is about the URL as
it is written, the base is read from it with a slash at its end. Of both the paths are the same if
a query or a fragment takes the slash in. Otherwise the slash is the end of the path, unless
something else stands where the path does.
-/
namespace Provision.Settings

open Url (IsUnmarked)

/-- What settings ought to have: a base below whose whole path all plain paths join. -/
def KeepsBase (settings : Settings) : Prop := ∃ base, settings.base = .ok base ∧ base.KeepsPath

/-- The text that the base is read from. -/
def baseText (settings : Settings) : List Char := Url.clean (withSlash settings.baseUrl).toList

variable {settings : Settings}

theorem base_eq_ok_iff {base : Url} :
    settings.base = .ok base ↔ Url.resolve none settings.baseText = .ok base := by
  rw [Settings.base, Url.ofString, Url.ofChars, ← baseText]
  cases Url.resolve none settings.baseText with
  | error fault => exact iff_of_false nofun nofun
  | ok found => exact ⟨fun same => Except.ok.inj same ▸ rfl, fun same => Except.ok.inj same ▸ rfl⟩

theorem keepsBase_iff_isFolder :
    settings.KeepsBase ↔ ∃ base, settings.base = .ok base ∧ base.path.IsFolder := by
  apply exists_congr
  intro base
  apply and_congr_right
  intro read
  exact Url.keepsPath_iff (Url.isTidy_of_resolve (base_eq_ok_iff.mp read))

/-- A slash is added to the address unless it ends with one. -/
theorem toList_withSlash (text : String) :
    (text.toList.getLast? = some '/' ∧ (withSlash text).toList = text.toList) ∨
      (withSlash text).toList = text.toList ++ ['/'] := by
  rw [withSlash]
  split
  · rename_i ends
    exact .inl ⟨ends, rfl⟩
  · exact .inr String.toList_append

theorem getLast?_baseText : settings.baseText.getLast? = some '/' := by
  have cleaned (front : List Char) : (Url.clean (front ++ ['/'])).getLast? = some '/' := by
    rw [Url.clean_append_slash]
    simp
  rw [baseText]
  rcases toList_withSlash settings.baseUrl with ⟨ends, same⟩ | longer
  · obtain ⟨front, whole⟩ := List.getLast?_eq_some_iff.mp ends
    rw [same, whole]
    exact cleaned front
  · rw [longer]
    exact cleaned _

theorem isUnmarked_baseText_iff :
    IsUnmarked settings.baseText ↔ IsUnmarked settings.baseUrl.toList := by
  rw [baseText, Url.isUnmarked_clean_iff]
  rcases toList_withSlash settings.baseUrl with ⟨-, same⟩ | longer
  · rw [same]
  · rw [longer]
    constructor
    · exact fun unmarked c member => unmarked c (List.mem_append_left _ member)
    · exact fun unmarked => List.forall_mem_append.mpr
        ⟨unmarked, Url.isUnmarked_nil.cons rfl⟩

theorem exists_baseText_eq : ∃ extra,
    settings.baseText = Url.clean settings.baseUrl.toList ++ extra ∧
      ((∀ c ∈ settings.baseUrl.toList.getLast?, Url.isPadding c = false) →
        extra = [] ∨ extra = ['/']) := by
  rw [baseText]
  rcases toList_withSlash settings.baseUrl with ⟨-, same⟩ | longer
  · exact ⟨[], by rw [same, List.append_nil], fun _ => .inl rfl⟩
  · rw [longer]
    by_cases solid : ∀ c ∈ settings.baseUrl.toList.getLast?, Url.isPadding c = false
    · exact ⟨['/'], Url.clean_append_slash_of_solid solid, fun _ => .inr rfl⟩
    · obtain ⟨extra, same⟩ := Url.exists_clean_append_slash settings.baseUrl.toList
      exact ⟨extra, same, fun other => absurd other solid⟩

theorem exists_url_of_validate (valid : settings.validate = .ok ()) :
    ∃ url, Url.resolve none (Url.clean settings.baseUrl.toList) = .ok url := by
  have read := isOk_of_validate valid
  rw [Url.ofString, Url.ofChars] at read
  cases found : Url.resolve none (Url.clean settings.baseUrl.toList) with
  | error fault => simp [found, Except.isOk, Except.toBool] at read
  | ok url => exact ⟨url, rfl⟩

/-- Where a query or a fragment begins, the base is read, and has the path of the URL. -/
theorem exists_base_of_marked (valid : settings.validate = .ok ())
    (marked : ¬ IsUnmarked settings.baseUrl.toList) :
    ∃ url base, Url.ofString settings.baseUrl = .ok url ∧ settings.base = .ok base ∧
      base.path = url.path := by
  obtain ⟨url, read⟩ := exists_url_of_validate valid
  obtain ⟨extra, whole, -⟩ := settings.exists_baseText_eq
  have marked : ¬ IsUnmarked (Url.clean settings.baseUrl.toList) :=
    mt Url.isUnmarked_clean_iff.mp marked
  obtain ⟨base, longer, same⟩ := Url.continues_resolve read
    (show Url.MayFollow _ extra from .inl marked) fun unmarked => absurd unmarked marked
  rw [← whole] at longer
  exact ⟨url, base, read, base_eq_ok_iff.mpr longer, same marked⟩

/-- Without a query and a fragment the path of the base ends with its slash. -/
theorem isFolder_iff_of_unmarked (unmarked : IsUnmarked settings.baseUrl.toList) {base : Url}
    (read : settings.base = .ok base) :
    base.path.IsFolder ↔ Url.isGrounded settings.baseText = true :=
  Url.isFolder_iff_of_resolve (base_eq_ok_iff.mp read) (isUnmarked_baseText_iff.mpr unmarked)
    getLast?_baseText

/-- The base is also read if its slash comes right after the address and ends a path. -/
theorem exists_base_of_grounded (valid : settings.validate = .ok ())
    (grounded : Url.isGrounded settings.baseText = true)
    (solid : settings.baseUrl.toList.getLast?.any Url.isPadding = false) :
    ∃ base, settings.base = .ok base := by
  obtain ⟨url, read⟩ := exists_url_of_validate valid
  obtain ⟨extra, whole, added⟩ := settings.exists_baseText_eq
  have unpadded : ∀ c ∈ settings.baseUrl.toList.getLast?, Url.isPadding c = false := by
    intro c last
    rw [Option.mem_def.mp last] at solid
    exact solid
  rcases added unpadded with rfl | rfl
  · rw [List.append_nil] at whole
    exact ⟨url, base_eq_ok_iff.mpr (whole ▸ read)⟩
  · obtain ⟨base, longer, -⟩ := Url.continues_resolve read (.inr rfl) fun _ => whole ▸ grounded
    exact ⟨base, base_eq_ok_iff.mpr (whole ▸ longer)⟩

/-- Valid settings have a base that keeps its path just if their address leads below a root and,
where it has a query or a fragment, ends its path with a slash before that. With padding at its end it can
be that the slash makes it no URL at all. -/
theorem keepsBase_iff (valid : settings.validate = .ok ()) :
    settings.KeepsBase ↔
      (IsUnmarked settings.baseUrl.toList ∧ Url.isGrounded settings.baseText = true ∧
        (settings.baseUrl.toList.getLast?.any Url.isPadding = true →
          ∃ base, settings.base = .ok base)) ∨
      ¬ IsUnmarked settings.baseUrl.toList ∧
        ∃ url, Url.ofString settings.baseUrl = .ok url ∧ url.path.IsFolder := by
  rw [keepsBase_iff_isFolder]
  by_cases unmarked : IsUnmarked settings.baseUrl.toList
  · simp only [unmarked, not_true_eq_false, false_and, or_false, true_and]
    constructor
    · rintro ⟨base, read, folder⟩
      exact ⟨(isFolder_iff_of_unmarked unmarked read).mp folder, fun _ => ⟨base, read⟩⟩
    · rintro ⟨grounded, padded⟩
      have readable : ∃ base, settings.base = .ok base := by
        cases solid : settings.baseUrl.toList.getLast?.any Url.isPadding with
        | true => exact padded solid
        | false => exact exists_base_of_grounded valid grounded solid
      obtain ⟨base, read⟩ := readable
      exact ⟨base, read, (isFolder_iff_of_unmarked unmarked read).mpr grounded⟩
  · obtain ⟨url, base, named, read, same⟩ := exists_base_of_marked valid unmarked
    simp only [unmarked, false_and, false_or, not_false_eq_true, true_and, named, read,
      Except.ok.injEq, exists_eq_left', same]

/-- An address with a port and a path that is to be a folder. -/
theorem proxy_keepsBase :
    let settings : Settings := { baseUrl := "http://localhost:8080/proxy" }
    settings.validate = .ok () ∧ settings.KeepsBase := by
  intro settings
  have valid : settings.validate = .ok () := validate_eq_ok_iff.mpr (by decide +kernel)
  have unmarked : IsUnmarked settings.baseUrl.toList := by decide
  have unpadded : settings.baseUrl.toList.getLast?.any Url.isPadding = false := by decide
  refine ⟨valid, (keepsBase_iff valid).mpr (.inl ⟨unmarked, by decide +kernel, ?_⟩)⟩
  intro padded
  cases padded.symm.trans unpadded

/-- An address with a query, which takes in the slash that is to end the path. -/
theorem query_loses_folder :
    let settings : Settings := { baseUrl := "http://h/a?x" }
    settings.validate = .ok () ∧
      (∃ base, settings.base = .ok base ∧ base.path.text = ['/', 'a'] ∧
        ∃ url, base.join ['c', 'a', 'a', 's'] = .ok url ∧
          url.path.text = ['/', 'c', 'a', 'a', 's']) ∧
      ¬ settings.KeepsBase := by
  intro settings
  let host : Url.Authority := ⟨[], [], .domain ['h'], none⟩
  let base : Url := ⟨"http".toList, some host, .rooted [['a']], some ['x', '/'], none⟩
  let url : Url := ⟨"http".toList, some host, .rooted [['c', 'a', 'a', 's']], none, none⟩
  have valid : settings.validate = .ok () := validate_eq_ok_iff.mpr (by decide +kernel)
  have read : settings.base = .ok base := base_eq_ok_iff.mpr (by decide +kernel)
  have joined : base.join ['c', 'a', 'a', 's'] = .ok url := by decide +kernel
  refine ⟨valid, ⟨base, read, rfl, url, joined, rfl⟩, ?_⟩
  rintro ⟨found, same, keeps⟩
  cases read.symm.trans same
  exact absurd keeps.ends (by decide)

end Provision.Settings
