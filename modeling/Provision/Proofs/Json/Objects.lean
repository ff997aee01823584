import Mathlib.Data.List.Forall2
import Provision.Proofs.Json.Buffering
import Provision.Proofs.Json.Members

namespace Provision.Json

namespace Syntax

def Member.key : Member → Literal
  | .mk _ key _ _ => key

def Member.value : Member → Doc
  | .mk _ _ _ value => value

def Literal.text? (literal : Literal) : Option String := literal.quotation.content.toOption

theorem Literal.text?_eq_some_iff {literal : Literal} {text : String} :
    literal.text? = some text ↔ literal.Spells text := by
  rw [← Literal.content_eq_ok_iff, Literal.text?]
  cases literal.quotation.content <;> simp [Except.toOption]

def entries (members : List Member) : List (String × Doc) :=
  members.filterMap fun member => member.key.text?.map (·, member.value)

theorem named_membersOutline (members : List Member) :
    named (membersOutline members) =
      (entries members).map fun entry => (entry.1, entry.2.outline) := by
  induction members with
  | nil => rfl
  | cons member members ih =>
    obtain ⟨before, key, after, value⟩ := member
    change (((key.quotation, value.outline) :: membersOutline members).filterMap _) = _
    rw [entries, List.filterMap_cons, List.filterMap_cons, ← named, ← entries, ih]
    simp only [Member.key, Member.value, Literal.text?]
    cases key.quotation.content <;> rfl

theorem entries_cons {member : Member} {key : String} (spelt : member.key.Spells key)
    (members : List Member) :
    entries (member :: members) = (key, member.value) :: entries members := by
  rw [entries, List.filterMap_cons, Literal.text?_eq_some_iff.mpr spelt]
  rfl

theorem itemsOutline_eq_map (items : List Doc) : itemsOutline items = items.map Doc.outline := by
  induction items with
  | nil => rfl
  | cons item items ih => rw [itemsOutline, ih, List.map_cons]

/-- The blanks of a list or an object, those of its items or members apart. -/
structure Margins where
  before : Blanks
  inside : Blanks
  after : Blanks

namespace Margins

def list (margins : Margins) (items : List Doc) : Doc :=
  .mk margins.before (.list margins.inside items) margins.after

def object (margins : Margins) (members : List Member) : Doc :=
  .mk margins.before (.object margins.inside members) margins.after

end Margins

end Syntax

open Syntax

variable {α β : Type} {types : List Type}

theorem valuesOf_map {γ : Type} (f : β → γ) (key : String) (members : List (String × β)) :
    valuesOf key (members.map fun member => (member.1, f member.2)) =
      (valuesOf key members).map f := by
  simp only [valuesOf, List.filter_map, List.map_map]
  rfl

theorem valuesOf_eq_nil {key : String} {members : List (String × β)}
    (absent : key ∉ members.map Prod.fst) : valuesOf key members = [] := by
  apply List.eq_nil_iff_forall_not_mem.mpr
  intro value present
  exact absent (List.mem_map.mpr ⟨_, mem_valuesOf.mp present, rfl⟩)

theorem valuesOf_append (key : String) (members others : List (String × β)) :
    valuesOf key (members ++ others) = valuesOf key members ++ valuesOf key others := by
  simp [valuesOf]

theorem valuesOf_perm {key : String} {members others : List (String × β)}
    (same : members.Perm others) : (valuesOf key members).Perm (valuesOf key others) :=
  (same.filter _).map _

def Row.set : {types : List Type} → Row types → Place types α → α → Row types
  | _, row, .here, value => Prod.mk value row.2
  | _, row, .there place, value => Prod.mk row.1 (Row.set row.2 place value)

theorem Row.set_get (row : Row types) (place : Place types α) :
    row.set place (row.get place) = row := by
  induction place with
  | here => rfl
  | there place ih => exact congrArg (Prod.mk row.1) (ih row.2)

namespace Field

/-- What a field takes from the members of its key: from its only one what that reads as by itself,
and its default if there is none. -/
inductive Takes (field : Field α) : List Doc → α → Prop where
  | absent {value : α} (default : field.absent = some value) : Takes field [] value
  | present {only : Doc} {value : α} (reads : field.codec.decode only.bytes = .ok value) :
    Takes field [only] value

variable {field : Field α} {docs others : List Doc} {value : α}

theorem takes_iff_gets : field.Takes docs value ↔ field.Gets (docs.map Doc.outline) value := by
  constructor
  · intro takes
    cases takes with
    | absent default => exact .absent default
    | present reads => exact .present (field.codec.decode_doc _ ▸ reads)
  · intro gets
    match docs, gets with
    | [], .absent default => exact .absent default
    | [only], .present reads => exact .present ((field.codec.decode_doc only).trans reads)

theorem Takes.length_le_one (takes : field.Takes docs value) : docs.length ≤ 1 := by
  cases takes <;> simp

theorem Takes.perm (takes : field.Takes docs value) (same : docs.Perm others) :
    field.Takes others value := by
  cases takes with
  | absent default => exact same.nil_eq ▸ .absent default
  | present reads => exact (List.singleton_perm.mp same) ▸ .present reads

theorem Takes.reads_of_mem (takes : field.Takes docs value) {doc : Doc} (member : doc ∈ docs) :
    field.codec.decode doc.bytes = .ok value := by
  cases takes with
  | absent default => cases member
  | present reads =>
    cases List.mem_singleton.mp member
    exact reads

theorem Takes.eq_default (takes : field.Takes [] value) : field.absent = some value := by
  cases takes
  assumption

end Field

namespace Fields

variable {fields : Fields types}

/-- When one key's values are others, only the field of that key takes something else. -/
theorem takes_set (distinct : fields.keys.Nodup) (docs others : String → List Doc)
    {row : Row types} {place : Place types α} {value : α}
    (takes : ∀ {β : Type} (place : Place types β),
      (fields.get place).Takes (docs (fields.get place).key) (row.get place))
    (same : ∀ key, key ≠ (fields.get place).key → others key = docs key)
    (own : (fields.get place).Takes (others (fields.get place).key) value)
    {β : Type} (spot : Place types β) :
    (fields.get spot).Takes (others (fields.get spot).key) ((row.set place value).get spot) := by
  induction fields with
  | nil => cases place
  | cons field fields ih =>
    obtain ⟨fresh, distinct⟩ := List.nodup_cons.mp distinct
    cases place with
    | here =>
      cases spot with
      | here => exact own
      | there spot =>
        have other : (fields.get spot).key ≠ field.key := fun same =>
          fresh (same ▸ fields.key_mem_keys spot)
        exact (same _ other).symm ▸ takes (.there spot)
    | there place =>
      cases spot with
      | here =>
        have other : field.key ≠ (fields.get place).key := fun same =>
          fresh (same ▸ fields.key_mem_keys place)
        exact (same _ other).symm ▸ takes .here
      | there spot => exact ih distinct (fun place => takes (.there place)) same own spot

end Fields

namespace Syntax

def Doc.content : Doc → Value
  | .mk _ value _ => value

theorem Doc.outline_eq_null_iff (doc : Doc) : doc.outline = .null ↔ doc.content = .null := by
  obtain ⟨before, value, after⟩ := doc
  cases value <;> simp [Doc.outline, Doc.content, Value.outline]

end Syntax

namespace Codec

theorem decode_of_bare_eq (codec : Codec α) {doc other : Doc} (same : doc.bare = other.bare) :
    codec.decode doc.bytes = codec.decode other.bytes := by
  rw [codec.decode_doc, codec.decode_doc, ← outline_bare doc, same, outline_bare other]

theorem readItems_eq_ok_iff (item : Codec α) (outlines : List Outline) (values : List α) :
    item.readItems outlines = .ok values ↔
      List.Forall₂ (fun outline value => item.read outline = .ok value) outlines values := by
  induction outlines generalizing values with
  | nil => simp [readItems, eq_comm]
  | cons outline outlines ih =>
    have steps : item.readItems (outline :: outlines) = .ok values ↔
        ∃ value others, item.read outline = .ok value ∧ item.readItems outlines = .ok others ∧
          values = value :: others := by
      change (item.read outline).bind _ = .ok values ↔ _
      cases item.read outline with
      | error refusal => simp [Except.bind]
      | ok value =>
        change (item.readItems outlines).bind _ = .ok values ↔ _
        cases item.readItems outlines <;> simp [Except.bind, pure, Except.pure, eq_comm]
    simp only [steps, ih, List.forall₂_cons_left_iff]

theorem decode_list_iff (item : Codec α) (margins : Margins) (items : List Doc)
    (values : List α) :
    item.list.decode (margins.list items).bytes = .ok values ↔
      List.Forall₂ (fun doc value => item.decode doc.bytes = .ok value) items values := by
  have whole : item.list.read (margins.list items).outline = .ok values ↔
      item.readItems (itemsOutline items) = .ok values := by
    change (item.readItems (itemsOutline items)).bind _ = .ok values ↔ _
    cases item.readItems (itemsOutline items) <;>
      simp [Except.bind, heedFault, Ending.listFault?, bind, pure, Except.pure]
  rw [item.list.decode_doc, whole, readItems_eq_ok_iff, itemsOutline_eq_map,
    List.forall₂_map_left_iff]
  simp only [item.decode_doc]

theorem read_optional (codec : Codec α) {outline : Outline} (present : outline ≠ .null) :
    codec.optional.read outline = (codec.read outline).map some := by
  unfold optional
  dsimp only
  split
  · exact absurd rfl present
  · rfl

/-- A value that may be absent is read as the value itself unless it is `null`. -/
theorem decode_optional_iff (codec : Codec α) (doc : Doc) (value : Option α) :
    codec.optional.decode doc.bytes = .ok value ↔
      (doc.content = .null ∧ value = none) ∨
        (doc.content ≠ .null ∧ ∃ read, codec.decode doc.bytes = .ok read ∧ value = some read) := by
  rw [codec.optional.decode_doc, codec.decode_doc]
  by_cases null : doc.content = .null
  · rw [doc.outline_eq_null_iff.mpr null]
    simp [null, optional, eq_comm]
  · rw [codec.read_optional (mt doc.outline_eq_null_iff.mp null)]
    cases codec.read doc.outline <;> simp [null, Except.map, eq_comm]

end Codec

end Provision.Json
