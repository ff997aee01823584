import Provision.Model.Catalogue
import Provision.Proofs.Model.Described
import Provision.Settings

namespace Provision

open Json Json.Syntax

variable {α : Type} {types : List Type}

namespace Json

/-- The defaults that go without saying: nothing, no items, no text, zero, `false`, and for an end
of a rule on traffic nothing said of it. -/
inductive PlainDefault : {α : Type} → α → Prop where
  | none {α : Type} : PlainDefault (none : Option α)
  | nil {α : Type} : PlainDefault ([] : List α)
  | text : PlainDefault ""
  | zero : PlainDefault (0 : UInt32)
  | false : PlainDefault false
  | endpoint : PlainDefault ({} : FirewallEndpoint)

/-- A field whose default, if there is one, goes without saying. -/
structure Field.IsPlain (field : Field α) : Prop where
  plain (default : α) (optional : field.absent = some default) : PlainDefault default

namespace Field

variable (key : String) (codec : Codec α)

theorem isPlain_required : (required key codec).IsPlain := ⟨fun _ absurd => nomatch absurd⟩

theorem isPlain_defaulted {default : α} (plain : PlainDefault default) :
    (defaulted key codec default).IsPlain :=
  ⟨fun _ held => Option.some.inj held ▸ plain⟩

theorem isPlain_optional : (optional key codec).IsPlain :=
  ⟨fun _ held => Option.some.inj held ▸ .none⟩

theorem isPlain_items : (items key codec).IsPlain := ⟨fun _ held => Option.some.inj held ▸ .nil⟩

theorem isPlain_someItems : (someItems key codec).IsPlain :=
  ⟨fun _ held => Option.some.inj held ▸ .nil⟩

end Field

def Fields.ArePlain (fields : Fields types) : Prop :=
  ∀ {α : Type} (place : Place types α), (fields.get place).IsPlain

namespace Fields

theorem arePlain_nil : nil.ArePlain := fun place => nomatch place

theorem ArePlain.cons {field : Field α} {fields : Fields types} (own : field.IsPlain)
    (rest : fields.ArePlain) : (Fields.cons field fields).ArePlain := by
  intro β place
  cases place with
  | here => exact own
  | there place => exact rest place

end Fields

end Json

theorem plain_pageInfo : PageInfo.record.fields.ArePlain := by
  repeat' first
    | apply Fields.ArePlain.cons
    | apply Field.isPlain_defaulted
    | apply PlainDefault.zero
    | apply Fields.arePlain_nil

theorem plain_of_mem : ∀ entry ∈ catalogue, entry.record.fields.ArePlain := by
  simp only [catalogue, Kind.all, Model.record, List.map_cons, List.map_nil, List.cons_append,
    List.nil_append, List.forall_mem_cons]
  -- Down the fields of each record; those of the records in them are other entries' concern.
  repeat' first
    | apply And.intro
    | apply Fields.ArePlain.cons
    | apply Field.isPlain_required
    | apply Field.isPlain_optional
    | apply Field.isPlain_items
    | apply Field.isPlain_someItems
    | apply Field.isPlain_defaulted
    | apply Fields.arePlain_nil
    | apply PlainDefault.text
    | apply PlainDefault.zero
    | apply PlainDefault.false
    | apply PlainDefault.endpoint
  · exact List.forall_mem_nil _

/-- The defaults of settings are those of settings of which only the address is given. -/
theorem Settings.absent_eq (address : String) : ∀ {α : Type} (place : Place Settings.record.types α)
    (default : α), (Settings.record.fields.get place).absent = some default →
      (Settings.record.parts { baseUrl := address }).get place = default
  | _, .here, _, held => nomatch held
  | _, .there .here, _, held => Option.some.inj held
  | _, .there (.there .here), _, held => Option.some.inj held
  | _, .there (.there (.there .here)), _, held => Option.some.inj held
  | _, .there (.there (.there (.there .here))), _, held => Option.some.inj held
  | _, .there (.there (.there (.there (.there .here)))), _, held => Option.some.inj held
  | _, .there (.there (.there (.there (.there (.there .here))))), _, held => Option.some.inj held
  | _, .there (.there (.there (.there (.there (.there (.there .here)))))), _, held =>
    Option.some.inj held
  | _, .there (.there (.there (.there (.there (.there (.there (.there .here))))))), _, held =>
    Option.some.inj held

theorem distinct_keys : ∀ entry ∈ catalogue, entry.record.fields.keys.Nodup := by
  decide +kernel

structure ReadsMemberwise : Prop where
  records : ∀ entry ∈ catalogue, Composes entry.record.codec entry.record fun _ => True
  settings : Composes Settings.record.codec Settings.record fun _ => True
  networkDomains : Composes NetworkDomain.pages.codec NetworkDomain.pages.record
    (Doc.CanBeKept (Outline.depthLimit - 1))
  vlans : Composes Vlan.pages.codec Vlan.pages.record (Doc.CanBeKept (Outline.depthLimit - 1))
  servers : Composes Server.pages.codec Server.pages.record
    (Doc.CanBeKept (Outline.depthLimit - 1))
  /-- Lists in documents are read item by item. -/
  lists {α : Type} (item : Codec α) (margins : Margins) (items : List Doc) (values : List α) :
    item.list.decode (margins.list items).bytes = .ok values ↔
      List.Forall₂ (fun doc value => item.decode doc.bytes = .ok value) items values
  /-- Values that may be absent are read as themselves unless they are `null`. -/
  optionals {α : Type} (codec : Codec α) (doc : Doc) (value : Option α) :
    codec.optional.decode doc.bytes = .ok value ↔
      (doc.content = .null ∧ value = none) ∨
        (doc.content ≠ .null ∧ ∃ read, codec.decode doc.bytes = .ok read ∧ value = some read)
  /-- Blanks, the order of members and unknown members are of no account at any depth. -/
  variants {α : Type} {codec : Codec α} {doc other : Doc} (variant : Variant codec doc other)
    (value : α) : codec.decode doc.bytes = .ok value ↔ codec.decode other.bytes = .ok value
  defaults : ∀ entry ∈ catalogue, entry.record.fields.ArePlain
  pageDefaults {α : Type} (format : PageFormat α) : format.fields.ArePlain
  settingDefaults (address : String) {α : Type} (place : Place Settings.record.types α)
    (default : α) (optional : (Settings.record.fields.get place).absent = some default) :
    (Settings.record.parts { baseUrl := address }).get place = default

/-- Documents of all types are read member by member. -/
theorem readsMemberwise : ReadsMemberwise where
  records entry listed := (Described.record (distinct_keys entry listed)).composes
  settings := (Described.record (by decide)).composes
  networkDomains := (Described.page (by decide)).composes
  vlans := (Described.page (by decide)).composes
  servers := (Described.page (by decide)).composes
  lists := Codec.decode_list_iff
  optionals := Codec.decode_optional_iff
  variants := Variant.decode_iff
  defaults := plain_of_mem
  pageDefaults format := Fields.ArePlain.cons (Field.isPlain_items _ _) plain_pageInfo
  settingDefaults address _ place default := Settings.absent_eq address place default

private def one : Figure :=
  ⟨false, ⟨[0x31], List.cons_ne_nil _ _, by simp [isDigit]⟩, fun _ => rfl, none, none⟩

private def upperHalf : CodeUnit :=
  ⟨⟨0x64, ⟨13, by decide⟩, rfl⟩, ⟨0x38, ⟨8, by decide⟩, rfl⟩, ⟨0x30, ⟨0, by decide⟩, rfl⟩,
    ⟨0x30, ⟨0, by decide⟩, rfl⟩⟩

/-- A member that is known, and one whose key is half a character. -/
def halfNamed : List Member :=
  [.mk [] [.plain 'i' (by decide), .plain 'd' (by decide)] []
      (.mk [] (.string [.plain 'a' (by decide)]) []),
    .mk [] [.unit upperHalf] [] (.mk [] (.number one) [])]

/-- A document that fits is refused for a key that is no text. -/
theorem half_name_refused :
    ((Margins.mk [] [] []).object halfNamed).bytes =
        Text.utf8 "\x7b\"id\":\"a\",\"\\ud800\":1\x7d" ∧
      Fits IdRequest.record.fields halfNamed ∧
      ¬ ∃ value, IdRequest.record.codec.decode ((Margins.mk [] [] []).object halfNamed).bytes =
        .ok value := by
  have known : entries halfNamed = [("id", .mk [] (.string [.plain 'a' (by decide)]) [])] := rfl
  refine ⟨by decide +kernel, ⟨?_, ?_, ?_⟩, ?_⟩
  · intro key listed
    cases List.mem_singleton.mp listed
    rw [known]
    decide
  · intro α place required
    cases place with
    | here => exact ⟨_, known ▸ List.mem_cons_self⟩
    | there place => cases place
  · intro α place doc occurs
    cases place with
    | here =>
      cases List.mem_singleton.mp (known ▸ occurs)
      exact ⟨"a", Codec.decode_doc _ _⟩
    | there place => cases place
  · rintro ⟨value, done⟩
    obtain ⟨texts, -, -⟩ := ((Described.record (by decide)).decode_eq_ok_iff _ _ _).mp done
    obtain ⟨key, spelt⟩ := texts _ (List.mem_cons_of_mem _ List.mem_cons_self)
    cases spelt

end Provision
