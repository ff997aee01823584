import Provision.Proofs.Json.Scanning

namespace Provision.Json.Syntax

theorem Literal.content_eq_ok_iff (literal : Literal) (text : String) :
    literal.quotation.content = .ok text ↔ literal.Spells text := by
  rw [Literal.quotation, Literal.Spells]
  cases literal.resolve with
  | error fault => simp [Except.map]
  | ok chars =>
    simp only [Except.map, Except.ok.injEq]
    constructor
    · rintro rfl
      rw [String.toList_ofList]
    · rintro rfl
      rw [String.ofList_toList]

mutual

theorem skip_value (value : Value) : value.outline.skip = .ok () := by
  match value with
  | .null => rfl
  | .bool _ => rfl
  | .number _ => rfl
  | .string _ => rfl
  | .list _ items =>
    rw [Value.outline, Outline.skip, skip_items items]
    rfl
  | .object _ members =>
    rw [Value.outline, Outline.skip, skip_members members]
    rfl

theorem skip_doc (doc : Doc) : doc.outline.skip = .ok () := by
  match doc with
  | .mk _ value _ => exact skip_value value

theorem skip_items (items : List Doc) : Outline.skipItems (itemsOutline items) = .ok () := by
  match items with
  | [] => rfl
  | item :: items =>
    rw [itemsOutline, Outline.skipItems, skip_doc item]
    exact skip_items items

theorem skip_members (members : List Member) :
    Outline.skipMembers (membersOutline members) = .ok () := by
  match members with
  | [] => rfl
  | .mk _ key _ value :: members =>
    rw [membersOutline, Outline.skipMembers, Member.outline, Outline.skipMember, skip_doc value]
    exact skip_members members

end

mutual

theorem outline_bare_value (value : Value) : value.bare.outline = value.outline := by
  match value with
  | .null => rfl
  | .bool _ => rfl
  | .number _ => rfl
  | .string _ => rfl
  | .list _ items => rw [Value.bare, Value.outline, Value.outline, outline_bare_items items]
  | .object _ members =>
    rw [Value.bare, Value.outline, Value.outline, outline_bare_members members]

theorem outline_bare (doc : Doc) : doc.bare.outline = doc.outline := by
  match doc with
  | .mk _ value _ => exact outline_bare_value value

theorem outline_bare_items (items : List Doc) :
    itemsOutline (bareItems items) = itemsOutline items := by
  match items with
  | [] => rfl
  | item :: items =>
    rw [bareItems, itemsOutline, itemsOutline, outline_bare item, outline_bare_items items]

theorem outline_bare_members (members : List Member) :
    membersOutline (bareMembers members) = membersOutline members := by
  match members with
  | [] => rfl
  | .mk _ key _ value :: members =>
    rw [bareMembers, membersOutline, membersOutline, outline_bare_members members, Member.bare,
      Member.outline, Member.outline, outline_bare value]

end

mutual

/-- Whether a value can be kept, within so many levels of lists and objects: its numbers are in
range, and its strings stand for texts. -/
def Value.CanBeKept (depth : Nat) : Value → Prop
  | .null => True
  | .bool _ => True
  | .number figure => ∃ number, figure.numeral.value = .ok number
  | .string literal => ∃ text, literal.Spells text
  | .list _ items =>
    match depth with
    | 0 => False
    | depth + 1 => ItemsCanBeKept depth items
  | .object _ members =>
    match depth with
    | 0 => False
    | depth + 1 => MembersCanBeKept depth members

def Doc.CanBeKept (depth : Nat) : Doc → Prop
  | .mk _ value _ => value.CanBeKept depth

def ItemsCanBeKept (depth : Nat) : List Doc → Prop
  | [] => True
  | item :: items => item.CanBeKept depth ∧ ItemsCanBeKept depth items

def Member.CanBeKept (depth : Nat) : Member → Prop
  | .mk _ key _ value => (∃ text, key.Spells text) ∧ value.CanBeKept depth

def MembersCanBeKept (depth : Nat) : List Member → Prop
  | [] => True
  | member :: members => member.CanBeKept depth ∧ MembersCanBeKept depth members

end

private theorem exists_map {ε α β : Type} (result : Except ε α) (f : α → β) :
    (∃ value, result.map f = .ok value) ↔ ∃ value, result = .ok value := by
  cases result <;> simp [Except.map]

private theorem exists_bind {ε α β γ : Type} (first : Except ε α) (second : Except ε β)
    (f : α → β → γ) :
    (∃ value, (first.bind fun a => second.bind fun b => .ok (f a b)) = .ok value) ↔
      (∃ a, first = .ok a) ∧ ∃ b, second = .ok b := by
  cases first <;> cases second <;> simp [Except.bind]

mutual

theorem exists_value_iff (value : Value) (depth : Nat) :
    (∃ json, value.outline.value depth = .ok json) ↔ value.CanBeKept depth := by
  match value with
  | .null => simp [Value.outline, Outline.value, Value.CanBeKept]
  | .bool _ => simp [Value.outline, Outline.value, Value.CanBeKept]
  | .number figure => simp only [Value.outline, Outline.value, Value.CanBeKept, exists_map]
  | .string literal =>
    simp only [Value.outline, Outline.value, Value.CanBeKept, exists_map,
      Literal.content_eq_ok_iff]
  | .list _ items =>
    cases depth with
    | zero => simp [Value.outline, Outline.value, Value.CanBeKept]
    | succ depth =>
      rw [Value.CanBeKept, ← exists_items_iff items depth, Value.outline, Outline.value]
      cases Outline.values depth (itemsOutline items) <;>
        simp [bind, Except.bind, pure, Except.pure, Ending.listFault?, faultless]
  | .object _ members =>
    cases depth with
    | zero => simp [Value.outline, Outline.value, Value.CanBeKept]
    | succ depth =>
      rw [Value.CanBeKept, ← exists_members_iff members depth, Value.outline, Outline.value]
      cases Outline.memberValues depth (membersOutline members) <;>
        simp [bind, Except.bind, pure, Except.pure, Ending.objectFault?, faultless]

theorem exists_doc_iff (doc : Doc) (depth : Nat) :
    (∃ json, doc.outline.value depth = .ok json) ↔ doc.CanBeKept depth := by
  match doc with
  | .mk _ value _ => exact exists_value_iff value depth

theorem exists_items_iff (items : List Doc) (depth : Nat) :
    (∃ values, Outline.values depth (itemsOutline items) = .ok values) ↔
      ItemsCanBeKept depth items := by
  match items with
  | [] => simp [itemsOutline, Outline.values, ItemsCanBeKept]
  | item :: items =>
    rw [ItemsCanBeKept, ← exists_doc_iff item depth, ← exists_items_iff items depth, itemsOutline,
      Outline.values]
    exact exists_bind _ _ _

theorem exists_members_iff (members : List Member) (depth : Nat) :
    (∃ values, Outline.memberValues depth (membersOutline members) = .ok values) ↔
      MembersCanBeKept depth members := by
  match members with
  | [] => simp [membersOutline, Outline.memberValues, MembersCanBeKept]
  | .mk _ key _ value :: members =>
    have own : (∃ member, Outline.memberValue depth (key.quotation, value.outline) = .ok member) ↔
        (∃ text, key.Spells text) ∧ value.CanBeKept depth := by
      rw [← exists_doc_iff value depth]
      simp only [← Literal.content_eq_ok_iff, Outline.memberValue]
      exact exists_bind _ _ _
    rw [MembersCanBeKept, Member.CanBeKept, ← own, ← exists_members_iff members depth,
      membersOutline, Outline.memberValues, Member.outline]
    exact exists_bind _ _ _

end

end Provision.Json.Syntax
