import Provision.Json.Codec

/-!
Records: JSON objects with known keys. A record is described by its fields in order; the description
gives the reader and the writer. The reader takes members in the order of the text, skips unknown
keys, refuses a known key that occurs twice, and fills fields without a member with their defaults;
a list of the fields' values in order is read as well.
-/
namespace Provision.Json

/-- One field of a record: its key, its values, the value it takes when its key is missing, and the
values that are not written. A field without such a default is required. -/
structure Field (α : Type) where
  key : String
  codec : Codec α
  absent : Option α
  hides : α → Bool

namespace Field

variable {α : Type}

def required (key : String) (codec : Codec α) : Field α := ⟨key, codec, none, fun _ => false⟩

/-- A field with a default, always written. -/
def defaulted (key : String) (codec : Codec α) (absent : α) : Field α :=
  ⟨key, codec, some absent, fun _ => false⟩

/-- A field that may be missing or `null`, and is not written then. -/
def optional (key : String) (codec : Codec α) : Field (Option α) :=
  ⟨key, codec.optional, some none, Option.isNone⟩

/-- A list that may be missing, always written. -/
def items (key : String) (codec : Codec α) : Field (List α) :=
  ⟨key, codec.list, some [], fun _ => false⟩

/-- A list that may be missing, and is not written when it is empty. -/
def someItems (key : String) (codec : Codec α) : Field (List α) :=
  ⟨key, codec.list, some [], List.isEmpty⟩

def member (field : Field α) (value : α) : List (String × Json) :=
  if field.hides value then [] else [(field.key, field.codec.write value)]

end Field

def Row : List Type → Type
  | [] => Unit
  | α :: types => α × Row types

/-- A tuple of values of the given types, each of which may still be missing. -/
def Slots : List Type → Type
  | [] => Unit
  | α :: types => Option α × Slots types

inductive Fields : List Type → Type 1 where
  | nil : Fields []
  | cons {α : Type} {types : List Type} (field : Field α) (fields : Fields types) :
    Fields (α :: types)

namespace Fields

variable {types : List Type}

def size : {types : List Type} → Fields types → Nat
  | _, .nil => 0
  | _, .cons _ fields => fields.size + 1

def empty : {types : List Type} → Fields types → Slots types
  | _, .nil => ()
  | _, .cons _ fields => (none, fields.empty)

def hasKey (key : String) : {types : List Type} → Fields types → Bool
  | _, .nil => false
  | _, .cons field fields => field.key == key || fields.hasKey key

/-- Put a member's value into the slot of its field. The first field of a key takes it, and only
once. A key of no field leaves the slots as they are. -/
def fill (key : String) (value : Outline) :
    {types : List Type} → Fields types → Slots types → Except Refusal (Slots types)
  | _, .nil, () => .ok ()
  | _, .cons field fields, (slot, slots) =>
    if field.key = key then
      match slot with
      | some _ => .error (.duplicate key)
      | none => do
        let read ← field.codec.read value
        return (some read, slots)
    else do
      let slots ← fields.fill key value slots
      return (slot, slots)

/-- Take one member: fill the slot of a known key, skip the value of an unknown one. -/
def take (fields : Fields types) (key : String) (value : Outline) (slots : Slots types) :
    Except Refusal (Slots types) :=
  if fields.hasKey key then fields.fill key value slots
  else do
    wanted value.skip
    return slots

def takeAll (fields : Fields types) :
    List (Quotation × Outline) → Slots types → Except Refusal (Slots types)
  | [], slots => .ok slots
  | (key, value) :: members, slots => do
    let key ← wanted key.content
    let slots ← fields.take key value slots
    fields.takeAll members slots

def close : {types : List Type} → Fields types → Slots types → Except Refusal (Row types)
  | _, .nil, () => .ok ()
  | _, .cons field fields, (slot, slots) =>
    match slot.or field.absent with
    | none => .error (.missing field.key)
    | some value => do
      let row ← fields.close slots
      return (value, row)

/-- The fault of a list's ending for a reader who has taken all the items it wants. -/
def surplusFault? (items : List Outline) (ending : Ending) : Option Fault :=
  match items, ending with
  | _ :: _, _ => some .trailingText
  | [], .closed => none
  | [], .cut => some .listCut
  | [], .danglingComma => some .trailingComma
  | [], _ => some .trailingText

/-- Take the values of the fields in order from the items of a list, the first of these fields being
at `position` of the record `name` of `size` fields. -/
def takeItems (name : String) (size position : Nat) (ending : Ending) :
    {types : List Type} → Fields types → List Outline → Except Refusal (Row types)
  | _, .nil, items => heedFault (surplusFault? items ending)
  | _, .cons field fields, item :: items => do
    let value ← field.codec.read item
    let row ← fields.takeItems name size (position + 1) ending items
    return (value, row)
  | _, .cons field fields, [] => do
    heedFault ending.listFault?
    match field.absent with
    | none => throw (.tooFew position name size)
    | some value =>
      let row ← fields.takeItems name size (position + 1) ending []
      return (value, row)

def members : {types : List Type} → Fields types → Row types → List (String × Json)
  | _, .nil, () => []
  | _, .cons field fields, (value, row) => field.member value ++ fields.members row

end Fields

/-- A record type: its name, its fields, and its values as tuples. -/
structure Record (α : Type) where
  name : String
  types : List Type
  fields : Fields types
  build : Row types → α
  parts : α → Row types
  build_parts : ∀ value, build (parts value) = value
  parts_build : ∀ row, parts (build row) = row

namespace Record

variable {α : Type}

/-- Read a record from an object or from a list of its values. -/
def read (record : Record α) : Outline → Except Refusal α
  | .object members ending => do
    let slots ← record.fields.takeAll members record.fields.empty
    heedFault ending.objectFault?
    let row ← record.fields.close slots
    return record.build row
  | .list items ending => do
    let row ← record.fields.takeItems record.name record.fields.size 0 ending items
    return record.build row
  | other => other.refuse s!"struct {record.name}"

def members (record : Record α) (value : α) : List (String × Json) :=
  record.fields.members (record.parts value)

def codec (record : Record α) : Codec α where
  read := record.read
  write value := .object (record.members value)

end Record

end Provision.Json
