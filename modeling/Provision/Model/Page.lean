import Provision.Model.Network
import Provision.Model.Server

/-!
Pages of lists. A page is an object with its items under a key of their own, and with its paging
beside them.
-/
namespace Provision

open Json (Codec Record Outline Quotation Refusal Slots Fields wanted heedFault)

structure PageInfo where
  /-- Counted from 1. -/
  pageNumber : UInt32 := 0
  /-- The number of items on the page. -/
  pageCount : UInt32 := 0
  totalCount : UInt32 := 0
  pageSize : UInt32 := 0
deriving DecidableEq

def PageInfo.record : Record PageInfo where
  name := "PageInfo"
  types := _
  fields :=
    .cons (.defaulted "pageNumber" Codec.uint32 0) <|
    .cons (.defaulted "pageCount" Codec.uint32 0) <|
    .cons (.defaulted "totalCount" Codec.uint32 0) <|
    .cons (.defaulted "pageSize" Codec.uint32 0) .nil
  build := fun (a, b, c, d, ()) => ⟨a, b, c, d⟩
  parts := fun ⟨a, b, c, d⟩ => (a, b, c, d, ())
  build_parts _ := rfl
  parts_build _ := rfl

def PageInfo.hasMore (info : PageInfo) : Bool :=
  info.pageNumber.toUInt64 * info.pageSize.toUInt64 < info.totalCount.toUInt64

structure Page (α : Type) where
  items : List α := []
  info : PageInfo := {}
deriving DecidableEq

/-- How pages of a type of items are written: the name of the record, and the key and the type of
the items. -/
structure PageFormat (α : Type) where
  name : String
  key : String
  item : Codec α

namespace PageFormat

variable {α : Type}

/-- Take the members of a page in order: the items are read, everything else is laid aside, which
asks for values that can be kept. -/
def takeAll (format : PageFormat α) :
    List (Quotation × Outline) → Option (List α) → List (String × Outline) →
      Except Refusal (Option (List α) × List (String × Outline))
  | [], items, others => .ok (items, others.reverse)
  | (key, value) :: members, items, others => do
    let key ← wanted key.content
    if key = format.key then
      if items.isSome then throw (.duplicate key)
      let read ← format.item.list.read value
      format.takeAll members (some read) others
    else
      let _ ← wanted (value.value (Outline.depthLimit - 1))
      format.takeAll members items ((key, value) :: others)

def fillAll {types : List Type} (fields : Fields types) :
    List (String × Outline) → Slots types → Except Refusal (Slots types)
  | [], slots => .ok slots
  | (key, value) :: others, slots => do
    let slots ← fields.fill key value slots
    fillAll fields others slots

def read (format : PageFormat α) : Outline → Except Refusal (Page α)
  | .object members ending => do
    let (items, others) ← format.takeAll members none []
    heedFault ending.objectFault?
    let slots ← fillAll PageInfo.record.fields others PageInfo.record.fields.empty
    let row ← PageInfo.record.fields.close slots
    return ⟨items.getD [], PageInfo.record.build row⟩
  | other => other.refuse s!"struct {format.name}"

def codec (format : PageFormat α) : Codec (Page α) where
  read := format.read
  write page :=
    .object ((format.key, format.item.list.write page.items) :: PageInfo.record.members page.info)

end PageFormat

def NetworkDomain.pages : PageFormat NetworkDomain :=
  ⟨"NetworkDomains", "networkDomain", NetworkDomain.record.codec⟩

def Vlan.pages : PageFormat Vlan := ⟨"Vlans", "vlan", Vlan.record.codec⟩

def Server.pages : PageFormat Server := ⟨"Servers", "server", Server.record.codec⟩

end Provision
