import Provision.Id
import Provision.Json.Record

namespace Provision

open Json (Codec Record)

/-- Another entity, by its identifier and perhaps its name. -/
structure EntityReference where
  id : String
  name : Option String := none
deriving DecidableEq

def EntityReference.record : Record EntityReference where
  name := "EntityReference"
  types := _
  fields :=
    .cons (.required "id" Codec.text) <|
    .cons (.optional "name" Codec.text) .nil
  build := fun (a, b, ()) => ⟨a, b⟩
  parts := fun ⟨a, b⟩ => (a, b, ())
  build_parts _ := rfl
  parts_build _ := rfl

/-- A range of addresses, by its first one and the length of the common part. -/
structure IpRange where
  address : String
  prefixSize : UInt8
deriving DecidableEq

def IpRange.record : Record IpRange where
  name := "IpRange"
  types := _
  fields :=
    .cons (.required "address" Codec.text) <|
    .cons (.required "prefixSize" Codec.uint8) .nil
  build := fun (a, b, ()) => ⟨a, b⟩
  parts := fun ⟨a, b⟩ => (a, b, ())
  build_parts _ := rfl
  parts_build _ := rfl

structure IdRequest where
  id : String
deriving DecidableEq

def IdRequest.record : Record IdRequest where
  name := "IdRequest"
  types := _
  fields :=
    .cons (.required "id" Codec.text) .nil
  build := fun (a, ()) => ⟨a⟩
  parts := fun ⟨a⟩ => (a, ())
  build_parts _ := rfl
  parts_build _ := rfl

end Provision
