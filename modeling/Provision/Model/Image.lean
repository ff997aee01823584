import Provision.Model.Server

namespace Provision

open Json (Codec Record)

/-- An image of an operating system that the service provides. -/
structure OsImage where
  id : Id .image
  name : String
  description : Option String := none
  datacenterId : Option String := none
  operatingSystem : Option OperatingSystem := none
  cpu : Option Cpu := none
  memoryGb : Option UInt32 := none
  disk : List Disk := []
  createTime : Option Timestamp := none
  state : String
deriving DecidableEq

def OsImage.record : Record OsImage where
  name := "OsImage"
  types := _
  fields :=
    .cons (.required "id" Id.codec) <|
    .cons (.required "name" Codec.text) <|
    .cons (.optional "description" Codec.text) <|
    .cons (.optional "datacenterId" Codec.text) <|
    .cons (.optional "operatingSystem" OperatingSystem.record.codec) <|
    .cons (.optional "cpu" Cpu.record.codec) <|
    .cons (.optional "memoryGb" Codec.uint32) <|
    .cons (.items "disk" Disk.record.codec) <|
    .cons (.optional "createTime" Codec.timestamp) <|
    .cons (.required "state" Codec.text) .nil
  build := fun (a, b, c, d, e, f, g, h, i, j, ()) => ⟨a, b, c, d, e, f, g, h, i, j⟩
  parts := fun ⟨a, b, c, d, e, f, g, h, i, j⟩ => (a, b, c, d, e, f, g, h, i, j, ())
  build_parts _ := rfl
  parts_build _ := rfl

/-- An image that a customer made, such as the clone of a server. -/
structure CustomerImage where
  id : Id .image
  name : String
  description : Option String := none
  datacenterId : Option String := none
  operatingSystem : Option OperatingSystem := none
  cpu : Option Cpu := none
  memoryGb : Option UInt32 := none
  disk : List Disk := []
  createTime : Option Timestamp := none
  state : String
deriving DecidableEq

def CustomerImage.record : Record CustomerImage where
  name := "CustomerImage"
  types := _
  fields :=
    .cons (.required "id" Id.codec) <|
    .cons (.required "name" Codec.text) <|
    .cons (.optional "description" Codec.text) <|
    .cons (.optional "datacenterId" Codec.text) <|
    .cons (.optional "operatingSystem" OperatingSystem.record.codec) <|
    .cons (.optional "cpu" Cpu.record.codec) <|
    .cons (.optional "memoryGb" Codec.uint32) <|
    .cons (.items "disk" Disk.record.codec) <|
    .cons (.optional "createTime" Codec.timestamp) <|
    .cons (.required "state" Codec.text) .nil
  build := fun (a, b, c, d, e, f, g, h, i, j, ()) => ⟨a, b, c, d, e, f, g, h, i, j⟩
  parts := fun ⟨a, b, c, d, e, f, g, h, i, j⟩ => (a, b, c, d, e, f, g, h, i, j, ())
  build_parts _ := rfl
  parts_build _ := rfl

end Provision
