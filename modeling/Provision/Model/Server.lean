import Provision.Id
import Provision.Json.Record

namespace Provision

open Json (Codec Record)

structure OperatingSystem where
  id : String
  displayName : String := ""
  family : String := ""
deriving DecidableEq

def OperatingSystem.record : Record OperatingSystem where
  name := "OperatingSystem"
  types := _
  fields :=
    .cons (.required "id" Codec.text) <|
    .cons (.defaulted "displayName" Codec.text "") <|
    .cons (.defaulted "family" Codec.text "") .nil
  build := fun (a, b, c, ()) => ⟨a, b, c⟩
  parts := fun ⟨a, b, c⟩ => (a, b, c, ())
  build_parts _ := rfl
  parts_build _ := rfl

structure Cpu where
  count : UInt32
  speed : Option String := none
  coresPerSocket : Option UInt32 := none
deriving DecidableEq

def Cpu.record : Record Cpu where
  name := "Cpu"
  types := _
  fields :=
    .cons (.required "count" Codec.uint32) <|
    .cons (.optional "speed" Codec.text) <|
    .cons (.optional "coresPerSocket" Codec.uint32) .nil
  build := fun (a, b, c, ()) => ⟨a, b, c⟩
  parts := fun ⟨a, b, c⟩ => (a, b, c, ())
  build_parts _ := rfl
  parts_build _ := rfl

structure Disk where
  id : Option String := none
  scsiId : Option UInt8 := none
  sizeGb : UInt32
  speed : Option String := none
  state : Option String := none
deriving DecidableEq

def Disk.record : Record Disk where
  name := "Disk"
  types := _
  fields :=
    .cons (.optional "id" Codec.text) <|
    .cons (.optional "scsiId" Codec.uint8) <|
    .cons (.required "sizeGb" Codec.uint32) <|
    .cons (.optional "speed" Codec.text) <|
    .cons (.optional "state" Codec.text) .nil
  build := fun (a, b, c, d, e, ()) => ⟨a, b, c, d, e⟩
  parts := fun ⟨a, b, c, d, e⟩ => (a, b, c, d, e, ())
  build_parts _ := rfl
  parts_build _ := rfl

structure NetworkAdapter where
  id : String
  privateIpv4 : Option String := none
  ipv6 : Option String := none
  vlanId : Option String := none
  vlanName : String := ""
  networkAdapter : Option String := none
  state : String
deriving DecidableEq

def NetworkAdapter.record : Record NetworkAdapter where
  name := "NetworkAdapter"
  types := _
  fields :=
    .cons (.required "id" Codec.text) <|
    .cons (.optional "privateIpv4" Codec.text) <|
    .cons (.optional "ipv6" Codec.text) <|
    .cons (.optional "vlanId" Codec.text) <|
    .cons (.defaulted "vlanName" Codec.text "") <|
    .cons (.optional "networkAdapter" Codec.text) <|
    .cons (.required "state" Codec.text) .nil
  build := fun (a, b, c, d, e, f, g, ()) => ⟨a, b, c, d, e, f, g⟩
  parts := fun ⟨a, b, c, d, e, f, g⟩ => (a, b, c, d, e, f, g, ())
  build_parts _ := rfl
  parts_build _ := rfl

structure ServerNetworkInfo where
  networkDomainId : String
  primaryNic : Option NetworkAdapter := none
  additionalNic : List NetworkAdapter := []
deriving DecidableEq

def ServerNetworkInfo.record : Record ServerNetworkInfo where
  name := "ServerNetworkInfo"
  types := _
  fields :=
    .cons (.required "networkDomainId" Codec.text) <|
    .cons (.optional "primaryNic" NetworkAdapter.record.codec) <|
    .cons (.items "additionalNic" NetworkAdapter.record.codec) .nil
  build := fun (a, b, c, ()) => ⟨a, b, c⟩
  parts := fun ⟨a, b, c⟩ => (a, b, c, ())
  build_parts _ := rfl
  parts_build _ := rfl

structure ServerBackup where
  assetId : Option String := none
  servicePlan : Option String := none
  state : String
deriving DecidableEq

def ServerBackup.record : Record ServerBackup where
  name := "ServerBackup"
  types := _
  fields :=
    .cons (.optional "assetId" Codec.text) <|
    .cons (.optional "servicePlan" Codec.text) <|
    .cons (.required "state" Codec.text) .nil
  build := fun (a, b, c, ()) => ⟨a, b, c⟩
  parts := fun ⟨a, b, c⟩ => (a, b, c, ())
  build_parts _ := rfl
  parts_build _ := rfl

structure Server where
  id : Id .server
  name : String
  description : Option String := none
  datacenterId : Option String := none
  operatingSystem : Option OperatingSystem := none
  cpu : Option Cpu := none
  memoryGb : Option UInt32 := none
  disk : List Disk := []
  networkInfo : Option ServerNetworkInfo := none
  backup : Option ServerBackup := none
  sourceImageId : Option String := none
  createTime : Option Timestamp := none
  deployed : Bool := false
  started : Bool := false
  state : String
deriving DecidableEq

def Server.record : Record Server where
  name := "Server"
  types := _
  fields :=
    .cons (.required "id" Id.codec) <|
    .cons (.required "name" Codec.text) <|
    .cons (.optional "description" Codec.text) <|
    .cons (.optional "datacenterId" Codec.text) <|
    .cons (.optional "operatingSystem" OperatingSystem.record.codec) <|
    .cons (.optional "cpu" Cpu.record.codec) <|
    .cons (.optional "memoryGb" Codec.uint32) <|
    .cons (.items "disk" Disk.record.codec) <|
    .cons (.optional "networkInfo" ServerNetworkInfo.record.codec) <|
    .cons (.optional "backup" ServerBackup.record.codec) <|
    .cons (.optional "sourceImageId" Codec.text) <|
    .cons (.optional "createTime" Codec.timestamp) <|
    .cons (.defaulted "deployed" Codec.bool false) <|
    .cons (.defaulted "started" Codec.bool false) <|
    .cons (.required "state" Codec.text) .nil
  build := fun (a, b, c, d, e, f, g, h, i, j, k, l, m, n, o, ()) =>
    ⟨a, b, c, d, e, f, g, h, i, j, k, l, m, n, o⟩
  parts := fun ⟨a, b, c, d, e, f, g, h, i, j, k, l, m, n, o⟩ =>
    (a, b, c, d, e, f, g, h, i, j, k, l, m, n, o, ())
  build_parts _ := rfl
  parts_build _ := rfl

structure ServerSummary where
  id : String
  name : String := ""
deriving DecidableEq

def ServerSummary.record : Record ServerSummary where
  name := "ServerSummary"
  types := _
  fields :=
    .cons (.required "id" Codec.text) <|
    .cons (.defaulted "name" Codec.text "") .nil
  build := fun (a, b, ()) => ⟨a, b⟩
  parts := fun ⟨a, b⟩ => (a, b, ())
  build_parts _ := rfl
  parts_build _ := rfl

structure ServerAntiAffinityRule where
  id : String
  serverSummary : List ServerSummary := []
  networkDomainId : Option String := none
  createTime : Option Timestamp := none
  state : String
deriving DecidableEq

def ServerAntiAffinityRule.record : Record ServerAntiAffinityRule where
  name := "ServerAntiAffinityRule"
  types := _
  fields :=
    .cons (.required "id" Codec.text) <|
    .cons (.items "serverSummary" ServerSummary.record.codec) <|
    .cons (.optional "networkDomainId" Codec.text) <|
    .cons (.optional "createTime" Codec.timestamp) <|
    .cons (.required "state" Codec.text) .nil
  build := fun (a, b, c, d, e, ()) => ⟨a, b, c, d, e⟩
  parts := fun ⟨a, b, c, d, e⟩ => (a, b, c, d, e, ())
  build_parts _ := rfl
  parts_build _ := rfl

end Provision
