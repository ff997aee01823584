import Provision.Model.Firewall
import Provision.Model.Server

namespace Provision

open Json (Codec Record)

structure DeployNetworkDomain where
  datacenterId : String
  name : String
  description : Option String := none
  serviceLevel : String
deriving DecidableEq

def DeployNetworkDomain.record : Record DeployNetworkDomain where
  name := "DeployNetworkDomain"
  types := _
  fields :=
    .cons (.required "datacenterId" Codec.text) <|
    .cons (.required "name" Codec.text) <|
    .cons (.optional "description" Codec.text) <|
    .cons (.required "type" Codec.text) .nil
  build := fun (a, b, c, d, ()) => ⟨a, b, c, d⟩
  parts := fun ⟨a, b, c, d⟩ => (a, b, c, d, ())
  build_parts _ := rfl
  parts_build _ := rfl

structure EditNetworkDomain where
  id : Id .networkDomain
  name : Option String := none
  description : Option String := none
  serviceLevel : Option String := none
deriving DecidableEq

def EditNetworkDomain.record : Record EditNetworkDomain where
  name := "EditNetworkDomain"
  types := _
  fields :=
    .cons (.required "id" Id.codec) <|
    .cons (.optional "name" Codec.text) <|
    .cons (.optional "description" Codec.text) <|
    .cons (.optional "type" Codec.text) .nil
  build := fun (a, b, c, d, ()) => ⟨a, b, c, d⟩
  parts := fun ⟨a, b, c, d⟩ => (a, b, c, d, ())
  build_parts _ := rfl
  parts_build _ := rfl

structure DeployVlan where
  networkDomainId : Id .networkDomain
  name : String
  description : Option String := none
  privateIpv4BaseAddress : String
  privateIpv4PrefixSize : Option UInt8 := none
deriving DecidableEq

def DeployVlan.record : Record DeployVlan where
  name := "DeployVlan"
  types := _
  fields :=
    .cons (.required "networkDomainId" Id.codec) <|
    .cons (.required "name" Codec.text) <|
    .cons (.optional "description" Codec.text) <|
    .cons (.required "privateIpv4BaseAddress" Codec.text) <|
    .cons (.optional "privateIpv4PrefixSize" Codec.uint8) .nil
  build := fun (a, b, c, d, e, ()) => ⟨a, b, c, d, e⟩
  parts := fun ⟨a, b, c, d, e⟩ => (a, b, c, d, e, ())
  build_parts _ := rfl
  parts_build _ := rfl

structure EditVlan where
  id : Id .vlan
  name : Option String := none
  description : Option String := none
deriving DecidableEq

def EditVlan.record : Record EditVlan where
  name := "EditVlan"
  types := _
  fields :=
    .cons (.required "id" Id.codec) <|
    .cons (.optional "name" Codec.text) <|
    .cons (.optional "description" Codec.text) .nil
  build := fun (a, b, c, ()) => ⟨a, b, c⟩
  parts := fun ⟨a, b, c⟩ => (a, b, c, ())
  build_parts _ := rfl
  parts_build _ := rfl

structure DeployNic where
  vlanId : Option (Id .vlan) := none
  privateIpv4 : Option String := none
deriving DecidableEq

def DeployNic.record : Record DeployNic where
  name := "DeployNic"
  types := _
  fields :=
    .cons (.optional "vlanId" Id.codec) <|
    .cons (.optional "privateIpv4" Codec.text) .nil
  build := fun (a, b, ()) => ⟨a, b⟩
  parts := fun ⟨a, b⟩ => (a, b, ())
  build_parts _ := rfl
  parts_build _ := rfl

structure DeployNetworkInfo where
  networkDomainId : Id .networkDomain
  primaryNic : DeployNic
  additionalNic : List DeployNic := []
deriving DecidableEq

def DeployNetworkInfo.record : Record DeployNetworkInfo where
  name := "DeployNetworkInfo"
  types := _
  fields :=
    .cons (.required "networkDomainId" Id.codec) <|
    .cons (.required "primaryNic" DeployNic.record.codec) <|
    .cons (.someItems "additionalNic" DeployNic.record.codec) .nil
  build := fun (a, b, c, ()) => ⟨a, b, c⟩
  parts := fun ⟨a, b, c⟩ => (a, b, c, ())
  build_parts _ := rfl
  parts_build _ := rfl

structure DeployServer where
  name : String
  description : Option String := none
  imageId : Id .image
  start : Bool
  administratorPassword : Option String := none
  networkInfo : DeployNetworkInfo
  cpu : Option Cpu := none
  memoryGb : Option UInt32 := none
  primaryDns : Option String := none
  secondaryDns : Option String := none
deriving DecidableEq

def DeployServer.record : Record DeployServer where
  name := "DeployServer"
  types := _
  fields :=
    .cons (.required "name" Codec.text) <|
    .cons (.optional "description" Codec.text) <|
    .cons (.required "imageId" Id.codec) <|
    .cons (.required "start" Codec.bool) <|
    .cons (.optional "administratorPassword" Codec.text) <|
    .cons (.required "networkInfo" DeployNetworkInfo.record.codec) <|
    .cons (.optional "cpu" Cpu.record.codec) <|
    .cons (.optional "memoryGb" Codec.uint32) <|
    .cons (.optional "primaryDns" Codec.text) <|
    .cons (.optional "secondaryDns" Codec.text) .nil
  build := fun (a, b, c, d, e, f, g, h, i, j, ()) => ⟨a, b, c, d, e, f, g, h, i, j⟩
  parts := fun ⟨a, b, c, d, e, f, g, h, i, j⟩ => (a, b, c, d, e, f, g, h, i, j, ())
  build_parts _ := rfl
  parts_build _ := rfl

structure CloneServer where
  id : Id .server
  imageName : String
  description : Option String := none
  guestOsCustomization : Option Bool := none
deriving DecidableEq

def CloneServer.record : Record CloneServer where
  name := "CloneServer"
  types := _
  fields :=
    .cons (.required "id" Id.codec) <|
    .cons (.required "imageName" Codec.text) <|
    .cons (.optional "description" Codec.text) <|
    .cons (.optional "guestOsCustomization" Codec.bool) .nil
  build := fun (a, b, c, d, ()) => ⟨a, b, c, d⟩
  parts := fun ⟨a, b, c, d⟩ => (a, b, c, d, ())
  build_parts _ := rfl
  parts_build _ := rfl

structure EnableServerBackup where
  serverId : Id .server
  servicePlan : String
deriving DecidableEq

def EnableServerBackup.record : Record EnableServerBackup where
  name := "EnableServerBackup"
  types := _
  fields :=
    .cons (.required "serverId" Id.codec) <|
    .cons (.required "servicePlan" Codec.text) .nil
  build := fun (a, b, ()) => ⟨a, b⟩
  parts := fun ⟨a, b⟩ => (a, b, ())
  build_parts _ := rfl
  parts_build _ := rfl

structure DisableServerBackup where
  serverId : Id .server
deriving DecidableEq

def DisableServerBackup.record : Record DisableServerBackup where
  name := "DisableServerBackup"
  types := _
  fields :=
    .cons (.required "serverId" Id.codec) .nil
  build := fun (a, ()) => ⟨a⟩
  parts := fun ⟨a⟩ => (a, ())
  build_parts _ := rfl
  parts_build _ := rfl

structure Placement where
  position : String
  relativeToRule : Option String := none
deriving DecidableEq

def Placement.record : Record Placement where
  name := "Placement"
  types := _
  fields :=
    .cons (.required "position" Codec.text) <|
    .cons (.optional "relativeToRule" Codec.text) .nil
  build := fun (a, b, ()) => ⟨a, b⟩
  parts := fun ⟨a, b⟩ => (a, b, ())
  build_parts _ := rfl
  parts_build _ := rfl

def Placement.last : Placement := { position := "LAST" }

structure CreateFirewallRule where
  networkDomainId : Id .networkDomain
  name : String
  action : String
  ipVersion : String
  protocol : String
  source : FirewallEndpoint
  destination : FirewallEndpoint
  enabled : Bool
  placement : Placement
deriving DecidableEq

def CreateFirewallRule.record : Record CreateFirewallRule where
  name := "CreateFirewallRule"
  types := _
  fields :=
    .cons (.required "networkDomainId" Id.codec) <|
    .cons (.required "name" Codec.text) <|
    .cons (.required "action" Codec.text) <|
    .cons (.required "ipVersion" Codec.text) <|
    .cons (.required "protocol" Codec.text) <|
    .cons (.required "source" FirewallEndpoint.record.codec) <|
    .cons (.required "destination" FirewallEndpoint.record.codec) <|
    .cons (.required "enabled" Codec.bool) <|
    .cons (.required "placement" Placement.record.codec) .nil
  build := fun (a, b, c, d, e, f, g, h, i, ()) => ⟨a, b, c, d, e, f, g, h, i⟩
  parts := fun ⟨a, b, c, d, e, f, g, h, i⟩ => (a, b, c, d, e, f, g, h, i, ())
  build_parts _ := rfl
  parts_build _ := rfl

structure AddPublicIpBlock where
  networkDomainId : Id .networkDomain
deriving DecidableEq

def AddPublicIpBlock.record : Record AddPublicIpBlock where
  name := "AddPublicIpBlock"
  types := _
  fields :=
    .cons (.required "networkDomainId" Id.codec) .nil
  build := fun (a, ()) => ⟨a⟩
  parts := fun ⟨a⟩ => (a, ())
  build_parts _ := rfl
  parts_build _ := rfl

def debugOption {α : Type} (debug : α → String) : Option α → String
  | none => "None"
  | some value => "Some(" ++ debug value ++ ")"

def DeployNic.debug (nic : DeployNic) : String :=
  let vlan := debugOption Id.debug nic.vlanId
  let address := debugOption Text.quoted nic.privateIpv4
  s!"DeployNic \x7b vlan_id: {vlan}, private_ipv4: {address} \x7d"

def DeployNetworkInfo.debug (info : DeployNetworkInfo) : String :=
  let domain := info.networkDomainId.debug
  let primary := info.primaryNic.debug
  let additional := ", ".intercalate (info.additionalNic.map DeployNic.debug)
  s!"DeployNetworkInfo \x7b network_domain_id: {domain}, primary_nic: {primary}, " ++
    s!"additional_nic: [{additional}] \x7d"

/-- The text that shows a server to be made without giving its password away. -/
def DeployServer.debug (server : DeployServer) : String :=
  let name := Text.quoted server.name
  let image := server.imageId.debug
  let password := debugOption (fun _ => "\"[REDACTED]\"") server.administratorPassword
  let networks := server.networkInfo.debug
  s!"DeployServer \x7b name: {name}, image_id: {image}, start: {server.start}, " ++
    s!"administrator_password: {password}, network_info: {networks}, .. \x7d"

end Provision
