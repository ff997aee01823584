import Provision.Model.Reference

namespace Provision

open Json (Codec Record)

/-- A network domain, which holds networks, firewall rules and public addresses. -/
structure NetworkDomain where
  id : Id .networkDomain
  name : String
  description : Option String := none
  serviceLevel : Option String := none
  /-- The address that traffic to the outside comes from. -/
  snatIpv4Address : Option String := none
  outsideTransitVlanIpv4Subnet : Option IpRange := none
  createTime : Option Timestamp := none
  datacenterId : Option String := none
  state : String
deriving DecidableEq

def NetworkDomain.record : Record NetworkDomain where
  name := "NetworkDomain"
  types := _
  fields :=
    .cons (.required "id" Id.codec) <|
    .cons (.required "name" Codec.text) <|
    .cons (.optional "description" Codec.text) <|
    .cons (.optional "type" Codec.text) <|
    .cons (.optional "snatIpv4Address" Codec.text) <|
    .cons (.optional "outsideTransitVlanIpv4Subnet" IpRange.record.codec) <|
    .cons (.optional "createTime" Codec.timestamp) <|
    .cons (.optional "datacenterId" Codec.text) <|
    .cons (.required "state" Codec.text) .nil
  build := fun (a, b, c, d, e, f, g, h, i, ()) => ⟨a, b, c, d, e, f, g, h, i⟩
  parts := fun ⟨a, b, c, d, e, f, g, h, i⟩ => (a, b, c, d, e, f, g, h, i, ())
  build_parts _ := rfl
  parts_build _ := rfl

structure Vlan where
  id : Id .vlan
  name : String
  description : Option String := none
  networkDomain : Option EntityReference := none
  privateIpv4Range : Option IpRange := none
  ipv6Range : Option IpRange := none
  ipv4GatewayAddress : Option String := none
  ipv6GatewayAddress : Option String := none
  createTime : Option Timestamp := none
  datacenterId : Option String := none
  state : String
deriving DecidableEq

def Vlan.record : Record Vlan where
  name := "Vlan"
  types := _
  fields :=
    .cons (.required "id" Id.codec) <|
    .cons (.required "name" Codec.text) <|
    .cons (.optional "description" Codec.text) <|
    .cons (.optional "networkDomain" EntityReference.record.codec) <|
    .cons (.optional "privateIpv4Range" IpRange.record.codec) <|
    .cons (.optional "ipv6Range" IpRange.record.codec) <|
    .cons (.optional "ipv4GatewayAddress" Codec.text) <|
    .cons (.optional "ipv6GatewayAddress" Codec.text) <|
    .cons (.optional "createTime" Codec.timestamp) <|
    .cons (.optional "datacenterId" Codec.text) <|
    .cons (.required "state" Codec.text) .nil
  build := fun (a, b, c, d, e, f, g, h, i, j, k, ()) => ⟨a, b, c, d, e, f, g, h, i, j, k⟩
  parts := fun ⟨a, b, c, d, e, f, g, h, i, j, k⟩ => (a, b, c, d, e, f, g, h, i, j, k, ())
  build_parts _ := rfl
  parts_build _ := rfl

/-- A block of public addresses that belongs to a network domain. -/
structure PublicIpBlock where
  id : Id .publicIpBlock
  networkDomainId : Option String := none
  baseIp : String
  size : UInt32 := 0
  createTime : Option Timestamp := none
  datacenterId : Option String := none
  state : String
deriving DecidableEq

def PublicIpBlock.record : Record PublicIpBlock where
  name := "PublicIpBlock"
  types := _
  fields :=
    .cons (.required "id" Id.codec) <|
    .cons (.optional "networkDomainId" Codec.text) <|
    .cons (.required "baseIp" Codec.text) <|
    .cons (.defaulted "size" Codec.uint32 0) <|
    .cons (.optional "createTime" Codec.timestamp) <|
    .cons (.optional "datacenterId" Codec.text) <|
    .cons (.required "state" Codec.text) .nil
  build := fun (a, b, c, d, e, f, g, ()) => ⟨a, b, c, d, e, f, g⟩
  parts := fun ⟨a, b, c, d, e, f, g⟩ => (a, b, c, d, e, f, g, ())
  build_parts _ := rfl
  parts_build _ := rfl

structure StaticRoute where
  id : String
  networkDomainId : Option String := none
  name : String
  description : Option String := none
  ipVersion : Option String := none
  destinationNetworkAddress : Option String := none
  destinationPrefixSize : Option UInt8 := none
  nextHopAddress : Option String := none
  routeType : Option String := none
  createTime : Option Timestamp := none
  datacenterId : Option String := none
  state : String
deriving DecidableEq

def StaticRoute.record : Record StaticRoute where
  name := "StaticRoute"
  types := _
  fields :=
    .cons (.required "id" Codec.text) <|
    .cons (.optional "networkDomainId" Codec.text) <|
    .cons (.required "name" Codec.text) <|
    .cons (.optional "description" Codec.text) <|
    .cons (.optional "ipVersion" Codec.text) <|
    .cons (.optional "destinationNetworkAddress" Codec.text) <|
    .cons (.optional "destinationPrefixSize" Codec.uint8) <|
    .cons (.optional "nextHopAddress" Codec.text) <|
    .cons (.optional "type" Codec.text) <|
    .cons (.optional "createTime" Codec.timestamp) <|
    .cons (.optional "datacenterId" Codec.text) <|
    .cons (.required "state" Codec.text) .nil
  build := fun (a, b, c, d, e, f, g, h, i, j, k, l, ()) => ⟨a, b, c, d, e, f, g, h, i, j, k, l⟩
  parts := fun ⟨a, b, c, d, e, f, g, h, i, j, k, l⟩ => (a, b, c, d, e, f, g, h, i, j, k, l, ())
  build_parts _ := rfl
  parts_build _ := rfl

end Provision
