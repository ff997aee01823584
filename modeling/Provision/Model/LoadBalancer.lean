import Provision.Model.Reference

namespace Provision

open Json (Codec Record)

structure VipNode where
  id : String
  networkDomainId : Option String := none
  name : String
  description : Option String := none
  ipv4Address : Option String := none
  ipv6Address : Option String := none
  status : Option String := none
  connectionLimit : Option UInt32 := none
  connectionRateLimit : Option UInt32 := none
  createTime : Option Timestamp := none
  datacenterId : Option String := none
  state : String
deriving DecidableEq

def VipNode.record : Record VipNode where
  name := "VipNode"
  types := _
  fields :=
    .cons (.required "id" Codec.text) <|
    .cons (.optional "networkDomainId" Codec.text) <|
    .cons (.required "name" Codec.text) <|
    .cons (.optional "description" Codec.text) <|
    .cons (.optional "ipv4Address" Codec.text) <|
    .cons (.optional "ipv6Address" Codec.text) <|
    .cons (.optional "status" Codec.text) <|
    .cons (.optional "connectionLimit" Codec.uint32) <|
    .cons (.optional "connectionRateLimit" Codec.uint32) <|
    .cons (.optional "createTime" Codec.timestamp) <|
    .cons (.optional "datacenterId" Codec.text) <|
    .cons (.required "state" Codec.text) .nil
  build := fun (a, b, c, d, e, f, g, h, i, j, k, l, ()) => ⟨a, b, c, d, e, f, g, h, i, j, k, l⟩
  parts := fun ⟨a, b, c, d, e, f, g, h, i, j, k, l⟩ => (a, b, c, d, e, f, g, h, i, j, k, l, ())
  build_parts _ := rfl
  parts_build _ := rfl

structure VipPool where
  id : String
  networkDomainId : Option String := none
  name : String
  description : Option String := none
  loadBalanceMethod : Option String := none
  serviceDownAction : Option String := none
  slowRampTime : Option UInt32 := none
  healthMonitor : List EntityReference := []
  createTime : Option Timestamp := none
  datacenterId : Option String := none
  state : String
deriving DecidableEq

def VipPool.record : Record VipPool where
  name := "VipPool"
  types := _
  fields :=
    .cons (.required "id" Codec.text) <|
    .cons (.optional "networkDomainId" Codec.text) <|
    .cons (.required "name" Codec.text) <|
    .cons (.optional "description" Codec.text) <|
    .cons (.optional "loadBalanceMethod" Codec.text) <|
    .cons (.optional "serviceDownAction" Codec.text) <|
    .cons (.optional "slowRampTime" Codec.uint32) <|
    .cons (.items "healthMonitor" EntityReference.record.codec) <|
    .cons (.optional "createTime" Codec.timestamp) <|
    .cons (.optional "datacenterId" Codec.text) <|
    .cons (.required "state" Codec.text) .nil
  build := fun (a, b, c, d, e, f, g, h, i, j, k, ()) => ⟨a, b, c, d, e, f, g, h, i, j, k⟩
  parts := fun ⟨a, b, c, d, e, f, g, h, i, j, k⟩ => (a, b, c, d, e, f, g, h, i, j, k, ())
  build_parts _ := rfl
  parts_build _ := rfl

structure VirtualListener where
  id : String
  networkDomainId : Option String := none
  name : String
  description : Option String := none
  enabled : Bool := false
  listenerIpAddress : Option String := none
  port : Option UInt16 := none
  protocol : Option String := none
  listenerType : Option String := none
  pool : Option EntityReference := none
  createTime : Option Timestamp := none
  datacenterId : Option String := none
  state : String
deriving DecidableEq

def VirtualListener.record : Record VirtualListener where
  name := "VirtualListener"
  types := _
  fields :=
    .cons (.required "id" Codec.text) <|
    .cons (.optional "networkDomainId" Codec.text) <|
    .cons (.required "name" Codec.text) <|
    .cons (.optional "description" Codec.text) <|
    .cons (.defaulted "enabled" Codec.bool false) <|
    .cons (.optional "listenerIpAddress" Codec.text) <|
    .cons (.optional "port" Codec.uint16) <|
    .cons (.optional "protocol" Codec.text) <|
    .cons (.optional "type" Codec.text) <|
    .cons (.optional "pool" EntityReference.record.codec) <|
    .cons (.optional "createTime" Codec.timestamp) <|
    .cons (.optional "datacenterId" Codec.text) <|
    .cons (.required "state" Codec.text) .nil
  build := fun (a, b, c, d, e, f, g, h, i, j, k, l, m, ()) =>
    ⟨a, b, c, d, e, f, g, h, i, j, k, l, m⟩
  parts := fun ⟨a, b, c, d, e, f, g, h, i, j, k, l, m⟩ =>
    (a, b, c, d, e, f, g, h, i, j, k, l, m, ())
  build_parts _ := rfl
  parts_build _ := rfl

structure SslDomainCertificate where
  id : String
  networkDomainId : Option String := none
  name : String
  description : Option String := none
  expiryTime : Option Timestamp := none
  createTime : Option Timestamp := none
  datacenterId : Option String := none
  state : String
deriving DecidableEq

def SslDomainCertificate.record : Record SslDomainCertificate where
  name := "SslDomainCertificate"
  types := _
  fields :=
    .cons (.required "id" Codec.text) <|
    .cons (.optional "networkDomainId" Codec.text) <|
    .cons (.required "name" Codec.text) <|
    .cons (.optional "description" Codec.text) <|
    .cons (.optional "expiryTime" Codec.timestamp) <|
    .cons (.optional "createTime" Codec.timestamp) <|
    .cons (.optional "datacenterId" Codec.text) <|
    .cons (.required "state" Codec.text) .nil
  build := fun (a, b, c, d, e, f, g, h, ()) => ⟨a, b, c, d, e, f, g, h⟩
  parts := fun ⟨a, b, c, d, e, f, g, h⟩ => (a, b, c, d, e, f, g, h, ())
  build_parts _ := rfl
  parts_build _ := rfl

/-- The certificates between that of a domain and a trusted one. -/
structure SslCertificateChain where
  id : String
  networkDomainId : Option String := none
  name : String
  description : Option String := none
  expiryTime : Option Timestamp := none
  createTime : Option Timestamp := none
  datacenterId : Option String := none
  state : String
deriving DecidableEq

def SslCertificateChain.record : Record SslCertificateChain where
  name := "SslCertificateChain"
  types := _
  fields :=
    .cons (.required "id" Codec.text) <|
    .cons (.optional "networkDomainId" Codec.text) <|
    .cons (.required "name" Codec.text) <|
    .cons (.optional "description" Codec.text) <|
    .cons (.optional "expiryTime" Codec.timestamp) <|
    .cons (.optional "createTime" Codec.timestamp) <|
    .cons (.optional "datacenterId" Codec.text) <|
    .cons (.required "state" Codec.text) .nil
  build := fun (a, b, c, d, e, f, g, h, ()) => ⟨a, b, c, d, e, f, g, h⟩
  parts := fun ⟨a, b, c, d, e, f, g, h⟩ => (a, b, c, d, e, f, g, h, ())
  build_parts _ := rfl
  parts_build _ := rfl

structure SslOffloadProfile where
  id : String
  networkDomainId : Option String := none
  name : String
  description : Option String := none
  sslDomainCertificate : Option EntityReference := none
  sslCertificateChain : Option EntityReference := none
  ciphers : Option String := none
  createTime : Option Timestamp := none
  datacenterId : Option String := none
  state : String
deriving DecidableEq

def SslOffloadProfile.record : Record SslOffloadProfile where
  name := "SslOffloadProfile"
  types := _
  fields :=
    .cons (.required "id" Codec.text) <|
    .cons (.optional "networkDomainId" Codec.text) <|
    .cons (.required "name" Codec.text) <|
    .cons (.optional "description" Codec.text) <|
    .cons (.optional "sslDomainCertificate" EntityReference.record.codec) <|
    .cons (.optional "sslCertificateChain" EntityReference.record.codec) <|
    .cons (.optional "ciphers" Codec.text) <|
    .cons (.optional "createTime" Codec.timestamp) <|
    .cons (.optional "datacenterId" Codec.text) <|
    .cons (.required "state" Codec.text) .nil
  build := fun (a, b, c, d, e, f, g, h, i, j, ()) => ⟨a, b, c, d, e, f, g, h, i, j⟩
  parts := fun ⟨a, b, c, d, e, f, g, h, i, j⟩ => (a, b, c, d, e, f, g, h, i, j, ())
  build_parts _ := rfl
  parts_build _ := rfl

end Provision
