import Provision.Id
import Provision.Json.Record

namespace Provision

open Json (Codec Record)

/-- The addresses that a rule is about: one, a range, or `ANY`. -/
structure FirewallAddress where
  address : String
  prefixSize : Option UInt8 := none
deriving DecidableEq

def FirewallAddress.record : Record FirewallAddress where
  name := "FirewallAddress"
  types := _
  fields :=
    .cons (.required "address" Codec.text) <|
    .cons (.optional "prefixSize" Codec.uint8) .nil
  build := fun (a, b, ()) => ⟨a, b⟩
  parts := fun ⟨a, b⟩ => (a, b, ())
  build_parts _ := rfl
  parts_build _ := rfl

/-- The ports that a rule is about: one, or all up to another. -/
structure FirewallPort where
  begin : UInt16
  upTo : Option UInt16 := none
deriving DecidableEq

def FirewallPort.record : Record FirewallPort where
  name := "FirewallPort"
  types := _
  fields :=
    .cons (.required "begin" Codec.uint16) <|
    .cons (.optional "end" Codec.uint16) .nil
  build := fun (a, b, ()) => ⟨a, b⟩
  parts := fun ⟨a, b⟩ => (a, b, ())
  build_parts _ := rfl
  parts_build _ := rfl

structure FirewallEndpoint where
  ip : Option FirewallAddress := none
  port : Option FirewallPort := none
deriving DecidableEq

def FirewallEndpoint.record : Record FirewallEndpoint where
  name := "FirewallEndpoint"
  types := _
  fields :=
    .cons (.optional "ip" FirewallAddress.record.codec) <|
    .cons (.optional "port" FirewallPort.record.codec) .nil
  build := fun (a, b, ()) => ⟨a, b⟩
  parts := fun ⟨a, b⟩ => (a, b, ())
  build_parts _ := rfl
  parts_build _ := rfl

def FirewallEndpoint.any : FirewallEndpoint := { ip := some { address := "ANY" } }

structure FirewallRule where
  id : Id .firewallRule
  networkDomainId : Option String := none
  name : String
  action : String
  ipVersion : String
  protocol : String
  source : FirewallEndpoint := {}
  destination : FirewallEndpoint := {}
  enabled : Bool := false
  ruleType : Option String := none
  datacenterId : Option String := none
  state : String
deriving DecidableEq

def FirewallRule.record : Record FirewallRule where
  name := "FirewallRule"
  types := _
  fields :=
    .cons (.required "id" Id.codec) <|
    .cons (.optional "networkDomainId" Codec.text) <|
    .cons (.required "name" Codec.text) <|
    .cons (.required "action" Codec.text) <|
    .cons (.required "ipVersion" Codec.text) <|
    .cons (.required "protocol" Codec.text) <|
    .cons (.defaulted "source" FirewallEndpoint.record.codec {}) <|
    .cons (.defaulted "destination" FirewallEndpoint.record.codec {}) <|
    .cons (.defaulted "enabled" Codec.bool false) <|
    .cons (.optional "ruleType" Codec.text) <|
    .cons (.optional "datacenterId" Codec.text) <|
    .cons (.required "state" Codec.text) .nil
  build := fun (a, b, c, d, e, f, g, h, i, j, k, l, ()) => ⟨a, b, c, d, e, f, g, h, i, j, k, l⟩
  parts := fun ⟨a, b, c, d, e, f, g, h, i, j, k, l⟩ => (a, b, c, d, e, f, g, h, i, j, k, l, ())
  build_parts _ := rfl
  parts_build _ := rfl

end Provision
