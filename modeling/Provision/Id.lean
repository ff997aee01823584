import Provision.Error
import Provision.Json.Codec

namespace Provision

inductive IdKind where
  | networkDomain
  | vlan
  | server
  | image
  | firewallRule
  | publicIpBlock
deriving DecidableEq, Repr

def IdKind.name : IdKind → String
  | .networkDomain => "NetworkDomainId"
  | .vlan => "VlanId"
  | .server => "ServerId"
  | .image => "ImageId"
  | .firewallRule => "FirewallRuleId"
  | .publicIpBlock => "PublicIpBlockId"

structure Id (kind : IdKind) where
  uuid : Uuid
deriving DecidableEq

namespace Id

variable {kind : IdKind}

def parse (text : String) : Except Error (Id kind) :=
  match Uuid.ofString? text with
  | some uuid => .ok ⟨uuid⟩
  | none => .error (.invalidUuid text)

def toString (id : Id kind) : String := id.uuid.toString

instance : ToString (Id kind) := ⟨toString⟩

def debug (id : Id kind) : String := s!"{kind.name}({id.uuid})"

def codec : Json.Codec (Id kind) := Json.Codec.uuid.imap Id.mk Id.uuid

end Id

end Provision
