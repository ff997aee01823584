import Provision.Model.Firewall
import Provision.Model.Image
import Provision.Model.LoadBalancer
import Provision.Model.Network
import Provision.Model.Server
import Provision.Resource.Basic

namespace Provision

open Json (Codec Record)

instance : Resource NetworkDomain where
  snapshot v :=
    { id := v.id.toString, name := v.name, state := v.state, kind := .networkDomain }

instance : Resource Vlan where
  snapshot v :=
    { id := v.id.toString, name := v.name, state := v.state, kind := .vlan }

instance : Resource Server where
  snapshot v :=
    { id := v.id.toString, name := v.name, state := v.state, kind := .server,
      backupState := v.backup.map (·.state) }

instance : Resource ServerAntiAffinityRule where
  snapshot v :=
    { id := v.id, name := v.id, state := v.state, kind := .serverAntiAffinityRule }

instance : Resource NetworkAdapter where
  snapshot v :=
    { id := v.id, name := v.vlanName, state := v.state, kind := .networkAdapter }

instance : Resource PublicIpBlock where
  snapshot v :=
    { id := v.id.toString, name := v.baseIp, state := v.state, kind := .publicIpBlock }

instance : Resource FirewallRule where
  snapshot v :=
    { id := v.id.toString, name := v.name, state := v.state, kind := .firewallRule }

instance : Resource VipNode where
  snapshot v :=
    { id := v.id, name := v.name, state := v.state, kind := .vipNode }

instance : Resource VipPool where
  snapshot v :=
    { id := v.id, name := v.name, state := v.state, kind := .vipPool }

instance : Resource VirtualListener where
  snapshot v :=
    { id := v.id, name := v.name, state := v.state, kind := .virtualListener }

instance : Resource OsImage where
  snapshot v :=
    { id := v.id.toString, name := v.name, state := v.state, kind := .osImage }

instance : Resource CustomerImage where
  snapshot v :=
    { id := v.id.toString, name := v.name, state := v.state, kind := .customerImage }

instance : Resource SslDomainCertificate where
  snapshot v :=
    { id := v.id, name := v.name, state := v.state, kind := .sslDomainCertificate }

instance : Resource SslCertificateChain where
  snapshot v :=
    { id := v.id, name := v.name, state := v.state, kind := .sslCertificateChain }

instance : Resource SslOffloadProfile where
  snapshot v :=
    { id := v.id, name := v.name, state := v.state, kind := .sslOffloadProfile }

instance : Resource StaticRoute where
  snapshot v :=
    { id := v.id, name := v.name, state := v.state, kind := .staticRoute }

inductive Model where
  | networkDomain (value : NetworkDomain)
  | vlan (value : Vlan)
  | server (value : Server)
  | serverAntiAffinityRule (value : ServerAntiAffinityRule)
  | networkAdapter (value : NetworkAdapter)
  | publicIpBlock (value : PublicIpBlock)
  | firewallRule (value : FirewallRule)
  | vipNode (value : VipNode)
  | vipPool (value : VipPool)
  | virtualListener (value : VirtualListener)
  | osImage (value : OsImage)
  | customerImage (value : CustomerImage)
  | sslDomainCertificate (value : SslDomainCertificate)
  | sslCertificateChain (value : SslCertificateChain)
  | sslOffloadProfile (value : SslOffloadProfile)
  | staticRoute (value : StaticRoute)
deriving DecidableEq

namespace Model

instance : Resource Model where
  snapshot
    | .networkDomain value => snapshot value
    | .vlan value => snapshot value
    | .server value => snapshot value
    | .serverAntiAffinityRule value => snapshot value
    | .networkAdapter value => snapshot value
    | .publicIpBlock value => snapshot value
    | .firewallRule value => snapshot value
    | .vipNode value => snapshot value
    | .vipPool value => snapshot value
    | .virtualListener value => snapshot value
    | .osImage value => snapshot value
    | .customerImage value => snapshot value
    | .sslDomainCertificate value => snapshot value
    | .sslCertificateChain value => snapshot value
    | .sslOffloadProfile value => snapshot value
    | .staticRoute value => snapshot value

def kind : Model → Kind
  | networkDomain _ => .networkDomain
  | vlan _ => .vlan
  | server _ => .server
  | serverAntiAffinityRule _ => .serverAntiAffinityRule
  | networkAdapter _ => .networkAdapter
  | publicIpBlock _ => .publicIpBlock
  | firewallRule _ => .firewallRule
  | vipNode _ => .vipNode
  | vipPool _ => .vipPool
  | virtualListener _ => .virtualListener
  | osImage _ => .osImage
  | customerImage _ => .customerImage
  | sslDomainCertificate _ => .sslDomainCertificate
  | sslCertificateChain _ => .sslCertificateChain
  | sslOffloadProfile _ => .sslOffloadProfile
  | staticRoute _ => .staticRoute

abbrev Of : Kind → Type
  | .networkDomain => NetworkDomain
  | .vlan => Vlan
  | .server => Server
  | .serverAntiAffinityRule => ServerAntiAffinityRule
  | .networkAdapter => NetworkAdapter
  | .publicIpBlock => PublicIpBlock
  | .firewallRule => FirewallRule
  | .vipNode => VipNode
  | .vipPool => VipPool
  | .virtualListener => VirtualListener
  | .osImage => OsImage
  | .customerImage => CustomerImage
  | .sslDomainCertificate => SslDomainCertificate
  | .sslCertificateChain => SslCertificateChain
  | .sslOffloadProfile => SslOffloadProfile
  | .staticRoute => StaticRoute

def record : (kind : Kind) → Record (Of kind)
  | .networkDomain => NetworkDomain.record
  | .vlan => Vlan.record
  | .server => Server.record
  | .serverAntiAffinityRule => ServerAntiAffinityRule.record
  | .networkAdapter => NetworkAdapter.record
  | .publicIpBlock => PublicIpBlock.record
  | .firewallRule => FirewallRule.record
  | .vipNode => VipNode.record
  | .vipPool => VipPool.record
  | .virtualListener => VirtualListener.record
  | .osImage => OsImage.record
  | .customerImage => CustomerImage.record
  | .sslDomainCertificate => SslDomainCertificate.record
  | .sslCertificateChain => SslCertificateChain.record
  | .sslOffloadProfile => SslOffloadProfile.record
  | .staticRoute => StaticRoute.record

def wrap : (kind : Kind) → Of kind → Model
  | .networkDomain => networkDomain
  | .vlan => vlan
  | .server => server
  | .serverAntiAffinityRule => serverAntiAffinityRule
  | .networkAdapter => networkAdapter
  | .publicIpBlock => publicIpBlock
  | .firewallRule => firewallRule
  | .vipNode => vipNode
  | .vipPool => vipPool
  | .virtualListener => virtualListener
  | .osImage => osImage
  | .customerImage => customerImage
  | .sslDomainCertificate => sslDomainCertificate
  | .sslCertificateChain => sslCertificateChain
  | .sslOffloadProfile => sslOffloadProfile
  | .staticRoute => staticRoute

def decode (kind : Kind) (bytes : List UInt8) : Except Json.Refusal Model :=
  ((record kind).codec.decode bytes).map (wrap kind)

def toJson : Model → Json
  | networkDomain value => NetworkDomain.record.codec.write value
  | vlan value => Vlan.record.codec.write value
  | server value => Server.record.codec.write value
  | serverAntiAffinityRule value => ServerAntiAffinityRule.record.codec.write value
  | networkAdapter value => NetworkAdapter.record.codec.write value
  | publicIpBlock value => PublicIpBlock.record.codec.write value
  | firewallRule value => FirewallRule.record.codec.write value
  | vipNode value => VipNode.record.codec.write value
  | vipPool value => VipPool.record.codec.write value
  | virtualListener value => VirtualListener.record.codec.write value
  | osImage value => OsImage.record.codec.write value
  | customerImage value => CustomerImage.record.codec.write value
  | sslDomainCertificate value => SslDomainCertificate.record.codec.write value
  | sslCertificateChain value => SslCertificateChain.record.codec.write value
  | sslOffloadProfile value => SslOffloadProfile.record.codec.write value
  | staticRoute value => StaticRoute.record.codec.write value

theorem kind_wrap (kind : Kind) (value : Of kind) : (wrap kind value).kind = kind := by
  cases kind <;> rfl

theorem snapshot_kind (model : Model) : (snapshot model).kind = model.kind := by
  cases model <;> rfl

end Model

end Provision
