import Provision.Error
import Provision.Text.Case

namespace Provision

inductive Kind where
  | networkDomain
  | vlan
  | server
  | serverAntiAffinityRule
  | networkAdapter
  | publicIpBlock
  | firewallRule
  | vipNode
  | vipPool
  | virtualListener
  | osImage
  | customerImage
  | sslDomainCertificate
  | sslCertificateChain
  | sslOffloadProfile
  | staticRoute
deriving DecidableEq, Repr

namespace Kind

def all : List Kind :=
  [networkDomain, vlan, server, serverAntiAffinityRule, networkAdapter, publicIpBlock, firewallRule,
    vipNode, vipPool, virtualListener, osImage, customerImage, sslDomainCertificate,
    sslCertificateChain, sslOffloadProfile, staticRoute]

theorem mem_all (kind : Kind) : kind ∈ all := by cases kind <;> decide

def name : Kind → String
  | networkDomain => "network domain"
  | vlan => "VLAN"
  | server => "server"
  | serverAntiAffinityRule => "server anti-affinity rule"
  | networkAdapter => "network adapter"
  | publicIpBlock => "public IPv4 address block"
  | firewallRule => "firewall rule"
  | vipNode => "VIP node"
  | vipPool => "VIP pool"
  | virtualListener => "virtual listener"
  | osImage => "OS image"
  | customerImage => "customer image"
  | sslDomainCertificate => "SSL domain certificate"
  | sslCertificateChain => "SSL certificate chain"
  | sslOffloadProfile => "SSL offload profile"
  | staticRoute => "static route"

def typeName : Kind → String
  | networkDomain => "NetworkDomain"
  | vlan => "Vlan"
  | server => "Server"
  | serverAntiAffinityRule => "ServerAntiAffinityRule"
  | networkAdapter => "NetworkAdapter"
  | publicIpBlock => "PublicIpBlock"
  | firewallRule => "FirewallRule"
  | vipNode => "VipNode"
  | vipPool => "VipPool"
  | virtualListener => "VirtualListener"
  | osImage => "OsImage"
  | customerImage => "CustomerImage"
  | sslDomainCertificate => "SslDomainCertificate"
  | sslCertificateChain => "SslCertificateChain"
  | sslOffloadProfile => "SslOffloadProfile"
  | staticRoute => "StaticRoute"

/-- The path below an organization where a resource is fetched. -/
def path : Kind → String
  | networkDomain => "network/networkDomain"
  | vlan => "network/vlan"
  | server => "server/server"
  | serverAntiAffinityRule => "server/antiAffinityRule"
  | networkAdapter => "server/nic"
  | publicIpBlock => "network/publicIpBlock"
  | firewallRule => "network/firewallRule"
  | vipNode => "networkDomainVip/node"
  | vipPool => "networkDomainVip/pool"
  | virtualListener => "networkDomainVip/virtualListener"
  | osImage => "image/osImage"
  | customerImage => "image/customerImage"
  | sslDomainCertificate => "networkDomainVip/sslDomainCertificate"
  | sslCertificateChain => "networkDomainVip/sslCertificateChain"
  | sslOffloadProfile => "networkDomainVip/sslOffloadProfile"
  | staticRoute => "network/staticRoute"

/-- Whether a character may stand anywhere in the name of a kind, or be left out. -/
def isSeparator (c : Char) : Bool := c == ' ' || c == '_' || c == '-'

def normalize (spelling : String) : List Char :=
  Text.lower (spelling.toList.filter (!isSeparator ·))

/-- The normal spellings of a kind. The name keeps its hyphens, so one with a hyphen is only read by
the name of its records. -/
def spellings (kind : Kind) : List (List Char) :=
  [Text.lower (kind.name.toList.filter (· != ' ')), Text.lower kind.typeName.toList]

/-- The kind that a text names, whatever its letter case and separators. -/
def ofString? (text : String) : Option Kind :=
  all.find? fun kind => kind.spellings.contains (normalize text)

def parse (text : String) : Except Error Kind :=
  match ofString? text with
  | some kind => .ok kind
  | none => .error (.invalidRequest s!"Unknown resource type: {text}")

end Kind

end Provision
