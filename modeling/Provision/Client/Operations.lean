import Provision.Client.Basic

namespace Provision.Client

open Service

variable (client : Client)

def listNetworkDomains (params : ListParams) : Operation (Except Error (Page NetworkDomain)) :=
  client.getDocument NetworkDomain.pages.codec.decode "List network domains" "network/networkDomain"
    params.query

def getNetworkDomain (id : Id .networkDomain) : Operation (Except Error NetworkDomain) :=
  client.getDocument NetworkDomain.record.codec.decode s!"Get network domain '{id}'"
    s!"network/networkDomain/{id}"

def deployNetworkDomain (order : DeployNetworkDomain) :
    Operation (Except Error (Id .networkDomain)) :=
  client.create "Deploy network domain" "network/deployNetworkDomain" "networkDomainId"
    (DeployNetworkDomain.record.codec.write order)

def editNetworkDomain (order : EditNetworkDomain) : Operation (Except Error ApiResponse) :=
  client.postDocument s!"Edit network domain '{order.id}'" "network/editNetworkDomain"
    (EditNetworkDomain.record.codec.write order)

def idDocument {kind : IdKind} (id : Id kind) : Json := IdRequest.record.codec.write ⟨id.toString⟩

def deleteNetworkDomain (id : Id .networkDomain) : Operation (Except Error ApiResponse) :=
  client.postDocument s!"Delete network domain '{id}'" "network/deleteNetworkDomain" (idDocument id)

def listVlans (params : ListParams) : Operation (Except Error (Page Vlan)) :=
  client.getDocument Vlan.pages.codec.decode "List VLANs" "network/vlan" params.query

def getVlan (id : Id .vlan) : Operation (Except Error Vlan) :=
  client.getDocument Vlan.record.codec.decode s!"Get VLAN '{id}'" s!"network/vlan/{id}"

def deployVlan (order : DeployVlan) : Operation (Except Error (Id .vlan)) :=
  client.create "Deploy VLAN" "network/deployVlan" "vlanId" (DeployVlan.record.codec.write order)

def editVlan (order : EditVlan) : Operation (Except Error ApiResponse) :=
  client.postDocument s!"Edit VLAN '{order.id}'" "network/editVlan"
    (EditVlan.record.codec.write order)

def deleteVlan (id : Id .vlan) : Operation (Except Error ApiResponse) :=
  client.postDocument s!"Delete VLAN '{id}'" "network/deleteVlan" (idDocument id)

def listServers (params : ListParams) : Operation (Except Error (Page Server)) :=
  client.getDocument Server.pages.codec.decode "List servers" "server/server" params.query

def getServer (id : Id .server) : Operation (Except Error Server) :=
  client.getDocument Server.record.codec.decode s!"Get server '{id}'" s!"server/server/{id}"

def deployServer (order : DeployServer) : Operation (Except Error (Id .server)) :=
  client.create s!"Deploy server '{order.name}'" "server/deployServer" "serverId"
    (DeployServer.record.codec.write order)

def deleteServer (id : Id .server) : Operation (Except Error ApiResponse) :=
  client.postDocument s!"Delete server '{id}'" "server/deleteServer" (idDocument id)

/-- Have an image made of a server. -/
def cloneServer (order : CloneServer) : Operation (Except Error (Id .image)) :=
  client.create s!"Clone server '{order.id}'" "server/cloneServer" "imageId"
    (CloneServer.record.codec.write order)

def enableServerBackup (serverId : Id .server) (servicePlan : String) :
    Operation (Except Error ApiResponse) :=
  client.postDocument s!"Enable backup for server '{serverId}'" "backup/enableBackup"
    (EnableServerBackup.record.codec.write ⟨serverId, servicePlan⟩)

def disableServerBackup (serverId : Id .server) : Operation (Except Error ApiResponse) :=
  client.postDocument s!"Disable backup for server '{serverId}'" "backup/disableBackup"
    (DisableServerBackup.record.codec.write ⟨serverId⟩)

def getFirewallRule (id : Id .firewallRule) : Operation (Except Error FirewallRule) :=
  client.getDocument FirewallRule.record.codec.decode s!"Get firewall rule '{id}'"
    s!"network/firewallRule/{id}"

def createFirewallRule (order : CreateFirewallRule) :
    Operation (Except Error (Id .firewallRule)) :=
  client.create s!"Create firewall rule '{order.name}'" "network/createFirewallRule"
    "firewallRuleId" (CreateFirewallRule.record.codec.write order)

def deleteFirewallRule (id : Id .firewallRule) : Operation (Except Error ApiResponse) :=
  client.postDocument s!"Delete firewall rule '{id}'" "network/deleteFirewallRule" (idDocument id)

def getPublicIpBlock (id : Id .publicIpBlock) : Operation (Except Error PublicIpBlock) :=
  client.getDocument PublicIpBlock.record.codec.decode s!"Get public IP block '{id}'"
    s!"network/publicIpBlock/{id}"

/-- Have a block of public addresses set aside for a network domain. -/
def addPublicIpBlock (domain : Id .networkDomain) : Operation (Except Error (Id .publicIpBlock)) :=
  client.create s!"Add public IP block to network domain '{domain}'" "network/addPublicIpBlock"
    "ipBlockId" (AddPublicIpBlock.record.codec.write ⟨domain⟩)

def removePublicIpBlock (id : Id .publicIpBlock) : Operation (Except Error ApiResponse) :=
  client.postDocument s!"Remove public IP block '{id}'" "network/removePublicIpBlock"
    (idDocument id)

end Provision.Client
