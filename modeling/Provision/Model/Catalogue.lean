import Provision.Model.ApiResponse
import Provision.Model.Basic
import Provision.Model.Order
import Provision.Model.Page

namespace Provision

structure AnyRecord where
  {type : Type}
  record : Json.Record type

/-- The records of resources, of their parts, of requests and of responses. -/
def catalogue : List AnyRecord :=
  (Kind.all.map fun kind => ⟨Model.record kind⟩) ++
  [⟨EntityReference.record⟩, ⟨IpRange.record⟩, ⟨IdRequest.record⟩, ⟨NameValuePair.record⟩,
    ⟨ApiResponse.record⟩, ⟨PageInfo.record⟩, ⟨FirewallAddress.record⟩, ⟨FirewallPort.record⟩,
    ⟨FirewallEndpoint.record⟩, ⟨OperatingSystem.record⟩, ⟨Cpu.record⟩, ⟨Disk.record⟩,
    ⟨ServerNetworkInfo.record⟩, ⟨ServerBackup.record⟩, ⟨ServerSummary.record⟩,
    ⟨DeployNetworkDomain.record⟩, ⟨EditNetworkDomain.record⟩, ⟨DeployVlan.record⟩,
    ⟨EditVlan.record⟩, ⟨DeployNic.record⟩, ⟨DeployNetworkInfo.record⟩, ⟨DeployServer.record⟩,
    ⟨CloneServer.record⟩, ⟨EnableServerBackup.record⟩, ⟨DisableServerBackup.record⟩,
    ⟨Placement.record⟩, ⟨CreateFirewallRule.record⟩, ⟨AddPublicIpBlock.record⟩]

def AnyRecord.ofName? (name : String) : Option AnyRecord :=
  catalogue.find? fun entry => entry.record.name = name

end Provision
