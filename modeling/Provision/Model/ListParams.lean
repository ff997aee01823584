import Provision.Id
import Provision.Query
import Provision.Resource.State

namespace Provision

/-- What the items of a list have in common, and which page of them is asked for. -/
structure ListParams where
  paging : Option Paging := none
  datacenterId : Option String := none
  networkDomainId : Option (Id .networkDomain) := none
  name : Option String := none
  state : Option State := none
deriving DecidableEq

def ListParams.query (params : ListParams) : Query :=
  ((((Query.empty.pushSome "datacenterId" params.datacenterId).pushSome "networkDomainId"
    params.networkDomainId).pushSome "name" params.name).pushSome "state"
    (params.state.map State.text)).pushPaging params.paging

end Provision
