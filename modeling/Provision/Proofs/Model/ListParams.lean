import Mathlib.Data.List.Nodup
import Provision.Model.ListParams
import Provision.Proofs.Uuid

namespace Provision

def setPairs (fields : List (String × Option String)) : List (String × String) :=
  fields.filterMap fun field => field.2.map (field.1, ·)

namespace ListParams

def pageNumber (params : ListParams) : Option UInt32 := params.paging.bind Paging.pageNumber

/-- The number of the items of a page, if one is asked for. -/
def pageSize (params : ListParams) : Option UInt32 := params.paging.bind Paging.pageSize

/-- The fields by their names in a query, with the texts of those that are set. -/
def fields (params : ListParams) : List (String × Option String) :=
  [("datacenterId", params.datacenterId),
    ("networkDomainId", params.networkDomainId.map Id.toString),
    ("name", params.name),
    ("state", params.state.map State.text),
    ("pageNumber", params.pageNumber.map toString),
    ("pageSize", params.pageSize.map toString)]

end ListParams

end Provision
