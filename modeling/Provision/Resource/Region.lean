import Provision.Error
import Provision.Text.Blank
import Provision.Text.Case

namespace Provision

def regions : List String := ["AU", "NA", "EU", "AF", "AP", "SA", "CA", "IL"]

/-- The address of a region's endpoint. Blanks around its code and letter case do not matter. -/
def regionAddress (region : String) : Except Error String :=
  let code := Text.upper (Text.trim region.toList)
  if regions.contains (String.ofList code) then
    .ok s!"https://api-{String.ofList (Text.lower code)}.dimensiondata.com"
  else .error (.config s!"Unknown region: {region}")

end Provision
