import Provision.Client.Operations
import Provision.Client.Waiting
import Provision.Model.Catalogue
import Provision.Proofs.Wait.Outcome
import Provision.Proofs.Wait.Cancellation
import Provision.Proofs.Client.Fetch
import Provision.Proofs.Json.Fields
import Provision.Proofs.Client.Absence
import Provision.Proofs.Wait.Pace
import Provision.Proofs.Wait.Deadline
import Provision.Proofs.Wait.Termination
import Provision.Proofs.Wait.Lockstep
import Provision.Proofs.Wait.Patience
import Provision.Proofs.Wait.Sources
import Provision.Proofs.Wait.Independence
import Provision.Proofs.Service.Turns
import Provision.Proofs.Service.Resolution
import Provision.Proofs.Wait.Solo
import Provision.Proofs.Service.Origin
import Provision.Proofs.Client.Confinement
import Provision.Proofs.Model.Composition
import Provision.Proofs.Model.RoundTrip
import Provision.Proofs.Wait.Errands
import Provision.Proofs.Client.Failures
import Provision.Proofs.Client.Getters
import Provision.Proofs.Client.Postings
import Provision.Proofs.Paging
import Provision.Proofs.Settings.Base
import Provision.Proofs.Client.Listings
import Provision.Proofs.Id
import Provision.Proofs.Resource.Naming
import Provision.Proofs.Resource.Registry
import Provision.Proofs.Service.Counting
