import Provision.Proofs.Client.Absence
import Provision.Proofs.Service.Failures
import Provision.Proofs.Wait.Errands

namespace Provision

def Waiter.withFlag {σ ρ : Type} (waiter : Waiter σ ρ) (flag : σ → Nat → Bool) : Waiter σ ρ :=
  { waiter with environment := { waiter.environment with isCancelled := flag } }

namespace Client

open Service

variable {client : Client} {network : Network} {kind : Kind} {id : String} {session : Session}

theorem kind_of_fetch {model : Model}
    (found : (client.fetch network kind id session).1 = .ok (some model)) :
    (snapshot model).kind = kind := by
  cases fetch_eq_iff.mp found with
  | found replied succeeded read => exact kind_of_decode kind read

theorem ofRequest_of_fetch {error : Error}
    (failed : (client.fetch network kind id session).1 = .error error) : error.OfRequest := by
  cases fetch_eq_iff.mp failed with
  | unread replied succeeded read => exact .parse _
  | explained replied failed present read => exact .api _ _ _
  | unexplained replied failed present read => exact .api _ _ _
  | unresolved lookedUp => exact Endpoint.ofRequest_of_resolve lookedUp
  | unanswered lookedUp asked => exact Endpoint.ofRequest_of_perform (fun _ => ⟨_, rfl⟩) asked

inductive MayFail (course : Wait.Course Situation Model) : Error → Prop where
  | ofRequest {error : Error} (own : error.OfRequest) : MayFail course error
  | timeout (text : String) : MayFail course (.timeout text)
  | cancelled (description : String) : MayFail course (.cancelled description)
  | unexpectedState (action kind name id state : String) :
    MayFail course (.unexpectedState action kind name id state)
  /-- Only the last poll can show that a resource is missing that should be there. -/
  | notFound (text : String) (kept : course.request.deleting = false)
    (missing : course.LastMisses course.request.source) : MayFail course (.notFound text)

/-- The failures of a client: each has its cause in the service, or in what the caller wants. -/
structure FailsForCause (client : Client) : Prop where
  /-- What a fetch finds is of the kind that was asked for. -/
  finds {network : Network} {kind : Kind} {id : String} {session : Session} {model : Model}
    (found : (client.fetch network kind id session).1 = .ok (some model)) :
    (snapshot model).kind = kind
  /-- A fetch fails as its requests do. That nothing is found is no failure. -/
  fetches {network : Network} {kind : Kind} {id : String} {session : Session} {error : Error}
    (failed : (client.fetch network kind id session).1 = .error error) : error.OfRequest
  /-- An errand fails so too, or because of what it waits for. -/
  errands {network : Network} {flag : Situation → Nat → Bool} {errand : Errand} {now : Nat}
    {situation : Situation} {error : Error} :
    let waiter := (client.waiter network).withFlag flag
    (waiter.perform errand now situation).1 = .error error →
      MayFail (waiter.course now situation errand) error
  /-- In particular under the client's own flag. -/
  performs {network : Network} {errand : Errand} {situation : Situation} {error : Error}
    (failed : (client.perform network errand situation).1 = .error error) :
    MayFail ((client.waiter network).course situation.session.clock situation errand) error

theorem mayFail (positive : 0 < client.pollInterval) (flag : Situation → Nat → Bool)
    {errand : Errand} {now : Nat} {situation : Situation} {error : Error}
    (failed : (((client.waiter network).withFlag flag).perform errand now situation).1 =
      .error error) :
    MayFail (((client.waiter network).withFlag flag).course now situation errand) error := by
  let course := ((client.waiter network).withFlag flag).course now situation errand
  have ended : course.run.1.outcome = .error error := Waiter.perform_eq_error_iff.mp failed
  obtain ⟨elapsed, rfl⟩ | rfl | ⟨fetched, last, settles⟩ := course.fails_of_outcome positive ended
  · exact .timeout _
  · exact .cancelled _
  · cases settles with
    | failed error =>
      obtain ⟨n, -, brought⟩ := last
      exact .ofRequest (ofRequest_of_fetch brought)
    | lost missing kept => exact .notFound _ kept ⟨_, last, missing⟩
    | unexpected shows other unknown => exact .unexpectedState _ _ _ _ _

end Client

open Service

theorem ClientSetup.pollInterval_pos {setup : ClientSetup} {files : String → CertificateFile}
    {client : Client} (built : setup.build files = .ok client) : 0 < client.pollInterval := by
  rw [build] at built
  split at built
  · cases built
  rename_i positive
  cases endpoint : setup.service.build files with
  | error error => simp [endpoint, bind, Except.bind] at built
  | ok endpoint =>
    simp only [endpoint, bind, Except.bind, pure, Except.pure, Except.ok.injEq] at built
    subst built
    exact Nat.pos_of_ne_zero positive

/-- Every client that can be built fails for a cause, whatever it was set up with. -/
theorem ClientSetup.failsForCause_of_build (setup : ClientSetup)
    (files : String → CertificateFile) (client : Client)
    (built : setup.build files = .ok client) : client.FailsForCause where
  finds := Client.kind_of_fetch
  fetches := Client.ofRequest_of_fetch
  errands := Client.mayFail (pollInterval_pos built) _
  performs {network _ _ _} failed :=
    Client.mayFail (pollInterval_pos built) (client.waiter network).environment.isCancelled failed

/-- A client that has found its organization, and a service that knows of nothing. -/
theorem Client.modest_failsForCause :
    let setup : ClientSetup := {
      service := {
        base := modest.endpoint.base, userAgent := "client", organizationId := "org"
        connection := { retryPolicy := .none } }
      flag := ⟨0⟩ }
    setup.build (fun _ => .certificate) = .ok modest ∧
      ∀ kind id session text,
        (modest.fetch (uniform ⟨404, []⟩) kind id session).1 ≠ .error (.notFound text) := by
  intro setup
  have built : setup.build (fun _ => .certificate) = .ok modest := by
    have sayable : Setup.isHeaderValue setup.service.userAgent = true := by decide
    simp [ClientSetup.build, Setup.build, Setup.loadCertificate, sayable, setup]
    rfl
  refine ⟨built, fun kind id session text failed => ?_⟩
  have own := (setup.failsForCause_of_build _ _ built).fetches failed
  exact own.ne_notFound text rfl

end Provision
