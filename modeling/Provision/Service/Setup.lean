import Provision.Connection
import Provision.Service.Endpoint
import Provision.Settings

namespace Provision.Service

inductive CertificateFile where
  | unreadable (reason : String)
  | malformed (reason : String)
  | certificate

structure Setup where
  base : Url
  apiVersion : String := defaultApiVersion
  connection : Connection := {}
  credentials : Option Credentials := none
  organizationId : Option String := none
  userAgent : String := "cloudcontrol-rust/0.1.0"
  tlsVerify : Bool := true
  tlsCaCert : Option String := none
deriving DecidableEq

namespace Setup

/-- The setup for an address, whose requests may take so many milliseconds. -/
def forAddress (address : String) (timeout : Nat) : Except Error Setup := do
  let base ← (Url.ofString (Settings.withSlash address)).mapError fun fault =>
    .config s!"Invalid base URL `{address}`: {fault.message}"
  return { base, connection := { timeout } }

def ofSettings (settings : Settings) : Except Error Setup := do
  settings.validate
  let base ← settings.base
  return {
    base
    apiVersion := settings.apiVersion
    connection := {
      timeout := settings.timeout.milliseconds
      retryPolicy := ⟨settings.maxRetryCount, settings.retryDelay.milliseconds⟩ }
    organizationId := settings.organizationId
    tlsVerify := settings.tlsVerify
    tlsCaCert := settings.tlsCaCert }

def withRetryPolicy (setup : Setup) (policy : RetryPolicy) : Setup :=
  { setup with connection := { setup.connection with retryPolicy := policy } }

def isHeaderValue (text : String) : Bool :=
  text.toList.all fun c => c == '\t' || (c.toNat ≥ 32 && c.toNat ≠ 127)

/-- Load the certificate at a path, if there is one to load. -/
def loadCertificate (files : String → CertificateFile) : Option String → Except Error Unit
  | none => .ok ()
  | some path =>
    match files path with
    | .unreadable reason => .error (.config s!"Failed to read CA certificate {path}: {reason}")
    | .malformed reason => .error (.config s!"Invalid CA certificate: {reason}")
    | .certificate => .ok ()

def build (setup : Setup) (files : String → CertificateFile) : Except Error Endpoint := do
  loadCertificate files setup.tlsCaCert
  if !isHeaderValue setup.userAgent then
    throw (.config "Failed to build HTTP client: builder error")
  return {
    base := setup.base
    apiVersion := setup.apiVersion
    userAgent := setup.userAgent
    credentials := setup.credentials
    retryPolicy := setup.connection.retryPolicy
    organizationId := setup.organizationId }

end Setup

end Provision.Service
