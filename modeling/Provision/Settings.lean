import Provision.Duration
import Provision.Json.Record
import Provision.Resource.Region
import Provision.Url.Reference

namespace Provision

/-- The version of the service's interface that is used unless another is set. -/
def defaultApiVersion : String := "2.4"

structure Settings where
  baseUrl : String
  apiVersion : String := defaultApiVersion
  /-- Looked up when absent. -/
  organizationId : Option String := none
  requestTimeoutSecs : UInt64 := 60
  maxRetryCount : UInt32 := 3
  retryDelayMs : UInt64 := 0
  pollIntervalSecs : UInt64 := 5
  tlsVerify : Bool := true
  tlsCaCert : Option String := none
deriving DecidableEq, Repr

namespace Settings

open Json (Codec Field Fields)

def record : Json.Record Settings where
  name := "CloudControlConfig"
  types := _
  fields :=
    .cons (.required "base_url" Codec.text) <|
    .cons (.defaulted "api_version" Codec.text defaultApiVersion) <|
    .cons (.optional "organization_id" Codec.text) <|
    .cons (.defaulted "request_timeout_secs" Codec.uint64 60) <|
    .cons (.defaulted "max_retry_count" Codec.uint32 3) <|
    .cons (.defaulted "retry_delay_ms" Codec.uint64 0) <|
    .cons (.defaulted "poll_interval_secs" Codec.uint64 5) <|
    .cons (.defaulted "tls_verify" Codec.bool true) <|
    .cons (.optional "tls_ca_cert" Codec.path) .nil
  build := fun (a, b, c, d, e, f, g, h, i, ()) => ⟨a, b, c, d, e, f, g, h, i⟩
  parts := fun ⟨a, b, c, d, e, f, g, h, i⟩ => (a, b, c, d, e, f, g, h, i, ())
  build_parts _ := rfl
  parts_build _ := rfl

inductive Rule where
  | url
  | range
deriving DecidableEq, Repr

def Rule.name : Rule → String
  | .url => "url"
  | .range => "range"

/-- The settings with rules, whether each keeps its rule, and the rule. -/
def rules (settings : Settings) : List (String × Bool × Rule) :=
  let within := fun (least most value : Nat) => least ≤ value && value ≤ most
  [("base_url", (Url.ofString settings.baseUrl).isOk, .url),
    ("max_retry_count", within 0 10 settings.maxRetryCount.toNat, .range),
    ("poll_interval_secs", within 1 300 settings.pollIntervalSecs.toNat, .range),
    ("request_timeout_secs", within 1 300 settings.requestTimeoutSecs.toNat, .range),
    ("retry_delay_ms", within 0 60000 settings.retryDelayMs.toNat, .range)]

/-- The settings that break their rules, in alphabetical order. -/
def violations (settings : Settings) : List (String × Rule) :=
  settings.rules.filterMap fun (name, kept, rule) => if kept then none else some (name, rule)

/-- Which settings break which rules. The wording is our own; only the names in it matter. -/
def violationText (violations : List (String × Rule)) : String :=
  ", ".intercalate (violations.map fun (name, rule) => s!"{name}: {rule.name}")

/-- Refuse settings that break a rule, and those without a version. -/
def validate (settings : Settings) : Except Error Unit :=
  match settings.violations with
  | [] =>
    if (Text.trim settings.apiVersion.toList).isEmpty then
      .error (.config "API version must not be empty")
    else .ok ()
  | violations => .error (.config s!"Invalid configuration: {violationText violations}")

def forAddress (baseUrl : String) : Except Error Settings := do
  let settings : Settings := { baseUrl }
  settings.validate
  return settings

def forRegion (region : String) : Except Error Settings := do
  let address ← regionAddress region
  forAddress address

/-- Set the delay between attempts, of which whole milliseconds are kept, in 64 bits. -/
def withRetryDelay (settings : Settings) (delay : Duration) : Settings :=
  { settings with retryDelayMs := delay.milliseconds.toUInt64 }

def retryDelay (settings : Settings) : Duration := .ofMilliseconds settings.retryDelayMs

def timeout (settings : Settings) : Duration := .ofSeconds settings.requestTimeoutSecs

def pollInterval (settings : Settings) : Duration := .ofSeconds settings.pollIntervalSecs

def withSlash (text : String) : String :=
  if text.toList.getLast? = some '/' then text else text ++ "/"

def base (settings : Settings) : Except Error Url :=
  (Url.ofString (withSlash settings.baseUrl)).mapError fun fault =>
    .config s!"Invalid base URL: {fault.message}"

end Settings

end Provision
