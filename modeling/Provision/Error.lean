namespace Provision

inductive Error where
  | timeout (text : String)
  | cancelled (description : String)
  | notFound (text : String)
  /-- A resource is neither settled nor on the way. -/
  | unexpectedState (action kind name id state : String)
  | retriesExhausted (description : String) (attempts : UInt32) (last : Error)
  | transport (text : String)
  | api (status : UInt16) (responseCode message : String)
  | parse (text : String)
  | config (text : String)
  | invalidUuid (text : String)
  | invalidEndpoint (text : String)
  | validation (text : String)
  | invalidRequest (text : String)
  | internal (text : String)
deriving DecidableEq, Repr

namespace Error

def message : Error → String
  | timeout text => s!"Timeout: {text}"
  | cancelled description => s!"operation cancelled: {description}"
  | notFound text => s!"Not found: {text}"
  | unexpectedState action kind name id state =>
    s!"{action} failed for {kind} '" ++ name ++ s!"' ({id}): encountered unexpected state '" ++
      state ++ "'"
  | retriesExhausted description attempts last =>
    s!"{description} failed after {attempts} attempt(s): {last.message}"
  | transport text => s!"Transport error: {text}"
  | api status responseCode text => s!"CloudControl API error {status} ({responseCode}): {text}"
  | parse text => s!"Failed to parse CloudControl response: {text}"
  | config text => s!"Configuration error: {text}"
  | invalidUuid text => s!"Invalid UUID: {text}"
  | invalidEndpoint text => s!"Invalid endpoint: {text}"
  | validation text => s!"Validation error: {text}"
  | invalidRequest text => s!"Invalid request: {text}"
  | internal text => s!"Internal error: {text}"

def code : Error → String
  | timeout _ => "TIMEOUT"
  | cancelled _ => "CANCELLED"
  | notFound _ => "NOT_FOUND"
  | unexpectedState .. => "UNEXPECTED_STATE"
  | retriesExhausted .. => "RETRIES_EXHAUSTED"
  | transport _ => "TRANSPORT_ERROR"
  | api .. => "API_ERROR"
  | parse _ => "PARSE_ERROR"
  | config _ => "CONFIG_ERROR"
  | invalidUuid _ => "INVALID_UUID"
  | invalidEndpoint _ => "INVALID_ENDPOINT"
  | validation _ => "VALIDATION_ERROR"
  | invalidRequest _ => "INVALID_REQUEST"
  | internal _ => "INTERNAL_ERROR"

def isCancelled : Error → Bool
  | cancelled _ => true
  | _ => false

/-- Whether another attempt may help. -/
def isTransport : Error → Bool
  | transport _ => true
  | _ => false

/-- Whether it deserves a place in the log of serious errors. -/
def isSerious : Error → Bool
  | internal _ | config _ | retriesExhausted .. => true
  | _ => false

def cause? : Error → Option Error
  | retriesExhausted _ _ last => some last
  | _ => none

end Error

end Provision
