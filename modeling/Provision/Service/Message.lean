import Provision.Error
import Provision.Json.Outline
import Provision.Json.Printer
import Provision.Text.Base64
import Provision.Url.Basic

namespace Provision.Service

inductive Scope where
  | organization
  | account
deriving DecidableEq, Repr

structure Request where
  method : String
  path : String
  scope : Scope := .organization
  query : List (String × String) := []
  body : Option Json := none

namespace Request

def get (path : String) (query : List (String × String) := []) : Request :=
  { method := "GET", path, query }

/-- A request with a document, whose members are put in order. -/
def withJson (request : Request) (body : Json) : Request := { request with body := body.sorted }

def post (path : String) (body : Json) : Request := Request.withJson { method := "POST", path } body

def unwritable (fault : Json.Fault) : Error :=
  .invalidRequest s!"Failed to serialize request body: {fault.message}"

end Request

structure Authorization where
  username : String
  password : Option String
deriving DecidableEq

def Authorization.header (authorization : Authorization) : String :=
  let pair := authorization.username ++ ":" ++ authorization.password.getD ""
  "Basic " ++ String.ofList (Text.Base64.encode (Text.utf8 pair))

structure Message where
  method : String
  url : Url
  userAgent : String
  authorizations : List Authorization
  body : Option Json

namespace Message

/-- The longest URL that can be sent. -/
def urlLimit : Nat := 65534

/-- The characters that a host may hold but that cannot be sent in one. -/
def isUnsendable (c : Char) : Bool := ['"', '`', '\x7b', '\x7d'].contains c

/-- Whether a message cannot be sent at all, because of its URL. -/
def isRejected (message : Message) : Bool :=
  !message.url.hasHost || !Url.isWeb message.url.scheme ||
    (message.url.authority.map Url.Authority.text).any (·.any isUnsendable) ||
    message.url.chars.length > urlLimit

def rejection? (message : Message) : Option Error :=
  if message.isRejected then some (.invalidRequest s!"builder error for url ({message.url})")
  else none

/-- The headers that matter to the receiver, by name. -/
def headers (message : Message) : List (String × List String) :=
  let authorizations := message.authorizations.map Authorization.header
  [("accept", ["application/json"])] ++
    (if authorizations.isEmpty then [] else [("authorization", authorizations)]) ++
    (if message.body.isSome then [("content-type", ["application/json"])] else []) ++
    [("user-agent", [message.userAgent])]

end Message

end Provision.Service
