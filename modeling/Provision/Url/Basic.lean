import Provision.Text.Split
import Provision.Url.Address
import Provision.Url.Form

namespace Provision

/-- A host: a domain name in ASCII, which may be empty for some schemes, or an address. -/
inductive Url.Host where
  | domain (name : List Char)
  | ipv4 (address : Nat)
  | ipv6 (pieces : List Nat)
deriving DecidableEq

/-- What stands between two slashes and the path: user name and password, where an empty one is no
different from a missing one, the host, and the port unless it is the usual one of the scheme. -/
structure Url.Authority where
  username : List Char
  password : List Char
  host : Url.Host
  port : Option Nat
deriving DecidableEq

/-- A path: segments after a slash each, or a text that no relative URL can be resolved against. -/
inductive Url.Path where
  | rooted (segments : List (List Char))
  | rootless (text : List Char)
deriving DecidableEq

structure Url where
  scheme : List Char
  authority : Option Url.Authority
  path : Url.Path
  query : Option (List Char)
  fragment : Option (List Char)
deriving DecidableEq

namespace Url

def schemePorts : List (String × Nat) :=
  [("http", 80), ("https", 443), ("ws", 80), ("wss", 443), ("ftp", 21)]

def defaultPort? (scheme : List Char) : Option Nat := schemePorts.lookup (String.ofList scheme)

def isFile (scheme : List Char) : Bool := scheme == ['f', 'i', 'l', 'e']

/-- Whether the rules for web addresses hold for the URLs of a scheme. -/
def isSpecial (scheme : List Char) : Bool := (defaultPort? scheme).isSome || isFile scheme

/-- Whether a scheme is one of those that requests are sent by. -/
def isWeb (scheme : List Char) : Bool :=
  scheme == ['h', 't', 't', 'p'] || scheme == ['h', 't', 't', 'p', 's']

def Host.text : Host → List Char
  | .domain name => name
  | .ipv4 address => ipv4Text address
  | .ipv6 pieces => '[' :: (ipv6Text pieces ++ [']'])

/-- The user name and the password with the character that ends them. -/
def Authority.userinfo (authority : Authority) : List Char :=
  match authority.username, authority.password with
  | [], [] => []
  | username, [] => username ++ ['@']
  | username, password => username ++ ':' :: (password ++ ['@'])

def Authority.hostAndPort (authority : Authority) : List Char :=
  match authority.port with
  | none => authority.host.text
  | some port => authority.host.text ++ ':' :: Nat.toDigits 10 port

def Authority.text (authority : Authority) : List Char :=
  authority.userinfo ++ authority.hostAndPort

def Path.text : Path → List Char
  | .rooted segments => segments.flatMap ('/' :: ·)
  | .rootless text => text

def marked (mark : Char) : Option (List Char) → List Char
  | none => []
  | some part => mark :: part

/-- Whether a path without an authority would be taken for one. -/
def looksLikeAuthority : Path → Bool
  | .rooted ([] :: _ :: _) => true
  | _ => false

def origin (url : Url) : List Char :=
  url.scheme ++ ':' ::
    match url.authority with
    | some authority => '/' :: '/' :: authority.text
    | none => if looksLikeAuthority url.path then ['/', '.'] else []

def chars (url : Url) : List Char :=
  url.origin ++ url.path.text ++ marked '?' url.query ++ marked '#' url.fragment

def toString (url : Url) : String := String.ofList url.chars

instance : ToString Url := ⟨toString⟩

def hasHost (url : Url) : Bool :=
  match url.authority with
  | some authority => authority.host != .domain []
  | none => false

/-- The path and query, as a request for the URL names them. -/
def target (url : Url) : List Char := url.path.text ++ marked '?' url.query

def withPairs (url : Url) (pairs : List (String × String)) : Url :=
  if pairs.isEmpty then url
  else
    { url with
      query :=
        match url.query with
        | none => some (Form.encode pairs)
        | some [] => some (Form.encode pairs)
        | some query => some (query ++ '&' :: Form.encode pairs) }

def withoutUserinfo (url : Url) : Url :=
  { url with authority := url.authority.map fun authority =>
      { authority with username := [], password := [] } }

end Url

end Provision
