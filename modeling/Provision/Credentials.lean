import Provision.Error
import Provision.Text.Quoted

namespace Provision

structure Credentials where
  username : String
  password : String
deriving DecidableEq

namespace Credentials

def userVariable : String := "MCP_USER"

def passwordVariable : String := "MCP_PASSWORD"

/-- The value of an environment variable, which an empty text does not count as. -/
def required (name : String) : Option String → Except Error String
  | none | some "" => .error (.config s!"The {name} environment variable is not set")
  | some value => .ok value

def ofEnvironment (environment : String → Option String) : Except Error Credentials := do
  let username ← required userVariable (environment userVariable)
  let password ← required passwordVariable (environment passwordVariable)
  return ⟨username, password⟩

/-- The text that shows credentials without giving the password away. -/
def debug (credentials : Credentials) : String :=
  let username := Text.quoted credentials.username
  s!"Credentials \x7b username: {username}, password: \"[REDACTED]\" \x7d"

end Credentials

end Provision
