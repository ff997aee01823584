namespace Provision

/-- A number of a JSON text: an integer that fits 64 bits, signed or not, or else a double. -/
inductive Json.Number where
  | integer (value : Int)
  | float (value : Float)

inductive Json where
  | null
  | bool (value : Bool)
  | number (value : Json.Number)
  | string (value : String)
  | list (items : List Json)
  | object (members : List (String × Json))

namespace Json

instance : Inhabited Json := ⟨.null⟩

def integer (value : Int) : Json := .number (.integer value)

def nat (value : Nat) : Json := .number (.integer value)

/-- A value that may be absent, with `null` for its absence. -/
def optional {α : Type} (write : α → Json) : Option α → Json
  | none => .null
  | some value => write value

/-- The value of an object's member; of a repeated key the last one. -/
def member? (key : String) : Json → Option Json
  | .object members => (members.reverse.find? fun member => member.1 == key).map Prod.snd
  | _ => none

end Json

end Provision
