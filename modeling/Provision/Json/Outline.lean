import Provision.Json.Basic
import Provision.Json.Fault

/-!
The outline of a JSON text: its values as far as the text can be read, with the faults in their
places. A text is read from left to right by a reader who wants some values and skips others, and
the first problem ends the reading; which faults count depends on what the reader wants. The outline
keeps both kinds, so that every reader is a walk over one tree.
-/
namespace Provision.Json

/-- A string of a text. `content` is what a reader who wants it gets; `fatal` is the fault that also
stops a reader who skips it. -/
structure Quotation where
  content : Except Fault String
  fatal : Option Fault

inductive Ending where
  | closed
  /-- The text ends after the opening bracket, an item or a member. -/
  | cut
  /-- Something else follows than a comma or the closing bracket. -/
  | unseparated
  | danglingComma
  | cutAfterComma
  | keyMissing
deriving DecidableEq, Repr

/-- The outline of a text. After a `broken` value, or a container that is not closed, nothing
follows. -/
inductive Outline where
  | null
  | bool (value : Bool)
  | number (value : Except Fault Number)
  | string (text : Quotation)
  | list (items : List Outline) (ending : Ending)
  | object (members : List (Quotation × Outline)) (ending : Ending)
  /-- No value: the faults that a reader who wants it and one who skips it report. -/
  | broken (wanted skipped : Fault)

/-- The fault of a list's ending for a reader who wants the list. -/
def Ending.listFault? : Ending → Option Fault
  | .closed => none
  | .cut => some .listCut
  | .unseparated => some .listUnseparated
  | .danglingComma => some .trailingComma
  | .cutAfterComma => some .valueCut
  | .keyMissing => some .keyExpected

/-- The fault of an object's ending for a reader who wants the object. -/
def Ending.objectFault? : Ending → Option Fault
  | .closed => none
  | .cut => some .objectCut
  | .unseparated => some .objectUnseparated
  | .danglingComma => some .trailingComma
  | .cutAfterComma => some .valueCut
  | .keyMissing => some .keyExpected

/-- The fault of a list's ending for a reader who skips it, and so tells a missing value from a
comma too many no more. -/
def Ending.skippedListFault? : Ending → Option Fault
  | .danglingComma => some .valueExpected
  | ending => ending.listFault?

/-- The fault of an object's ending for a reader who skips it. -/
def Ending.skippedObjectFault? : Ending → Option Fault
  | .danglingComma => some .keyExpected
  | .cutAfterComma => some .objectCut
  | ending => ending.objectFault?

def faultless : Option Fault → Except Fault Unit
  | none => .ok ()
  | some fault => .error fault

namespace Outline

mutual

/-- Skip a value: report the fault that stops a reader who does not want it. -/
def skip : Outline → Except Fault Unit
  | .null => .ok ()
  | .bool _ => .ok ()
  | .number _ => .ok ()
  | .string text => faultless text.fatal
  | .list items ending => do
    skipItems items
    faultless ending.skippedListFault?
  | .object members ending => do
    skipMembers members
    faultless ending.skippedObjectFault?
  | .broken _ skipped => .error skipped

def skipItems : List Outline → Except Fault Unit
  | [] => .ok ()
  | item :: items => do
    skip item
    skipItems items

def skipMembers : List (Quotation × Outline) → Except Fault Unit
  | [] => .ok ()
  | member :: members => do
    skipMember member
    skipMembers members

def skipMember : Quotation × Outline → Except Fault Unit
  | (key, value) => do
    faultless key.fatal
    skip value

end

/-- The number of nested lists and objects up to which a text is read into a value. -/
def depthLimit : Nat := 127

mutual

/-- Read any value, within `depth` levels of lists and objects. -/
def value (depth : Nat) : Outline → Except Fault Json
  | .null => .ok .null
  | .bool b => .ok (.bool b)
  | .number n => n.map Json.number
  | .string text => text.content.map Json.string
  | .list items ending =>
    match depth with
    | 0 => .error .tooDeep
    | depth + 1 => do
      let items ← values depth items
      faultless ending.listFault?
      return .list items
  | .object members ending =>
    match depth with
    | 0 => .error .tooDeep
    | depth + 1 => do
      let members ← memberValues depth members
      faultless ending.objectFault?
      return .object members
  | .broken wanted _ => .error wanted

def values (depth : Nat) : List Outline → Except Fault (List Json)
  | [] => .ok []
  | item :: items => do
    let item ← value depth item
    let items ← values depth items
    return item :: items

def memberValues (depth : Nat) : List (Quotation × Outline) → Except Fault (List (String × Json))
  | [] => .ok []
  | member :: members => do
    let member ← memberValue depth member
    let members ← memberValues depth members
    return member :: members

def memberValue (depth : Nat) : Quotation × Outline → Except Fault (String × Json)
  | (key, outline) => do
    let key ← key.content
    let json ← value depth outline
    return (key, json)

end

end Outline

mutual

/-- Every object with its members sorted by key, the last one of a repeated key kept. -/
def sorted : Json → Json
  | .list items => .list (sortedItems items)
  | .object members => .object (sortedMembers members)
  | other => other

def sortedItems : List Json → List Json
  | [] => []
  | item :: items => sorted item :: sortedItems items

def sortedMembers : List (String × Json) → List (String × Json)
  | [] => []
  | member :: members => insertMember (sortedMember member) (sortedMembers members)

def sortedMember : String × Json → String × Json
  | (key, value) => (key, sorted value)

/-- Put an earlier member in front of the greater keys, unless its key is there already. -/
def insertMember (member : String × Json) : List (String × Json) → List (String × Json)
  | [] => [member]
  | next :: members =>
    if member.1 = next.1 then next :: members
    else if member.1 < next.1 then member :: next :: members
    else next :: insertMember member members

end

end Provision.Json
