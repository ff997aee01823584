import Provision.Json.Printer
import Provision.Json.Scan
import Provision.Text.Quoted
import Provision.Timestamp.Printer
import Provision.Timestamp.Reader
import Provision.Uuid

/-!
How values of a type are read from JSON and written to it. Reading walks the outline of a text in
the order of the text, so the first problem ends it, be it a fault of the syntax or a value of the
wrong kind.
-/
namespace Provision.Json

/-- What stands in a text where something else is expected. -/
inductive Found where
  | null
  | bool (value : Bool)
  | number (value : Number)
  | text (value : String)
  | list
  | object

def Found.message : Found → String
  | .null => "null"
  | .bool value => s!"boolean `{value}`"
  | .number (.integer value) => s!"integer `{value}`"
  | .number (.float value) => "floating point `" ++ String.ofList (Number.float value).render ++ "`"
  | .text value => "string " ++ Text.quoted value
  | .list => "sequence"
  | .object => "map"

inductive Refusal where
  | malformed (fault : Fault)
  | mismatch (found : Found) (expected : String)
  /-- An integer outside the range of its type. -/
  | outOfRange (value : Int) (expected : String)
  | duplicate (key : String)
  | missing (key : String)
  /-- A list in place of a record, with too few items. -/
  | tooFew (found : Nat) (record : String) (fields : Nat)
  | badUuid (reason : Uuid.Malformed)
  | badTimestamp (reason : Timestamp.Fault)

def Refusal.message : Refusal → String
  | .malformed fault => fault.message
  | .mismatch found expected => s!"invalid type: {found.message}, expected {expected}"
  | .outOfRange value expected => s!"invalid value: integer `{value}`, expected {expected}"
  | .duplicate key => s!"duplicate field `{key}`"
  | .missing key => s!"missing field `{key}`"
  | .tooFew found record fields =>
    let elements := if fields = 1 then "1 element" else s!"{fields} elements"
    s!"invalid length {found}, expected struct {record} with {elements}"
  | .badUuid reason => s!"UUID parsing failed: {reason.message}"
  | .badTimestamp reason => reason.message

def heedFault (fault : Option Fault) : Except Refusal Unit :=
  match fault with
  | none => .ok ()
  | some fault => .error (.malformed fault)

def wanted {α : Type} (result : Except Fault α) : Except Refusal α := result.mapError .malformed

/-- What an outline holds; lists and objects need not be well formed for that. -/
def Outline.found : Outline → Except Fault Found
  | .null => .ok .null
  | .bool value => .ok (.bool value)
  | .number value => value.map .number
  | .string text => text.content.map .text
  | .list _ _ => .ok .list
  | .object _ _ => .ok .object
  | .broken wanted _ => .error wanted

def Outline.refuse {α : Type} (outline : Outline) (expected : String) : Except Refusal α := do
  let found ← wanted outline.found
  throw (.mismatch found expected)

structure Codec (α : Type) where
  read : Outline → Except Refusal α
  write : α → Json

namespace Codec

variable {α : Type}

def decode (codec : Codec α) (bytes : List UInt8) : Except Refusal α := do
  let sheet := Sheet.ofBytes bytes
  let value ← codec.read sheet.outline
  if sheet.trailing then throw (.malformed .trailingText)
  return value

/-- Read a text value with the reader that a string has in this place. -/
def readText (expected : String) (read : String → Except Refusal α) (outline : Outline) :
    Except Refusal α :=
  match outline with
  | .string text => do
    let content ← wanted text.content
    read content
  | other => other.refuse expected

def text : Codec String where
  read := readText "a string" .ok
  write := .string

def path : Codec String where
  read := readText "path string" .ok
  write := .string

def bool : Codec Bool where
  read
    | .bool value => .ok value
    | other => other.refuse "a boolean"
  write := .bool

/-- Read an integer from 0 up to below `2 ^ bits`. -/
def readNat (bits : Nat) (outline : Outline) : Except Refusal Nat :=
  let expected := s!"u{bits}"
  match outline with
  | .number (.ok (.integer value)) =>
    if 0 ≤ value ∧ value < Nat.pow 2 bits then .ok value.toNat
    else .error (.outOfRange value expected)
  | other => other.refuse expected

def uint8 : Codec UInt8 where
  read outline := (readNat 8 outline).map Nat.toUInt8
  write value := .nat value.toNat

def uint16 : Codec UInt16 where
  read outline := (readNat 16 outline).map Nat.toUInt16
  write value := .nat value.toNat

def uint32 : Codec UInt32 where
  read outline := (readNat 32 outline).map Nat.toUInt32
  write value := .nat value.toNat

def uint64 : Codec UInt64 where
  read outline := (readNat 64 outline).map Nat.toUInt64
  write value := .nat value.toNat

/-- Identifiers, in any form when read and in the canonical form when written. -/
def uuid : Codec Uuid where
  read := readText "a formatted UUID string" fun content =>
    match Uuid.ofString? content with
    | some id => .ok id
    | none => .error (.badUuid (Uuid.diagnose content.toList))
  write id := .string id.toString

def timestamp : Codec Timestamp where
  read := readText "an RFC 3339 formatted date and time string" fun content =>
    (Timestamp.ofString content).mapError .badTimestamp
  write time := .string time.toString

def readItems (codec : Codec α) : List Outline → Except Refusal (List α)
  | [] => .ok []
  | item :: items => do
    let value ← codec.read item
    let values ← codec.readItems items
    return value :: values

def list (codec : Codec α) : Codec (List α) where
  read
    | .list items ending => do
      let values ← codec.readItems items
      heedFault ending.listFault?
      return values
    | other => other.refuse "a sequence"
  write values := .list (values.map codec.write)

def optional (codec : Codec α) : Codec (Option α) where
  read
    | .null => .ok none
    | other => (codec.read other).map some
  write := Json.optional codec.write

def imap {β : Type} (codec : Codec α) (wrap : α → β) (unwrap : β → α) : Codec β where
  read outline := (codec.read outline).map wrap
  write value := codec.write (unwrap value)

end Codec

end Provision.Json
