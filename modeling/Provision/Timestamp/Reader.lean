import Provision.Text.Blank
import Provision.Timestamp.Basic

namespace Provision.Timestamp

inductive Fault where
  | tooShort
  | invalid
  | outOfRange
  | trailing
  /-- The date and time exist, but not after the step to UTC. -/
  | impossible
deriving DecidableEq, Repr

def Fault.message : Fault → String
  | .tooShort => "premature end of input"
  | .invalid => "input contains invalid characters"
  | .outOfRange => "input is out of range"
  | .trailing => "trailing input"
  | .impossible => "no possible date and time matching input"

/-- A reader takes what it needs off the front of a text. -/
abbrev Reader (α : Type) := StateT (List Char) (Except Fault) α

def digitsValue (digits : List Char) : Nat :=
  digits.foldl (fun value d => value * 10 + (d.toNat - 48)) 0

def blanks : Reader Unit := modify Text.trimStart

/-- Read a number of one digit up to `most` digits, or any number of them. -/
def number (most : Option Nat) : Reader Nat := do
  let text ← get
  let run := text.takeWhile Char.isDigit
  let digits := match most with
    | some most => run.take most
    | none => run
  if text.isEmpty then throw .tooShort
  else if digits.isEmpty then throw .invalid
  else
    set (text.drop digits.length)
    return digitsValue digits

/-- Read a number of one or two digits, after white space, that lies within bounds. -/
def field (least most : Nat) : Reader Nat := do
  blanks
  let value ← number (some 2)
  if least ≤ value && value ≤ most then return value else throw .outOfRange

def literal (c : Char) : Reader Unit := do
  match ← get with
  | [] => throw .tooShort
  | d :: rest => if d = c then set rest else throw .invalid

/-- Read a year: up to four digits, or a sign and any number of digits. -/
def year : Reader Int := do
  blanks
  let value : Int ←
    match ← get with
    | '-' :: rest => do
      set rest
      let n ← number none
      pure (-(n : Int))
    | '+' :: rest => do
      set rest
      let n ← number none
      pure (n : Int)
    | _ => do
      let n ← number (some 4)
      pure (n : Int)
  if Int32.minValue.toInt ≤ value && value ≤ Int32.maxValue.toInt then return value
  else throw .outOfRange

/-- Read a fraction of a second, if one stands here; digits after the ninth have no weight. -/
def fraction : Reader Nat := do
  match ← get with
  | '.' :: rest =>
    let run := rest.takeWhile Char.isDigit
    if rest.isEmpty then throw .tooShort
    else if run.isEmpty then throw .invalid
    else
      set (rest.drop run.length)
      let digits := run.take 9
      return digitsValue digits * Nat.pow 10 (9 - digits.length)
  | _ => return 0

def twoDigits : Reader (Nat × Nat) := do
  match ← get with
  | [] => throw .tooShort
  | [c] => if c.toNat < 128 then throw .tooShort else throw .invalid
  | c :: d :: rest =>
    if c.isDigit && d.isDigit then
      set rest
      return (c.toNat - 48, d.toNat - 48)
    else throw .invalid

def offsetSign : Reader Bool := do
  match ← get with
  | [] => throw .tooShort
  | c :: rest =>
    if c = '+' then
      set rest
      return false
    else if c = '-' || c = '\u2212' then
      set rest
      return true
    else throw .invalid

def offset : Reader Int := do
  let text ← get
  if (text.take 3).map Char.toUpper = ['U', 'T', 'C'] then
    set (text.drop 3)
    return 0
  else if text.head? == some 'Z' || text.head? == some 'z' then
    set (text.drop 1)
    return 0
  else
    let negative ← offsetSign
    let (h, h') ← twoDigits
    modify fun text => text.dropWhile fun c => c = ':' || Text.isBlank c
    let (m, m') ← twoDigits
    if m ≥ 6 then throw .outOfRange
    let minutes : Int := ((h * 10 + h') * 60 + (m * 10 + m') : Nat)
    return if negative then -minutes else minutes

def separator : Reader Unit := do
  match ← get with
  | [] => throw .tooShort
  | c :: rest => if c = 'T' || c = 't' || c = ' ' then set rest else throw .invalid

/-- The numbers of a text, before it is known whether they name a day. -/
structure Parts where
  year : Int
  month : Nat
  day : Nat
  hour : Nat
  minute : Nat
  second : Nat
  nanosecond : Nat
  offset : Int

def parts : Reader Parts := do
  let year ← year
  blanks
  literal '-'
  let month ← field 1 12
  blanks
  literal '-'
  let day ← field 1 31
  separator
  let hour ← field 0 23
  blanks
  literal ':'
  let minute ← field 0 59
  blanks
  literal ':'
  let second ← field 0 60
  let nanosecond ← fraction
  blanks
  let offset ← offset
  return { year, month, day, hour, minute, second, nanosecond, offset }

def ofChars (text : List Char) : Except Fault Timestamp := do
  let (p, rest) ← parts.run text
  if !(Text.trimStart rest).isEmpty then throw .trailing
  match Date.of? p.year p.month p.day with
  | none => throw .outOfRange
  | some date =>
    if p.offset ≤ -1440 || 1440 ≤ p.offset then throw .outOfRange
    match ofLocal? date p.hour p.minute p.second p.nanosecond p.offset with
    | none => throw .impossible
    | some t => return t

def ofString (text : String) : Except Fault Timestamp := ofChars text.toList

end Provision.Timestamp
