import Provision.Json.Outline
import Provision.Text.Hex
import Provision.Text.Utf8

/-!
From bytes to the outline of a JSON text. Each step takes bytes off the front and returns the rest,
or nothing where not even a reader who skips everything could go on.
-/
namespace Provision.Json

def skipBlanks (bytes : List UInt8) : List UInt8 :=
  bytes.dropWhile fun b => b = 0x20 || b = 0x0A || b = 0x09 || b = 0x0D

def hexWord? (a b c d : UInt8) : Option Nat := do
  let digit := fun (x : UInt8) => Text.Hex.value? (Char.ofNat x.toNat)
  let a ← digit a
  let b ← digit b
  let c ← digit c
  let d ← digit d
  return ((a.val * 16 + b.val) * 16 + c.val) * 16 + d.val

def plainEscape? (b : UInt8) : Option UInt8 :=
  if b = 0x22 || b = 0x5C || b = 0x2F then some b
  else if b = 0x62 then some 0x08
  else if b = 0x66 then some 0x0C
  else if b = 0x6E then some 0x0A
  else if b = 0x72 then some 0x0D
  else if b = 0x74 then some 0x09
  else none

/-- The content of a string as far as it is read: its bytes, last one first, or the fault that a
reader who wants the content has met. -/
abbrev Content := Except Fault (List UInt8)

def Content.push (content : Content) (bytes : List UInt8) : Content :=
  content.map fun before => bytes.reverse ++ before

def Content.spoil (content : Content) (fault : Fault) : Content :=
  content.bind fun _ => .error fault

def Content.close (content : Content) : Quotation :=
  { content := content.bind fun bytes =>
      match Text.Utf8.text? bytes.reverse with
      | some text => .ok text
      | none => .error .badCodePoint
    fatal := none }

/-- The string at a fault that stops every reader. -/
def Content.stop (content : Content) (fault : Fault) : Quotation :=
  { content := content.bind fun _ => .error fault
    fatal := some fault }

def isUpperHalf (unit : Nat) : Bool := 0xD800 ≤ unit && unit ≤ 0xDBFF

def isLowerHalf (unit : Nat) : Bool := 0xDC00 ≤ unit && unit ≤ 0xDFFF

def joinHalves (upper lower : Nat) : Char :=
  Char.ofNat ((upper - 0xD800) * 1024 + (lower - 0xDC00) + 0x10000)

/-- A content that something else than a unit follows: an upper half that is pending stays alone. -/
def Content.settle (content : Content) (pending : Option Nat) : Content :=
  if pending.isSome then content.spoil .surrogateCut else content

/-- Add a unit. A lower half goes with an upper half before it; an upper half is pending then. -/
def Content.pushUnit (content : Content) (pending : Option Nat) (unit : Nat) :
    Option Nat × Content :=
  match pending with
  | some upper =>
    if isLowerHalf unit then
      (none, content.push (String.utf8EncodeChar (joinHalves upper unit)))
    else (if isUpperHalf unit then some unit else none, content.spoil .loneSurrogate)
  | none =>
    if isLowerHalf unit then (none, content.spoil .loneSurrogate)
    else if isUpperHalf unit then (some unit, content)
    else (none, content.push (String.utf8EncodeChar (Char.ofNat unit)))

/-- Read a string after its opening quote, or after an upper half that is pending. -/
def scanString (pending : Option Nat) (content : Content) :
    List UInt8 → Quotation × Option (List UInt8)
  | [] => (content.stop .stringCut, none)
  | b :: rest =>
    if b = 0x5C then
      match rest with
      | [] => (content.stop .stringCut, none)
      | e :: rest =>
        if e = 0x75 then
          match rest with
          | h₁ :: h₂ :: h₃ :: h₄ :: rest =>
            match hexWord? h₁ h₂ h₃ h₄ with
            | none => (content.stop .badEscape, none)
            | some unit =>
              let (pending, content) := content.pushUnit pending unit
              scanString pending content rest
          | _ => (content.stop .stringCut, none)
        else
          match plainEscape? e with
          | some byte => scanString none ((content.settle pending).push [byte]) rest
          | none => ((content.settle pending).stop .badEscape, none)
    else if b = 0x22 then ((content.settle pending).close, some rest)
    else if b < 0x20 then ((content.settle pending).stop .controlCharacter, none)
    else scanString none ((content.settle pending).push [b]) rest

def isDigit (b : UInt8) : Bool := 0x30 ≤ b && b ≤ 0x39

def digitValue (b : UInt8) : Nat := b.toNat - 48

structure Numeral where
  negative : Bool
  whole : List UInt8
  fraction : Option (List UInt8)
  exponent : Option (Bool × List UInt8)

/-- Append digits to a significand while it fits 64 bits; also the number of digits taken and of
those left. -/
def absorb (significand : Nat) : List UInt8 → Nat × Nat × Nat
  | [] => (significand, 0, 0)
  | d :: digits =>
    let next := significand * 10 + digitValue d
    if next < UInt64.size then
      let (result, taken, left) := absorb next digits
      (result, taken + 1, left)
    else (significand, 0, (d :: digits).length)

/-- Scale a double by a power of ten, in steps of the powers that doubles hold. A number too large
for a double has no value; ten steps down leave zero of any double. -/
def scale? : Nat → Float → Int → Option Float
  | 0, x, _ => some x
  | fuel + 1, x, exponent =>
    if exponent.natAbs ≤ 308 then
      let power := Float.ofScientific 1 false exponent.natAbs
      if 0 ≤ exponent then
        let y := x * power
        if y.isInf then none else some y
      else some (x / power)
    else if x == 0 then some x
    else if 0 ≤ exponent then none
    else scale? fuel (x / Float.ofScientific 1 false 308) (exponent + 308)

def float? (negative : Bool) (significand : Nat) (exponent : Int) : Option Float :=
  (scale? 10 significand.toUInt64.toFloat exponent).map fun x => if negative then -x else x

/-- The value of a number's text: an integer if it has neither fraction nor exponent and fits 64
bits, except that there is no integer -0. -/
def Numeral.value (n : Numeral) : Except Fault Number :=
  let (significand, _, dropped) := absorb 0 n.whole
  let ofFloat := fun (x : Option Float) =>
    match x with
    | some x => .ok (.float x)
    | none => .error .numberTooLarge
  let scaled := fun (significand : Nat) (start : Int) =>
    match n.exponent with
    | none => ofFloat (float? n.negative significand start)
    | some (negative, digits) =>
      let size := digits.foldl (fun value d => value * 10 + digitValue d) 0
      if size < Nat.pow 2 31 then
        let exponent := if negative then start - size else start + size
        ofFloat (float? n.negative significand exponent)
      else if significand != 0 && !negative then .error .numberTooLarge
      else .ok (.float (if n.negative then -0.0 else 0.0))
  match n.fraction, n.exponent with
  | none, none =>
    if dropped = 0 then
      if n.negative then
        if 0 < significand && significand ≤ Nat.pow 2 63 then .ok (.integer (-(significand : Int)))
        else .ok (.float (-significand.toUInt64.toFloat))
      else .ok (.integer significand)
    else scaled significand dropped
  | none, some _ => scaled significand dropped
  | some fraction, _ =>
    let (significand, taken, _) := absorb significand fraction
    scaled significand ((dropped : Int) - taken)

/-- A value that is no number although it begins like one. At the end of the text a reader who wants
it misses digits, and one who skips it sees a bad number. -/
def badNumber (rest : List UInt8) : Outline × Option (List UInt8) :=
  (.broken (if rest.isEmpty then .valueCut else .badNumber) .badNumber, none)

/-- Read a number's exponent, if there is one, and finish the number. -/
def scanExponent (n : Numeral) (bytes : List UInt8) : Outline × Option (List UInt8) :=
  match bytes with
  | [] => (.number n.value, some [])
  | e :: rest =>
    if e = 0x65 || e = 0x45 then
      let (negative, rest) := match rest with
        | [] => (false, rest)
        | sign :: after =>
          if sign = 0x2B then (false, after)
          else if sign = 0x2D then (true, after)
          else (false, rest)
      let digits := rest.takeWhile isDigit
      let after := rest.dropWhile isDigit
      if digits.isEmpty then badNumber rest
      else (.number { n with exponent := some (negative, digits) }.value, some after)
    else (.number n.value, some bytes)

/-- Read a number's fraction, if there is one, and what follows it. -/
def scanFraction (n : Numeral) (bytes : List UInt8) : Outline × Option (List UInt8) :=
  match bytes with
  | [] => (.number n.value, some [])
  | point :: rest =>
    if point = 0x2E then
      let digits := rest.takeWhile isDigit
      let after := rest.dropWhile isDigit
      if digits.isEmpty then badNumber rest
      else scanExponent { n with fraction := some digits } after
    else scanExponent n bytes

def scanNumber (negative : Bool) (bytes : List UInt8) : Outline × Option (List UInt8) :=
  let digits := bytes.takeWhile isDigit
  let after := bytes.dropWhile isDigit
  match digits with
  | [] => badNumber bytes
  | first :: more =>
    if first = 0x30 && !more.isEmpty then (.broken .badNumber .badNumber, none)
    else scanFraction ⟨negative, digits, none, none⟩ after

def scanWord (value : Outline) : List UInt8 → List UInt8 → Outline × Option (List UInt8)
  | [], bytes => (value, some bytes)
  | _ :: _, [] => (.broken .valueCut .valueCut, none)
  | w :: word, b :: bytes =>
    if b = w then scanWord value word bytes else (.broken .wordExpected .wordExpected, none)

mutual

/-- Read one value; `fuel` bounds the number of steps. -/
def scanValue : Nat → List UInt8 → Outline × Option (List UInt8)
  | 0, _ => (.broken .tooDeep .tooDeep, none)
  | fuel + 1, bytes =>
    match skipBlanks bytes with
    | [] => (.broken .valueCut .valueCut, none)
    | b :: rest =>
      if b = 0x22 then
        let (text, rest) := scanString none (.ok []) rest
        (.string text, rest)
      else if b = 0x5B then
        let (items, ending, rest) := scanItems fuel true rest
        (.list items ending, rest)
      else if b = 0x7B then
        let (members, ending, rest) := scanMembers fuel true rest
        (.object members ending, rest)
      else if b = 0x6E then scanWord .null [0x75, 0x6C, 0x6C] rest
      else if b = 0x74 then scanWord (.bool true) [0x72, 0x75, 0x65] rest
      else if b = 0x66 then scanWord (.bool false) [0x61, 0x6C, 0x73, 0x65] rest
      else if b = 0x2D then scanNumber true rest
      else if isDigit b then scanNumber false (b :: rest)
      else (.broken .valueExpected .valueExpected, none)

/-- Read the items of a list up to its end, `first` telling whether one may follow at once. -/
def scanItems : Nat → Bool → List UInt8 → List Outline × Ending × Option (List UInt8)
  | 0, _, _ => ([], .cut, none)
  | fuel + 1, first, bytes =>
    match skipBlanks bytes with
    | [] => ([], .cut, none)
    | b :: rest =>
      if b = 0x5D then ([], .closed, some rest)
      else if first then scanItem fuel (b :: rest)
      else if b = 0x2C then
        match skipBlanks rest with
        | [] => ([], .cutAfterComma, none)
        | c :: rest => if c = 0x5D then ([], .danglingComma, none) else scanItem fuel (c :: rest)
      else ([], .unseparated, none)

def scanItem : Nat → List UInt8 → List Outline × Ending × Option (List UInt8)
  | 0, _ => ([], .cut, none)
  | fuel + 1, bytes =>
    match scanValue fuel bytes with
    | (item, none) => ([item], .cut, none)
    | (item, some rest) =>
      let (items, ending, rest) := scanItems fuel false rest
      (item :: items, ending, rest)

/-- Read the members of an object up to its end, `first` telling whether one may follow at once. -/
def scanMembers : Nat → Bool → List UInt8 →
    List (Quotation × Outline) × Ending × Option (List UInt8)
  | 0, _, _ => ([], .cut, none)
  | fuel + 1, first, bytes =>
    match skipBlanks bytes with
    | [] => ([], .cut, none)
    | b :: rest =>
      if b = 0x7D then ([], .closed, some rest)
      else if first then
        if b = 0x22 then scanMember fuel rest else ([], .keyMissing, none)
      else if b = 0x2C then
        match skipBlanks rest with
        | [] => ([], .cutAfterComma, none)
        | c :: rest =>
          if c = 0x7D then ([], .danglingComma, none)
          else if c = 0x22 then scanMember fuel rest
          else ([], .keyMissing, none)
      else ([], .unseparated, none)

/-- Read a member of an object after its opening quote, and all that follow it. -/
def scanMember : Nat → List UInt8 → List (Quotation × Outline) × Ending × Option (List UInt8)
  | 0, _ => ([], .cut, none)
  | fuel + 1, bytes =>
    match scanString none (.ok []) bytes with
    | (key, none) => ([(key, .broken .stringCut .stringCut)], .cut, none)
    | (key, some rest) =>
      match skipBlanks rest with
      | [] => ([(key, .broken .objectCut .objectCut)], .cut, none)
      | b :: rest =>
        if b = 0x3A then
          match scanValue fuel rest with
          | (value, none) => ([(key, value)], .cut, none)
          | (value, some rest) =>
            let (members, ending, rest) := scanMembers fuel false rest
            ((key, value) :: members, ending, rest)
        else ([(key, .broken .colonExpected .colonExpected)], .cut, none)

end

/-- The outline of a text's value, and whether more than white space follows it. -/
structure Sheet where
  outline : Outline
  trailing : Bool

/-- Read a whole text. A step takes a byte at least every third time. -/
def Sheet.ofBytes (bytes : List UInt8) : Sheet :=
  match scanValue (3 * bytes.length + 3) bytes with
  | (outline, none) => ⟨outline, false⟩
  | (outline, some rest) => ⟨outline, !(skipBlanks rest).isEmpty⟩

def parse (bytes : List UInt8) : Except Fault Json := do
  let sheet := Sheet.ofBytes bytes
  let value ← sheet.outline.value Outline.depthLimit
  if sheet.trailing then .error .trailingText else .ok value

end Provision.Json
