/-!
Punycode: labels with characters beyond ASCII, written with ASCII letters, digits and hyphens. The
ASCII characters come first; each other character is inserted in order of code points, by a number
in a mixed base that adapts to the sizes seen before.
-/
namespace Provision.Url.Punycode

/-- The digit at a position whose threshold is given by the bias. -/
def threshold (bias position : Nat) : Nat :=
  if position ≤ bias + 1 then 1 else if position ≥ bias + 26 then 26 else position - bias

/-- Halve a delta until it is small; the number of divisions gives the new bias. -/
def settle : Nat → Nat → Nat → Nat
  | 0, steps, _ => steps
  | fuel + 1, steps, delta =>
    if delta > 455 then settle fuel (steps + 36) (delta / 35) else steps + 36 * delta / (delta + 38)

def adapt (delta points : Nat) (first : Bool) : Nat :=
  let delta := if first then delta / 700 else delta / 2
  settle 64 0 (delta + delta / points)

def digitChar (digit : Nat) : Char :=
  if digit < 26 then Char.ofNat (97 + digit) else Char.ofNat (22 + digit)

def digit? (c : Char) : Option Nat :=
  if 'a' ≤ c && c ≤ 'z' then some (c.toNat - 97)
  else if 'A' ≤ c && c ≤ 'Z' then some (c.toNat - 65)
  else if '0' ≤ c && c ≤ '9' then some (c.toNat - 22)
  else none

/-- A number in the mixed base, least digit first. -/
def encodeNumber (bias : Nat) : Nat → Nat → Nat → List Char
  | 0, _, _ => []
  | fuel + 1, position, n =>
    let t := threshold bias position
    if n < t then [digitChar n]
    else digitChar (t + (n - t) % (36 - t)) ::
      encodeNumber bias fuel (position + 36) ((n - t) / (36 - t))

/-- The state of the encoder: the delta since the last insertion, the bias, the number of
characters handled, and the output. -/
structure Progress where
  delta : Nat
  bias : Nat
  handled : Nat
  output : List Char

/-- Go once over the label, inserting the character of the given code point. -/
def insertAll (basic code : Nat) (label : List Char) (start : Progress) : Progress :=
  label.foldl (fun p c =>
    if c.toNat < code then { p with delta := p.delta + 1 }
    else if c.toNat = code then
      { delta := 0
        bias := adapt p.delta (p.handled + 1) (p.handled == basic)
        handled := p.handled + 1
        output := p.output ++ encodeNumber p.bias 64 36 p.delta }
    else p) start

/-- Insert the characters beyond ASCII, from the least code point on. -/
def encodeFrom (label : List Char) (basic : Nat) : Nat → Nat → Progress → List Char
  | 0, _, p => p.output
  | fuel + 1, code, p =>
    match (label.filterMap fun c => if c.toNat ≥ code then some c.toNat else none).min? with
    | none => p.output
    | some least =>
      let before := { p with delta := p.delta + (least - code) * (p.handled + 1) }
      let after := insertAll basic least label before
      encodeFrom label basic fuel (least + 1) { after with delta := after.delta + 1 }

def encode (label : List Char) : List Char :=
  let basic := label.filter fun c => c.toNat < 128
  let start := if basic.isEmpty then [] else basic ++ ['-']
  encodeFrom label basic.length (label.length + 1) 128 ⟨0, 72, basic.length, start⟩

/-- Read a number in the mixed base: its value and the text after it. -/
def decodeNumber? (bias : Nat) : Nat → Nat → Nat → List Char → Option (Nat × List Char)
  | _, _, _, [] => none
  | position, weight, value, c :: rest => do
    let digit ← digit? c
    let value := value + digit * weight
    if value ≥ UInt32.size then none
    let t := threshold bias position
    if digit < t then some (value, rest)
    else decodeNumber? bias (position + 36) (weight * (36 - t)) value rest

/-- Insert characters into a label as the numbers of a text say. -/
def decodeFrom? : Nat → Nat → Nat → Nat → List Char → List Char → Option (List Char)
  | 0, _, _, _, label, _ => some label
  | _ + 1, _, _, _, label, [] => some label
  | fuel + 1, code, index, bias, label, text => do
    let (delta, rest) ← decodeNumber? bias 36 1 0 text
    let size := label.length + 1
    let index' := index + delta
    let code := code + index' / size
    let place := index' % size
    if code.isValidChar then
      decodeFrom? fuel code (place + 1) (adapt delta size (index == 0))
        (label.take place ++ Char.ofNat code :: label.drop place) rest
    else none

/-- The label of a Punycode text. What stands before the last hyphen is kept; if that is nothing,
the hyphen divides nothing, and it is no digit either. -/
def decode? (text : List Char) : Option (List Char) :=
  let backwards := text.reverse
  let basic := (backwards.dropWhile (· != '-')).drop 1 |>.reverse
  let digits := if basic.isEmpty then text else (backwards.takeWhile (· != '-')).reverse
  if text.all fun c => c.toNat < 128 then decodeFrom? (text.length + 1) 128 0 72 basic digits
  else none

end Provision.Url.Punycode
