/-!
The shortest decimal that reads back as a given double. A positive double is `m * 2 ^ q`; the reals
that round to it form an interval, and the result is the multiple of the largest power of ten that
lies in the interval, the nearest one if several do.
-/
namespace Provision.Decimal

/-- A finite double without its sign: `mantissa * 2 ^ exponent`. -/
structure Binary where
  mantissa : Nat
  exponent : Int
deriving DecidableEq

def Binary.ofBits (bits : UInt64) : Binary :=
  let fraction : Nat := bits.toNat % Nat.pow 2 52
  let biased : Nat := bits.toNat / Nat.pow 2 52 % 2048
  if biased = 0 then ⟨fraction, -1074⟩
  else ⟨Nat.pow 2 52 + fraction, (biased : Int) - 1075⟩

/-- A decimal number: `digits * 10 ^ exponent`. -/
structure Scaled where
  digits : Nat
  exponent : Int
deriving DecidableEq

/-- The reals that round to a double, all over one denominator: the value, the two ends of the
interval, and whether the ends belong to it. -/
structure Interval where
  value : Nat
  lower : Nat
  upper : Nat
  scale : Nat
  closed : Bool

/-- The interval of a positive double. Below a power of two the gap is half as wide. -/
def Binary.interval (x : Binary) : Interval :=
  let narrow := x.mantissa = Nat.pow 2 52 && decide (-1074 < x.exponent)
  let unit := Nat.pow 2 x.exponent.toNat
  let scale := 4 * Nat.pow 2 (-x.exponent).toNat
  { value := 4 * x.mantissa * unit
    lower := (4 * x.mantissa - (if narrow then 1 else 2)) * unit
    upper := (4 * x.mantissa + 2) * unit
    scale
    closed := x.mantissa % 2 = 0 }

/-- Whether `numerator / denominator` lies in the interval. -/
def Interval.contains (i : Interval) (numerator denominator : Nat) : Bool :=
  let low := i.lower * denominator
  let high := i.upper * denominator
  let point := numerator * i.scale
  if i.closed then low ≤ point && point ≤ high else low < point && point < high

/-- The better of the two multiples of `10 ^ k` next to the value, if one lies in the interval. -/
def Interval.onGrid? (i : Interval) (k : Int) : Option Nat :=
  let up := Nat.pow 10 k.toNat
  let down := Nat.pow 10 (-k).toNat
  let floor := i.value * down / (i.scale * up)
  let below := i.contains (floor * up) down
  let above := i.contains ((floor + 1) * up) down
  if below && above then
    let twice := 2 * (i.value * down)
    let middle := (2 * floor + 1) * i.scale * up
    if twice < middle || (twice == middle && floor % 2 == 0) then some floor else some (floor + 1)
  else if below then some floor
  else if above then some (floor + 1)
  else none

/-- Try the grids from `10 ^ k` downwards; the first hit has the fewest digits. -/
def Interval.search (i : Interval) : Nat → Int → Option Scaled
  | 0, _ => none
  | fuel + 1, k =>
    match i.onGrid? k with
    | some n => some ⟨n, k⟩
    | none => i.search fuel (k - 1)

/-- Remove the zeros a number ends with, at most `fuel` of them. -/
def Scaled.trim : Nat → Scaled → Scaled
  | 0, x => x
  | fuel + 1, x =>
    if x.digits % 10 = 0 && x.digits != 0 then Scaled.trim fuel ⟨x.digits / 10, x.exponent + 1⟩
    else x

/-- The shortest decimal of a positive double. No double needs more than 17 digits, and none
exceeds `10 ^ 309`. -/
def shortest (bits : UInt64) : Scaled :=
  let i := (Binary.ofBits bits).interval
  ((i.search 700 309).getD ⟨0, 0⟩).trim 20

/-- The decimal digits of a number, most significant first. -/
def digits (n : Nat) : List Char := Nat.toDigits 10 n

/-- How decimals are laid out: the exponents (of the first digit) written without an exponent mark,
and the least number of digits in an exponent. -/
structure Layout where
  positionalFrom : Int
  positionalTo : Int
  exponentDigits : Nat

def padded (width n : Nat) : List Char :=
  let ds := digits n
  List.replicate (width - ds.length) '0' ++ ds

/-- Lay out a positive decimal: always a fraction part in positional form, always a sign in an
exponent. -/
def Layout.render (layout : Layout) (x : Scaled) : List Char :=
  let ds := digits x.digits
  let first : Int := x.exponent + (ds.length : Int) - 1
  if layout.positionalFrom ≤ first && first ≤ layout.positionalTo then
    if x.exponent ≥ 0 then ds ++ List.replicate x.exponent.toNat '0' ++ ['.', '0']
    else if first ≥ 0 then
      let whole := (first + 1).toNat
      ds.take whole ++ ['.'] ++ ds.drop whole
    else ['0', '.'] ++ List.replicate (-first - 1).toNat '0' ++ ds
  else
    let mantissa := match ds with
      | [] => []
      | [d] => [d]
      | d :: rest => d :: '.' :: rest
    mantissa ++ ['e', if first < 0 then '-' else '+'] ++ padded layout.exponentDigits first.natAbs

/-- Doubles in JSON text: positional from `10 ^ -5` up to below `10 ^ 16`, and an exponent has two
digits at least. -/
def jsonLayout : Layout := ⟨-5, 15, 2⟩

def render (x : Float) : List Char :=
  let bits := x.toBits
  let magnitude : UInt64 := bits % 0x8000000000000000
  let sign := if bits = magnitude then [] else ['-']
  if magnitude = 0 then sign ++ ['0', '.', '0'] else sign ++ jsonLayout.render (shortest magnitude)

end Provision.Decimal
