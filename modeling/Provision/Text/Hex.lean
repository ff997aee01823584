namespace Provision.Text.Hex

def value? (c : Char) : Option (Fin 16) :=
  let n := c.toNat
  if h : 48 ≤ n ∧ n ≤ 57 then some ⟨n - 48, by omega⟩
  else if h : 97 ≤ n ∧ n ≤ 102 then some ⟨n - 87, by omega⟩
  else if h : 65 ≤ n ∧ n ≤ 70 then some ⟨n - 55, by omega⟩
  else none

def number? (digits : List Char) : Option Nat :=
  (digits.mapM value?).map fun values => values.foldl (fun number digit => number * 16 + digit.val) 0

def lowerDigit (value : Fin 16) : Char :=
  if value.val < 10 then Char.ofNat (48 + value.val) else Char.ofNat (87 + value.val)

def upperDigit (value : Fin 16) : Char :=
  if value.val < 10 then Char.ofNat (48 + value.val) else Char.ofNat (55 + value.val)

def high (b : UInt8) : Fin 16 := ⟨b.toNat / 16, by have := b.toNat_lt; omega⟩

def low (b : UInt8) : Fin 16 := ⟨b.toNat % 16, by omega⟩

/-- A natural number in hexadecimal without leading zeros, within `fuel` digits. -/
def digits (fuel : Nat) (n : Nat) : List Char :=
  match fuel with
  | 0 => []
  | fuel + 1 =>
    let last := lowerDigit ⟨n % 16, by omega⟩
    if n < 16 then [last] else digits fuel (n / 16) ++ [last]

end Provision.Text.Hex
