namespace Provision

structure Duration where
  nanoseconds : Nat
  bounded : nanoseconds < UInt64.size * 1000000000
deriving DecidableEq

namespace Duration

def ofSeconds (n : UInt64) : Duration := ⟨n.toNat * 1000000000, by have := n.toNat_lt_size; omega⟩

def ofMilliseconds (n : UInt64) : Duration := ⟨n.toNat * 1000000, by have := n.toNat_lt_size; omega⟩

def ofMicroseconds (n : UInt64) : Duration := ⟨n.toNat * 1000, by have := n.toNat_lt_size; omega⟩

def milliseconds (d : Duration) : Nat := d.nanoseconds / 1000000

end Duration

end Provision
