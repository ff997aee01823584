import Provision.Text.Hex
import Provision.Text.Utf8

namespace Provision.Url

def isControl (c : Char) : Bool := c.toNat < 0x20 || c.toNat == 0x7F

def inFragmentSet (c : Char) : Bool := isControl c || [' ', '"', '<', '>', '`'].contains c

def inPathSet (c : Char) : Bool := inFragmentSet c || ['#', '?', '\x7b', '\x7d'].contains c

def inUserinfoSet (c : Char) : Bool :=
  inPathSet c || ['/', ':', ';', '=', '@', '[', '\\', ']', '^', '|'].contains c

def inQuerySet (c : Char) : Bool := isControl c || [' ', '"', '#', '<', '>'].contains c

def inSpecialQuerySet (c : Char) : Bool := inQuerySet c || c == '\''

def encodeByte (b : UInt8) : List Char :=
  ['%', Text.Hex.upperDigit (Text.Hex.high b), Text.Hex.upperDigit (Text.Hex.low b)]

def percentEncode (inSet : Char → Bool) (text : List Char) : List Char :=
  text.flatMap fun c =>
    if c.toNat < 0x80 && !inSet c then [c] else (String.utf8EncodeChar c).flatMap encodeByte

/-- Replace each percent sign with two hexadecimal digits by the byte they stand for. -/
def percentDecode : List UInt8 → List UInt8
  | [] => []
  | b :: rest =>
    if b = 0x25 then
      match rest with
      | h :: l :: rest' =>
        match Text.Hex.value? (Char.ofNat h.toNat), Text.Hex.value? (Char.ofNat l.toNat) with
        | some h, some l => (h.val * 16 + l.val).toUInt8 :: percentDecode rest'
        | _, _ => b :: percentDecode (h :: l :: rest')
      | rest => b :: percentDecode rest
    else b :: percentDecode rest
termination_by structural bytes => bytes

end Provision.Url
