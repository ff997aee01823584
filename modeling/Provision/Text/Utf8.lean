/-!
UTF-8. `decode` cuts bytes into characters and ill-formed pieces; a strict reader refuses the pieces
and a lenient one shows each as the replacement character.
-/
namespace Provision.Text

def utf8 (text : String) : List UInt8 := text.toList.flatMap String.utf8EncodeChar

namespace Utf8

/-- The bytes that may follow another within one character. -/
def isContinuation (b : UInt8) : Bool := 0x80 ≤ b && b ≤ 0xBF

/-- The second bytes that a three-byte character may have after its first byte. -/
def isSecondOfThree (first second : UInt8) : Bool :=
  if first = 0xE0 then 0xA0 ≤ second && second ≤ 0xBF
  else if first = 0xED then 0x80 ≤ second && second ≤ 0x9F
  else isContinuation second

/-- The second bytes that a four-byte character may have after its first byte. -/
def isSecondOfFour (first second : UInt8) : Bool :=
  if first = 0xF0 then 0x90 ≤ second && second ≤ 0xBF
  else if first = 0xF4 then 0x80 ≤ second && second ≤ 0x8F
  else isContinuation second

def tail (b : UInt8) : Nat := b.toNat % 64

/-- Cut bytes into characters and, as `none`, the longest pieces that begin a character but do not
complete it, or that cannot begin one. -/
def decode : List UInt8 → List (Option Char)
  | [] => []
  | a :: rest =>
    if a < 0x80 then some (Char.ofNat a.toNat) :: decode rest
    else if 0xC2 ≤ a && a ≤ 0xDF then
      match rest with
      | b :: rest' =>
        if isContinuation b then some (Char.ofNat (a.toNat % 32 * 64 + tail b)) :: decode rest'
        else none :: decode (b :: rest')
      | [] => [none]
    else if 0xE0 ≤ a && a ≤ 0xEF then
      match rest with
      | b :: rest' =>
        if isSecondOfThree a b then
          match rest' with
          | c :: rest'' =>
            if isContinuation c then
              some (Char.ofNat ((a.toNat % 16 * 64 + tail b) * 64 + tail c)) :: decode rest''
            else none :: decode (c :: rest'')
          | [] => [none]
        else none :: decode (b :: rest')
      | [] => [none]
    else if 0xF0 ≤ a && a ≤ 0xF4 then
      match rest with
      | b :: rest' =>
        if isSecondOfFour a b then
          match rest' with
          | c :: rest'' =>
            if isContinuation c then
              match rest'' with
              | d :: rest''' =>
                if isContinuation d then
                  some (Char.ofNat (((a.toNat % 8 * 64 + tail b) * 64 + tail c) * 64 + tail d)) ::
                    decode rest'''
                else none :: decode (d :: rest''')
              | [] => [none]
            else none :: decode (c :: rest'')
          | [] => [none]
        else none :: decode (b :: rest')
      | [] => [none]
    else none :: decode rest

def text? (bytes : List UInt8) : Option String := ((decode bytes).mapM id).map String.ofList

/-- The text of any bytes, with U+FFFD for each ill-formed piece. -/
def lossy (bytes : List UInt8) : String :=
  String.ofList ((decode bytes).map fun piece => piece.getD '\uFFFD')

end Utf8

end Provision.Text
