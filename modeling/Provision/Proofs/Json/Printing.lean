import Provision.Json.Printer
import Provision.Proofs.Json.Buffering
import Provision.Proofs.Text.Digits

namespace Provision.Json

open Syntax

section Digits

private def byte (c : Char) : UInt8 := UInt8.ofNat c.toNat

private theorem toNat_byte {c : Char} (digit : c.isDigit = true) : (byte c).toNat = c.toNat := by
  have bounds := Text.isDigit_toNat digit
  simp only [byte, UInt8.toNat_ofNat']
  omega

private theorem isDigit_byte {c : Char} (digit : c.isDigit = true) : isDigit (byte c) = true := by
  have bounds := Text.isDigit_toNat digit
  simp only [isDigit, UInt8.le_iff_toNat_le, toNat_byte digit, UInt8.reduceToNat, Bool.and_eq_true,
    decide_eq_true_eq]
  exact bounds

private theorem encode_digits {chars : List Char} (digits : ∀ c ∈ chars, c.isDigit = true) :
    chars.flatMap String.utf8EncodeChar = chars.map byte := by
  induction chars with
  | nil => rfl
  | cons c chars ih =>
    obtain ⟨digit, digits⟩ := List.forall_mem_cons.mp digits
    have bounds := Text.isDigit_toNat digit
    rw [List.flatMap_cons, Text.Utf8.encode_of_lt (by omega), ih digits]
    rfl

private def total (start : Nat) (digits : List UInt8) : Nat :=
  digits.foldl (fun value d => value * 10 + digitValue d) start

private theorem le_total (digits : List UInt8) (start : Nat) : start ≤ total start digits := by
  induction digits generalizing start with
  | nil => exact Nat.le_refl _
  | cons d digits ih =>
    have later := ih (start * 10 + digitValue d)
    change start ≤ total (start * 10 + digitValue d) digits
    omega

private theorem absorb_eq {digits : List UInt8} {start : Nat}
    (fits : total start digits < UInt64.size) :
    absorb start digits = (total start digits, digits.length, 0) := by
  induction digits generalizing start with
  | nil => rfl
  | cons d digits ih =>
    have next : start * 10 + digitValue d < UInt64.size :=
      Nat.lt_of_le_of_lt (le_total digits _) fits
    rw [absorb, if_pos next, ih fits]
    rfl

private theorem total_bytes {chars : List Char} (digits : ∀ c ∈ chars, c.isDigit = true)
    (start : Nat) : total start (chars.map byte) = Nat.ofDigitChars 10 chars start := by
  induction chars generalizing start with
  | nil => simp [total]
  | cons c chars ih =>
    obtain ⟨digit, digits⟩ := List.forall_mem_cons.mp digits
    rw [Nat.ofDigitChars_cons, ← ih digits, Nat.mul_comm 10]
    change total (start * 10 + ((byte c).toNat - 48)) _ = _
    rw [toNat_byte digit]
    rfl

private def digitsOf (n : Nat) : Digits where
  bytes := (Nat.toDigits 10 n).map byte
  nonempty := by simp [Nat.toDigits_ne_nil]
  isDigit b member := by
    obtain ⟨c, present, rfl⟩ := List.mem_map.mp member
    exact isDigit_byte (Text.isDigit_of_mem_toDigits present)

private theorem absorb_digitsOf {n : Nat} (fits : n < UInt64.size) :
    absorb 0 (digitsOf n).bytes = (n, (digitsOf n).bytes.length, 0) := by
  have same : total 0 (digitsOf n).bytes = n := by
    rw [digitsOf, total_bytes fun c member => Text.isDigit_of_mem_toDigits member]
    exact Nat.ofDigitChars_ten_toDigits
  rw [absorb_eq (same.symm ▸ fits), same]

private theorem unpadded_digitsOf (n : Nat) (zero : (digitsOf n).bytes.head? = some 0x30) :
    (digitsOf n).bytes.tail = [] := by
  obtain ⟨c, digits, first⟩ := List.exists_cons_of_ne_nil (Nat.toDigits_ne_nil (n := n) (b := 10))
  have digit := Text.isDigit_of_mem_toDigits (n := n) (first ▸ List.mem_cons_self : c ∈ _)
  have isZero : c = '0' := by
    simp only [digitsOf, first, List.map_cons, List.head?_cons, Option.some.injEq] at zero
    have same := (toNat_byte digit).symm.trans (congrArg UInt8.toNat zero)
    exact Char.toNat_inj.mp same
  have small : ¬ 0 < n := fun positive =>
    Text.head?_toDigits_ne positive (first ▸ congrArg some isZero)
  rw [Nat.eq_zero_of_not_pos small]
  rfl

private def figureOf (value : Int) : Figure where
  negative := value < 0
  whole := digitsOf value.natAbs
  unpadded := unpadded_digitsOf value.natAbs
  fraction := none
  exponent := none

private theorem bytes_figureOf (value : Int) :
    (figureOf value).bytes = (Number.integer value).render.flatMap String.utf8EncodeChar := by
  have digits : (Nat.toDigits 10 value.natAbs).flatMap String.utf8EncodeChar =
      (figureOf value).unsignedBytes := by
    rw [encode_digits fun c member => Text.isDigit_of_mem_toDigits member]
    simp [Figure.unsignedBytes, figureOf, digitsOf, Figure.fractionBytes, Figure.exponentBytes]
  rw [Figure.bytes, Number.render]
  by_cases negative : value < 0
  · have sign : (figureOf value).negative = true := decide_eq_true negative
    rw [if_pos negative, if_pos sign, List.flatMap_cons, digits]
    rfl
  · have sign : ¬ (figureOf value).negative = true := by simp [figureOf, negative]
    rw [if_neg negative, if_neg sign, digits]

private theorem value_figureOf {value : Int} (least : -(Nat.pow 2 63 : Int) ≤ value)
    (below : value < Nat.pow 2 64) :
    (figureOf value).numeral.value = .ok (.integer value) := by
  have least' : -9223372036854775808 ≤ value := least
  have below' : value < 18446744073709551616 := below
  have read := absorb_digitsOf (n := value.natAbs) (by rw [UInt64.size]; omega)
  have parts : (figureOf value).numeral =
      ⟨value < 0, (digitsOf value.natAbs).bytes, none, none⟩ := rfl
  rw [parts, Numeral.value]
  by_cases negative : value < 0
  · have inRange : 0 < value.natAbs ∧ value.natAbs ≤ Nat.pow 2 63 := by
      change 0 < value.natAbs ∧ value.natAbs ≤ 9223372036854775808
      omega
    have same : -(value.natAbs : Int) = value := by omega
    simp only [read, negative, inRange, decide_true, Bool.and_self, if_true, same]
  · have same : (value.natAbs : Int) = value := by omega
    simp only [read, negative, decide_false, if_true, same]
    rfl

end Digits

section Strings

private def hexDigit (value : Fin 16) : HexDigit where
  byte := byte (Text.Hex.lowerDigit value)
  value := value
  reads := by
    revert value
    decide

private def controlUnit (high low : Fin 16) : CodeUnit :=
  ⟨hexDigit 0, hexDigit 0, hexDigit high, hexDigit low⟩

private theorem encode_lowerDigit (value : Fin 16) :
    String.utf8EncodeChar (Text.Hex.lowerDigit value) = [byte (Text.Hex.lowerDigit value)] := by
  revert value
  decide

/-- Whether a glyph is what the printer writes for a character. -/
private def Shows (glyph : Glyph) (c : Char) : Prop :=
  glyph.bytes = (escapeChar c).flatMap String.utf8EncodeChar ∧
    ∀ literal : Literal, Literal.resolve (glyph :: literal) = literal.resolve.map (c :: ·)

private theorem shows_mark (letter : Mark) (used : letter ≠ .slash) :
    Shows (.mark letter) letter.char := by
  refine ⟨?_, fun _ => rfl⟩
  cases letter with
  | slash => exact absurd rfl used
  | quote => decide
  | backslash => decide
  | backspace => decide
  | formFeed => decide
  | lineFeed => decide
  | carriageReturn => decide
  | tab => decide

private theorem shows_controlUnit {c : Char} (high low : Fin 16) (control : c.toNat < 32)
    (same : high.val * 16 + low.val = c.toNat)
    (escaped : escapeChar c =
      ['\\', 'u', '0', '0', Text.Hex.lowerDigit high, Text.Hex.lowerDigit low]) :
    Shows (.unit (controlUnit high low)) c := by
  constructor
  · rw [escaped]
    simp only [List.flatMap_cons, List.flatMap_nil, encode_lowerDigit]
    rfl
  · intro literal
    have value : (controlUnit high low).value = c.toNat := by
      change ((0 * 16 + 0) * 16 + high.val) * 16 + low.val = c.toNat
      omega
    have upper : isUpperHalf c.toNat = false := by
      simp [isUpperHalf]
      omega
    have lower : isLowerHalf c.toNat = false := by
      simp [isLowerHalf]
      omega
    rw [Literal.resolve, Literal.resolveAfter]
    simp only [value, upper, lower, Char.ofNat_toNat]
    rfl

private theorem exists_shows (c : Char) : ∃ glyph, Shows glyph c := by
  by_cases quote : c = '"'
  · cases quote
    exact ⟨_, shows_mark .quote (by decide)⟩
  by_cases backslash : c = '\\'
  · cases backslash
    exact ⟨_, shows_mark .backslash (by decide)⟩
  have named {n : Nat} (same : c.toNat = n) : c = Char.ofNat n := by
    rw [← same, Char.ofNat_toNat]
  by_cases backspace : c.toNat = 8
  · cases named backspace
    exact ⟨_, shows_mark .backspace (by decide)⟩
  by_cases tab : c.toNat = 9
  · cases named tab
    exact ⟨_, shows_mark .tab (by decide)⟩
  by_cases lineFeed : c.toNat = 10
  · cases named lineFeed
    exact ⟨_, shows_mark .lineFeed (by decide)⟩
  by_cases formFeed : c.toNat = 12
  · cases named formFeed
    exact ⟨_, shows_mark .formFeed (by decide)⟩
  by_cases carriageReturn : c.toNat = 13
  · cases named carriageReturn
    exact ⟨_, shows_mark .carriageReturn (by decide)⟩
  by_cases control : c.toNat < 32
  · refine ⟨_, shows_controlUnit ⟨c.toNat / 16, by omega⟩ ⟨c.toNat % 16, by omega⟩ control
      (Nat.div_add_mod' _ _) ?_⟩
    simp only [escapeChar, quote, backslash, backspace, tab, lineFeed, formFeed, carriageReturn,
      control, if_false, dite_true]
  · refine ⟨.plain c ⟨by omega, quote, backslash⟩, ?_, fun _ => rfl⟩
    simp only [escapeChar, quote, backslash, backspace, tab, lineFeed, formFeed, carriageReturn,
      control, if_false, dite_false]
    exact (List.append_nil _).symm

private theorem exists_literal (chars : List Char) :
    ∃ literal : Literal, literal.bytes = (chars.flatMap escapeChar).flatMap String.utf8EncodeChar ∧
      literal.resolve = .ok chars := by
  induction chars with
  | nil => exact ⟨[], rfl, rfl⟩
  | cons c chars ih =>
    obtain ⟨glyph, bytes, resolves⟩ := exists_shows c
    obtain ⟨literal, others, rest⟩ := ih
    refine ⟨glyph :: literal, ?_, ?_⟩
    · rw [Literal.bytes, List.flatMap_cons, bytes, List.flatMap_cons, List.flatMap_append, ← others]
      rfl
    · rw [resolves, rest]
      rfl

end Strings

mutual

def outline : Json → Outline
  | .null => .null
  | .bool value => .bool value
  | .number value => .number (.ok value)
  | .string text => .string ⟨.ok text, none⟩
  | .list items => .list (outlines items) .closed
  | .object members => .object (memberOutlines members) .closed

def outlines : List Json → List Outline
  | [] => []
  | item :: items => outline item :: outlines items

def memberOutline : String × Json → Quotation × Outline
  | (key, value) => (⟨.ok key, none⟩, outline value)

def memberOutlines : List (String × Json) → List (Quotation × Outline)
  | [] => []
  | member :: members => memberOutline member :: memberOutlines members

end

/-- Whether a number is an integer that fits 64 bits. -/
def Number.IsExact : Number → Prop
  | .integer value => -(Nat.pow 2 63 : Int) ≤ value ∧ value < Nat.pow 2 64
  | .float _ => False

mutual

/-- Whether all numbers in a value are integers that fit 64 bits. -/
def IsExact : Json → Prop
  | .number value => value.IsExact
  | .list items => AreExact items
  | .object members => MembersAreExact members
  | _ => True

/-- Whether all numbers in items are integers that fit 64 bits. -/
def AreExact : List Json → Prop
  | [] => True
  | item :: items => IsExact item ∧ AreExact items

/-- Whether all numbers in a member are integers that fit 64 bits. -/
def MemberIsExact : String × Json → Prop
  | (_, value) => IsExact value

/-- Whether all numbers in members are integers that fit 64 bits. -/
def MembersAreExact : List (String × Json) → Prop
  | [] => True
  | member :: members => MemberIsExact member ∧ MembersAreExact members

end

theorem outlines_eq_map (items : List Json) : outlines items = items.map outline := by
  induction items with
  | nil => rfl
  | cons item items ih => rw [outlines, ih, List.map_cons]

theorem memberOutlines_eq_map (members : List (String × Json)) :
    memberOutlines members =
      members.map fun member => (⟨.ok member.1, none⟩, member.2.outline) := by
  induction members with
  | nil => rfl
  | cons member members ih => rw [memberOutlines, ih, List.map_cons, memberOutline]

theorem areExact_iff (items : List Json) : AreExact items ↔ ∀ item ∈ items, item.IsExact := by
  induction items with
  | nil => simp [AreExact]
  | cons item items ih => rw [AreExact, ih, List.forall_mem_cons]

theorem membersAreExact_iff (members : List (String × Json)) :
    MembersAreExact members ↔ ∀ member ∈ members, member.2.IsExact := by
  induction members with
  | nil => simp [MembersAreExact]
  | cons member members ih =>
    rw [MembersAreExact, ih, List.forall_mem_cons, MemberIsExact]

private theorem exists_quoted (text : String) :
    ∃ literal : Literal, 0x22 :: (literal.bytes ++ [0x22]) =
        (renderString text).flatMap String.utf8EncodeChar ∧
      literal.quotation = ⟨.ok text, none⟩ := by
  obtain ⟨literal, bytes, resolves⟩ := exists_literal text.toList
  refine ⟨literal, ?_, ?_⟩
  · rw [bytes, renderString, List.flatMap_cons, List.flatMap_append]
    rfl
  · rw [Literal.quotation, resolves, Except.map, String.ofList_toList]

private theorem encode_separators :
    String.utf8EncodeChar '[' = [0x5B] ∧ String.utf8EncodeChar ']' = [0x5D] ∧
      String.utf8EncodeChar '\x7b' = [0x7B] ∧ String.utf8EncodeChar '\x7d' = [0x7D] ∧
      String.utf8EncodeChar ',' = [0x2C] ∧ String.utf8EncodeChar ':' = [0x3A] := by
  decide

mutual

/-- A value's text is a text of the grammar with that value's outline. -/
theorem exists_value (json : Json) (exact : json.IsExact) :
    ∃ value : Value, value.bytes = json.render.flatMap String.utf8EncodeChar ∧
      value.outline = json.outline := by
  match json with
  | .null => exact ⟨.null, by decide, rfl⟩
  | .bool true => exact ⟨.bool true, by decide, rfl⟩
  | .bool false => exact ⟨.bool false, by decide, rfl⟩
  | .number (.integer value) =>
    refine ⟨.number (figureOf value), bytes_figureOf value, ?_⟩
    rw [Value.outline, value_figureOf exact.1 exact.2, outline]
  | .number (.float value) => exact exact.elim
  | .string text =>
    obtain ⟨literal, bytes, content⟩ := exists_quoted text
    exact ⟨.string literal, bytes, congrArg Outline.string content⟩
  | .list [] => exact ⟨.list [] [], by decide, rfl⟩
  | .list (item :: items) =>
    obtain ⟨value, own, shape⟩ := exists_value item exact.1
    obtain ⟨docs, others, shapes⟩ := exists_items items exact.2
    refine ⟨.list [] (.mk [] value [] :: docs), ?_, ?_⟩
    · simp [Value.bytes, Blanks.bytes, itemsBytes, comma, Doc.bytes, own, others, render,
        encode_separators]
    · rw [Value.outline, itemsOutline, Doc.outline, shape, shapes, outline, outlines]
  | .object [] => exact ⟨.object [] [], by decide, rfl⟩
  | .object (member :: members) =>
    obtain ⟨first, own, shape⟩ := exists_member member exact.1
    obtain ⟨rest, others, shapes⟩ := exists_members members exact.2
    refine ⟨.object [] (first :: rest), ?_, ?_⟩
    · simp [Value.bytes, Blanks.bytes, membersBytes, comma, own, others, render,
        encode_separators]
    · rw [Value.outline, membersOutline, shape, shapes, outline, memberOutlines]

theorem exists_items (items : List Json) (exact : AreExact items) :
    ∃ docs : List Doc, itemsBytes false docs =
        (renderItems items).flatMap String.utf8EncodeChar ∧
      itemsOutline docs = outlines items := by
  match items with
  | [] => exact ⟨[], rfl, rfl⟩
  | item :: items =>
    obtain ⟨value, own, shape⟩ := exists_value item exact.1
    obtain ⟨docs, others, shapes⟩ := exists_items items exact.2
    refine ⟨.mk [] value [] :: docs, ?_, ?_⟩
    · simp [Blanks.bytes, itemsBytes, comma, Doc.bytes, own, others, renderItems, encode_separators]
    · rw [itemsOutline, Doc.outline, shape, shapes, outlines]

theorem exists_member (member : String × Json) (exact : MemberIsExact member) :
    ∃ written : Member, written.bytes = (renderMember member).flatMap String.utf8EncodeChar ∧
      written.outline = memberOutline member := by
  match member with
  | (key, json) =>
    obtain ⟨literal, name, content⟩ := exists_quoted key
    obtain ⟨value, own, shape⟩ := exists_value json exact
    refine ⟨.mk [] literal [] (.mk [] value []), ?_, ?_⟩
    · simp [Member.bytes, Blanks.bytes, Doc.bytes, own, renderMember, encode_separators, ← name]
    · rw [Member.outline, content, Doc.outline, shape, memberOutline]

theorem exists_members (members : List (String × Json)) (exact : MembersAreExact members) :
    ∃ written : List Member, membersBytes false written =
        (renderMembers members).flatMap String.utf8EncodeChar ∧
      membersOutline written = memberOutlines members := by
  match members with
  | [] => exact ⟨[], rfl, rfl⟩
  | member :: members =>
    obtain ⟨first, own, shape⟩ := exists_member member exact.1
    obtain ⟨rest, others, shapes⟩ := exists_members members exact.2
    refine ⟨first :: rest, ?_, ?_⟩
    · simp [membersBytes, comma, own, others, renderMembers, encode_separators]
    · rw [membersOutline, shape, shapes, memberOutlines]

end

theorem ofBytes_print {json : Json} (exact : json.IsExact) :
    Sheet.ofBytes (Text.utf8 json.print) = ⟨json.outline, false⟩ := by
  obtain ⟨value, bytes, shape⟩ := exists_value json exact
  have whole : Text.utf8 json.print = (Doc.mk [] value []).bytes := by
    rw [print, Text.utf8, String.toList_ofList, ← bytes]
    simp [Doc.bytes, Blanks.bytes]
  rw [whole, ofBytes_doc, Doc.outline, shape]

theorem Codec.decode_print {α : Type} (codec : Codec α) {json : Json} (exact : json.IsExact) :
    codec.decode (Text.utf8 json.print) = codec.read json.outline := by
  rw [decode, ofBytes_print exact]
  cases codec.read json.outline <;> rfl

end Provision.Json
