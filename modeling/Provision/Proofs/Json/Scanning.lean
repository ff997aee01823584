import Provision.Json.Codec
import Provision.Proofs.Json.Syntax
import Provision.Proofs.Text.Utf8

/-!
Reading texts by their grammar. From the bytes of a tree of syntax exactly its outline is read, and
nothing of what follows is taken.
-/
namespace Provision.Json

open Syntax

theorem hexWord?_unit (code : CodeUnit) :
    hexWord? code.first.byte code.second.byte code.third.byte code.fourth.byte =
      some code.value := by
  simp [hexWord?, code.first.reads, code.second.reads, code.third.reads, code.fourth.reads,
    CodeUnit.value]

namespace Content

variable (content : Content) (pending : Option Nat) (literal : Literal)

theorem push_append (first second : List UInt8) :
    (content.push first).push second = content.push (first ++ second) := by
  cases content <;> simp [push, Except.map]

def after : Content :=
  content.bind fun before => (literal.resolveAfter pending).map fun chars =>
    (chars.flatMap String.utf8EncodeChar).reverse ++ before

theorem after_nil : content.after pending [] = content.settle pending := by
  cases content <;> cases pending <;> rfl

theorem after_spoil (fault : Fault) :
    (content.spoil fault).after pending literal = content.spoil fault := by
  cases content <;> rfl

theorem after_push (c : Char) :
    (content.push (String.utf8EncodeChar c)).after none literal =
      content.bind fun before => ((literal.resolveAfter none).map (c :: ·)).map fun chars =>
        (chars.flatMap String.utf8EncodeChar).reverse ++ before := by
  cases content with
  | error fault => rfl
  | ok before =>
    cases resolved : literal.resolveAfter none <;>
      simp [after, push, resolved, Except.map, Except.bind]

/-- A character that stands by itself counts unless an upper half is pending. -/
theorem after_settle (c : Char) (glyph : Glyph)
    (stands : Literal.resolveAfter pending (glyph :: literal) =
      if pending.isSome then .error .surrogateCut
      else (literal.resolveAfter none).map (c :: ·)) :
    ((content.settle pending).push (String.utf8EncodeChar c)).after none literal =
      content.after pending (glyph :: literal) := by
  rw [after_push]
  cases pending with
  | none => simp [settle, after, stands]
  | some upper => cases content <;> simp [settle, spoil, after, stands, Except.bind, Except.map]

theorem after_pushUnit (code : CodeUnit) :
    (content.pushUnit pending code.value).2.after (content.pushUnit pending code.value).1 literal =
      content.after pending (.unit code :: literal) := by
  have spoilt (fault : Fault) : content.spoil fault =
      content.bind fun before => Except.map (fun chars =>
        (List.flatMap String.utf8EncodeChar chars).reverse ++ before) (.error fault) := by
    cases content <;> rfl
  cases pending with
  | some upper =>
    by_cases lower : isLowerHalf code.value
    · simp only [pushUnit, lower, if_true, after_push]
      simp only [after, Literal.resolveAfter, lower, if_true]
    · simp only [pushUnit, lower, if_false, after_spoil, Bool.false_eq_true]
      simp only [after, Literal.resolveAfter, lower, if_false, spoilt, Bool.false_eq_true]
  | none =>
    by_cases lower : isLowerHalf code.value
    · simp only [pushUnit, lower, if_true, after_spoil]
      simp only [after, Literal.resolveAfter, lower, if_true, spoilt]
    by_cases upper : isUpperHalf code.value
    · simp only [pushUnit, lower, upper, if_true, if_false, Bool.false_eq_true]
      simp only [after, Literal.resolveAfter, lower, upper, if_true, if_false, Bool.false_eq_true]
    · simp only [pushUnit, lower, upper, if_false, after_push, Bool.false_eq_true]
      simp only [after, Literal.resolveAfter, lower, upper, if_false, Bool.false_eq_true]

end Content

def IsPlainByte (b : UInt8) : Prop := b ≠ 0x5C ∧ b ≠ 0x22 ∧ ¬ b < 0x20

theorem isPlainByte_of_mem {c : Char} (visible : IsPlain c) {b : UInt8}
    (member : b ∈ String.utf8EncodeChar c) : IsPlainByte b := by
  by_cases ascii : c.toNat < 0x80
  · rw [Text.Utf8.encode_of_lt ascii] at member
    cases List.mem_singleton.mp member
    obtain ⟨visible, quote, backslash⟩ := visible
    have small : (UInt8.ofNat c.toNat).toNat = c.toNat := by
      simp [UInt8.toNat_ofNat', Nat.mod_eq_of_lt (show c.toNat < 256 by omega)]
    have other {d : Char} (ne : c ≠ d) : c.toNat ≠ d.toNat := fun same =>
      ne (Char.toNat_inj.mp same)
    refine ⟨?_, ?_, ?_⟩
    · rw [ne_eq, ← UInt8.toNat_inj, small]
      exact other backslash
    · rw [ne_eq, ← UInt8.toNat_inj, small]
      exact other quote
    · rw [UInt8.lt_iff_toNat_lt, small]
      exact Nat.not_lt_of_le visible
  · have high := Text.Utf8.ge_of_mem_encode ascii member
    refine ⟨?_, ?_, ?_⟩
    · rintro rfl
      exact absurd high (by decide)
    · rintro rfl
      exact absurd high (by decide)
    · rw [UInt8.lt_iff_toNat_lt]
      change ¬ b.toNat < 32
      omega

section Strings

variable (pending : Option Nat) (content : Content) (rest : List UInt8)

private theorem scanString_plainByte {b : UInt8} (plain : IsPlainByte b) :
    scanString pending content (b :: rest) =
      scanString none ((content.settle pending).push [b]) rest := by
  rw [scanString.eq_def]
  simp only [plain.1, plain.2.1, plain.2.2, if_false]

private theorem scanString_plainBytes {bytes : List UInt8}
    (plain : ∀ b ∈ bytes, IsPlainByte b) (nonempty : bytes ≠ []) :
    scanString pending content (bytes ++ rest) =
      scanString none ((content.settle pending).push bytes) rest := by
  induction bytes generalizing pending content with
  | nil => exact absurd rfl nonempty
  | cons b bytes ih =>
    have own := plain b List.mem_cons_self
    rw [List.cons_append, scanString_plainByte pending content _ own]
    cases bytes with
    | nil => rfl
    | cons d bytes =>
      rw [ih none _ (fun e member => plain e (List.mem_cons_of_mem _ member))
        (List.cons_ne_nil _ _)]
      simp [Content.settle, Content.push_append]

private theorem scanString_mark (letter : Mark) :
    scanString pending content (0x5C :: letter.byte :: rest) =
      scanString none ((content.settle pending).push (String.utf8EncodeChar letter.char)) rest := by
  rw [scanString.eq_def]
  cases letter <;> rfl

private theorem scanString_unit (code : CodeUnit) :
    scanString pending content (0x5C :: 0x75 :: (code.bytes ++ rest)) =
      scanString (content.pushUnit pending code.value).1 (content.pushUnit pending code.value).2
        rest := by
  rw [scanString.eq_def]
  simp only [CodeUnit.bytes, List.cons_append, List.nil_append, if_true, hexWord?_unit]

theorem scanString_literal (literal : Literal) :
    scanString pending content (literal.bytes ++ 0x22 :: rest) =
      ((content.after pending literal).close, some rest) := by
  induction literal generalizing pending content with
  | nil =>
    rw [Content.after_nil, Literal.bytes, List.flatMap_nil, List.nil_append, scanString.eq_def]
    rfl
  | cons glyph literal ih =>
    have cut : Literal.bytes (glyph :: literal) ++ 0x22 :: rest =
        glyph.bytes ++ (Literal.bytes literal ++ 0x22 :: rest) := by
      simp [Literal.bytes]
    rw [cut]
    cases glyph with
    | plain c visible =>
      have plain := scanString_plainBytes pending content (Literal.bytes literal ++ 0x22 :: rest)
        (fun b member => isPlainByte_of_mem visible member) String.utf8EncodeChar_ne_nil
      rw [Glyph.bytes, plain, ih, Content.after_settle _ _ _ c (.plain c visible) rfl]
    | mark letter =>
      rw [Glyph.bytes, List.cons_append, List.cons_append, List.nil_append, scanString_mark, ih,
        Content.after_settle _ _ _ letter.char (.mark letter) rfl]
    | unit code =>
      rw [Glyph.bytes, List.cons_append, List.cons_append, scanString_unit, ih,
        Content.after_pushUnit]

theorem close_after (literal : Literal) :
    (Content.after (.ok []) none literal).close = literal.quotation := by
  rw [Literal.quotation, Literal.resolve]
  cases resolved : literal.resolveAfter none with
  | error fault => simp [Content.after, Content.close, resolved, Except.bind, Except.map]
  | ok chars =>
    simp [Content.after, Content.close, resolved, Except.bind, Except.map,
      Text.Utf8.text?_encodeAll]

end Strings

def EndsNumber (rest : List UInt8) : Prop :=
  ∀ b, rest.head? = some b → isDigit b = false ∧ b ≠ 0x2E ∧ b ≠ 0x65 ∧ b ≠ 0x45

section Numbers

variable {rest : List UInt8}

private theorem takeWhile_digits (digits : Digits)
    (stops : ∀ b, rest.head? = some b → isDigit b = false) :
    (digits.bytes ++ rest).takeWhile isDigit = digits.bytes ∧
      (digits.bytes ++ rest).dropWhile isDigit = rest := by
  rw [List.takeWhile_append_of_pos digits.isDigit, List.dropWhile_append_of_pos digits.isDigit]
  cases rest with
  | nil => simp
  | cons b rest => simp [stops b rfl]

private theorem exists_digit (digits : Digits) :
    ∃ b more, digits.bytes = b :: more ∧ isDigit b = true := by
  obtain ⟨b, more, bytes⟩ := List.exists_cons_of_ne_nil digits.nonempty
  exact ⟨b, more, bytes, digits.isDigit b (by simp [bytes])⟩

private theorem isDigit_ne {b mark : UInt8} (digit : isDigit b = true)
    (other : isDigit mark = false) : b ≠ mark := by
  rintro rfl
  rw [digit] at other
  cases other

variable (negative : Bool) (whole : List UInt8)

private theorem scanExponent_exponent (ends : EndsNumber rest) (fraction : Option (List UInt8))
    (exponent : Option Exponent) :
    scanExponent ⟨negative, whole, fraction, none⟩ (Figure.exponentBytes exponent ++ rest) =
      (.number (Numeral.mk negative whole fraction (exponent.map Exponent.parts)).value,
        some rest) := by
  cases exponent with
  | none =>
    cases rest with
    | nil => rfl
    | cons b rest =>
      obtain ⟨-, -, small, capital⟩ := ends b rfl
      simp [Figure.exponentBytes, scanExponent, small, capital]
  | some exponent =>
    obtain ⟨capital, sign, digits⟩ := exponent
    obtain ⟨taken, left⟩ := takeWhile_digits digits fun b first => (ends b first).1
    obtain ⟨b, more, bytes, digit⟩ := exists_digit digits
    have plus : b ≠ 0x2B := isDigit_ne digit (by decide)
    have minus : b ≠ 0x2D := isDigit_ne digit (by decide)
    have filled : digits.bytes.isEmpty = false := by
      rw [bytes]
      rfl
    have marked : ((if capital = true then 0x45 else 0x65 : UInt8) = 0x65 ||
        (if capital = true then 0x45 else 0x65 : UInt8) = 0x45) = true := by
      cases capital <;> rfl
    rw [Figure.exponentBytes, Exponent.bytes, List.cons_append, scanExponent.eq_def]
    simp only [marked, if_true]
    cases sign with
    | none =>
      rw [bytes] at taken left
      simp only [Sign.bytes, List.nil_append, bytes, List.cons_append] at taken left ⊢
      simp [plus, minus, taken, left, Exponent.parts, bytes]
    | plus => simp [Sign.bytes, taken, left, filled, Exponent.parts]
    | minus => simp [Sign.bytes, taken, left, filled, Exponent.parts]

/-- An exponent starts with its mark, and so ends the digits before it. -/
private theorem stops_exponent (ends : EndsNumber rest) (exponent : Option Exponent) {b : UInt8}
    (first : (Figure.exponentBytes exponent ++ rest).head? = some b) :
    isDigit b = false ∧ b ≠ 0x2E := by
  cases exponent with
  | none => exact ⟨(ends b first).1, (ends b first).2.1⟩
  | some exponent =>
    simp only [Figure.exponentBytes, Exponent.bytes, List.cons_append, List.head?_cons,
      Option.some.injEq] at first
    subst first
    cases exponent.capital <;> decide

private theorem scanFraction_fraction (ends : EndsNumber rest) (fraction : Option Digits)
    (exponent : Option Exponent) :
    scanFraction ⟨negative, whole, none, none⟩
        (Figure.fractionBytes fraction ++ (Figure.exponentBytes exponent ++ rest)) =
      (.number (Numeral.mk negative whole (fraction.map Digits.bytes)
        (exponent.map Exponent.parts)).value, some rest) := by
  have finished := scanExponent_exponent negative whole ends (fraction.map Digits.bytes) exponent
  cases fraction with
  | none =>
    rw [Figure.fractionBytes, List.nil_append, ← finished, scanFraction.eq_def]
    cases following : Figure.exponentBytes exponent ++ rest with
    | nil => rfl
    | cons b bytes =>
      have point : b ≠ 0x2E := (stops_exponent ends exponent (by rw [following]; rfl)).2
      simp [point]
  | some digits =>
    obtain ⟨taken, left⟩ := takeWhile_digits digits fun b first =>
      (stops_exponent ends exponent first).1
    have filled : digits.bytes.isEmpty = false := by
      obtain ⟨b, more, bytes, -⟩ := exists_digit digits
      rw [bytes]
      rfl
    rw [Figure.fractionBytes, List.cons_append, scanFraction.eq_def]
    simpa [taken, left, filled] using finished

theorem scanNumber_figure (ends : EndsNumber rest) (figure : Figure) :
    scanNumber figure.negative (figure.unsignedBytes ++ rest) =
      (.number figure.numeral.value, some rest) := by
  have finished := scanFraction_fraction figure.negative figure.whole.bytes ends figure.fraction
    figure.exponent
  have stops : ∀ b, (Figure.fractionBytes figure.fraction ++
      (Figure.exponentBytes figure.exponent ++ rest)).head? = some b → isDigit b = false := by
    intro b first
    cases fraction : figure.fraction with
    | none =>
      rw [fraction] at first
      exact (stops_exponent ends figure.exponent first).1
    | some digits =>
      rw [fraction] at first
      cases Option.some.inj first
      decide
  obtain ⟨taken, left⟩ := takeWhile_digits figure.whole stops
  obtain ⟨b, more, bytes, digit⟩ := exists_digit figure.whole
  have proper : (b = 0x30 && !more.isEmpty) = false := by
    cases more with
    | nil => simp
    | cons d more =>
      have unpadded := figure.unpadded
      rw [bytes] at unpadded
      by_cases zero : b = 0x30
      · subst zero
        cases unpadded rfl
      · simp [zero]
  rw [Figure.unsignedBytes, List.append_assoc, List.append_assoc, scanNumber, taken, left]
  rw [bytes] at finished ⊢
  simp only [proper, Bool.false_eq_true, if_false, finished, Figure.numeral, bytes]

end Numbers

section Blanks

variable (blanks : Blanks) (rest : List UInt8)

theorem skipBlanks_blanks : skipBlanks (blanks.bytes ++ rest) = skipBlanks rest := by
  have blank : ∀ b ∈ blanks.bytes, (b = 0x20 || b = 0x0A || b = 0x09 || b = 0x0D) = true := by
    intro b member
    obtain ⟨blank, -, rfl⟩ := List.mem_map.mp member
    cases blank <;> rfl
  rw [skipBlanks, List.dropWhile_append_of_pos blank]
  rfl

/-- Whether a byte is none that is skipped. -/
def IsSolid (b : UInt8) : Prop := (b = 0x20 || b = 0x0A || b = 0x09 || b = 0x0D) = false

theorem skipBlanks_solid {b : UInt8} (solid : IsSolid b) : skipBlanks (b :: rest) = b :: rest :=
  List.dropWhile_cons_of_neg (by simpa [IsSolid] using solid)

theorem scanValue_blanks (fuel : Nat) :
    scanValue fuel (blanks.bytes ++ rest) = scanValue fuel rest := by
  cases fuel with
  | zero => rfl
  | succ fuel => rw [scanValue, scanValue, skipBlanks_blanks]

theorem scanItems_blanks (fuel : Nat) (first : Bool) :
    scanItems fuel first (blanks.bytes ++ rest) = scanItems fuel first rest := by
  cases fuel with
  | zero => rfl
  | succ fuel => rw [scanItems, scanItems, skipBlanks_blanks]

theorem scanMembers_blanks (fuel : Nat) (first : Bool) :
    scanMembers fuel first (blanks.bytes ++ rest) = scanMembers fuel first rest := by
  cases fuel with
  | zero => rfl
  | succ fuel => rw [scanMembers, scanMembers, skipBlanks_blanks]

theorem endsNumber_blanks {rest : List UInt8} (ends : EndsNumber rest) :
    EndsNumber (blanks.bytes ++ rest) := by
  cases blanks with
  | nil => exact ends
  | cons blank blanks =>
    intro b first
    cases Option.some.inj first
    cases blank <;> decide

end Blanks

theorem exists_first_figure (figure : Figure) :
    ∃ b more, figure.bytes = b :: more ∧ (b = 0x2D ∨ isDigit b = true) := by
  rw [Figure.bytes]
  cases figure.negative with
  | true => exact ⟨_, _, rfl, .inl rfl⟩
  | false =>
    obtain ⟨b, more, bytes, digit⟩ := exists_digit figure.whole
    exact ⟨b, _, by rw [Figure.unsignedBytes, bytes]; rfl, .inr digit⟩

/-- A value starts with neither a blank nor the end of a list. -/
theorem exists_first (value : Value) :
    ∃ b more, value.bytes = b :: more ∧ IsSolid b ∧ b ≠ 0x5D := by
  cases value with
  | null => exact ⟨_, _, rfl, rfl, by decide⟩
  | bool value => cases value <;> exact ⟨_, _, rfl, rfl, by decide⟩
  | string literal => exact ⟨_, _, rfl, rfl, by decide⟩
  | list inside items => exact ⟨_, _, rfl, rfl, by decide⟩
  | object inside members => exact ⟨_, _, rfl, rfl, by decide⟩
  | number figure =>
    obtain ⟨b, more, bytes, rfl | digit⟩ := exists_first_figure figure
    · exact ⟨_, more, bytes, rfl, by decide⟩
    · have other (mark : UInt8) (special : isDigit mark = false) : b ≠ mark :=
        isDigit_ne digit special
      refine ⟨b, more, bytes, ?_, other 0x5D (by decide)⟩
      simp [IsSolid, other 0x20 (by decide), other 0x0A (by decide), other 0x09 (by decide),
        other 0x0D (by decide)]

section Values

variable (fuel : Nat) (rest : List UInt8)

private theorem scanValue_string (literal : Literal) :
    scanValue (fuel + 1) (0x22 :: (literal.bytes ++ 0x22 :: rest)) =
      (.string literal.quotation, some rest) := by
  rw [scanValue, skipBlanks_solid (b := 0x22) _ rfl]
  simp only [if_true, scanString_literal, close_after]

private theorem scanValue_figure (ends : EndsNumber rest) (figure : Figure) :
    scanValue (fuel + 1) (figure.bytes ++ rest) = (.number figure.numeral.value, some rest) := by
  have finished := scanNumber_figure ends figure
  cases sign : figure.negative with
  | true =>
    rw [sign] at finished
    rw [Figure.bytes, sign, if_pos rfl, List.cons_append, scanValue,
      skipBlanks_solid (b := 0x2D) _ rfl]
    exact finished
  | false =>
    rw [sign] at finished
    obtain ⟨b, more, bytes, digit⟩ := exists_digit figure.whole
    have other (mark : UInt8) (special : isDigit mark = false) : b ≠ mark :=
      isDigit_ne digit special
    have start : figure.unsignedBytes ++ rest = b :: (more ++
        (Figure.fractionBytes figure.fraction ++ Figure.exponentBytes figure.exponent) ++
          rest) := by
      rw [Figure.unsignedBytes, bytes]
      rfl
    have solid : IsSolid b := by
      simp [IsSolid, other 0x20 (by decide), other 0x0A (by decide), other 0x09 (by decide),
        other 0x0D (by decide)]
    rw [start] at finished
    rw [Figure.bytes, sign, if_neg Bool.false_ne_true, start, scanValue, skipBlanks_solid _ solid]
    simp only [other 0x22 (by decide), other 0x5B (by decide), other 0x7B (by decide),
      other 0x6E (by decide), other 0x74 (by decide), other 0x66 (by decide),
      other 0x2D (by decide), digit, if_true, if_false, finished]

end Values

/-- What ends items or members also ends a number before it. -/
private theorem endsNumber_next {close : UInt8}
    (closes : isDigit close = false ∧ close ≠ 0x2E ∧ close ≠ 0x65 ∧ close ≠ 0x45)
    (after : Blanks) {next : List UInt8} (nextIs : next = [] ∨ ∃ more, next = 0x2C :: more)
    (rest : List UInt8) : EndsNumber (after.bytes ++ (next ++ close :: rest)) := by
  apply endsNumber_blanks
  intro b first
  rcases nextIs with rfl | ⟨more, rfl⟩
  · cases Option.some.inj first
    exact closes
  · cases Option.some.inj first
    decide

private theorem itemsBytes_false (items : List Doc) :
    itemsBytes false items = [] ∨ ∃ more, itemsBytes false items = 0x2C :: more := by
  cases items with
  | nil => exact .inl rfl
  | cons item items => exact .inr ⟨_, rfl⟩

private theorem membersBytes_false (members : List Member) :
    membersBytes false members = [] ∨ ∃ more, membersBytes false members = 0x2C :: more := by
  cases members with
  | nil => exact .inl rfl
  | cons member members => exact .inr ⟨_, rfl⟩

private theorem scanItems_solid (fuel : Nat) (first : Bool) (before : Blanks) {b : UInt8}
    (solid : IsSolid b) (open' : b ≠ 0x5D) (rest : List UInt8) :
    scanItems (fuel + 1) first (comma first ++ (before.bytes ++ b :: rest)) =
      scanItem fuel (b :: rest) := by
  cases first with
  | true =>
    rw [comma, if_pos rfl, List.nil_append, scanItems_blanks, scanItems, skipBlanks_solid _ solid]
    simp only [open', if_true, if_false]
  | false =>
    rw [comma, if_neg Bool.false_ne_true, List.singleton_append, scanItems,
      skipBlanks_solid (b := 0x2C) _ rfl]
    simp only [skipBlanks_blanks, skipBlanks_solid _ solid, open', if_true, if_false,
      Bool.false_eq_true]
    rfl

private theorem scanMembers_quote (fuel : Nat) (first : Bool) (before : Blanks)
    (rest : List UInt8) :
    scanMembers (fuel + 1) first (comma first ++ (before.bytes ++ 0x22 :: rest)) =
      scanMember fuel rest := by
  cases first with
  | true =>
    rw [comma, if_pos rfl, List.nil_append, scanMembers_blanks, scanMembers,
      skipBlanks_solid (b := 0x22) _ rfl]
    rfl
  | false =>
    rw [comma, if_neg Bool.false_ne_true, List.singleton_append, scanMembers,
      skipBlanks_solid (b := 0x2C) _ rfl]
    simp only [skipBlanks_blanks, skipBlanks_solid (b := 0x22) _ rfl]
    rfl

mutual

/-- A value is read from its bytes, and nothing of what follows it. -/
theorem scanValue_value (value : Value) (fuel : Nat) (rest : List UInt8)
    (enough : 3 * value.bytes.length ≤ fuel) (ends : EndsNumber rest) :
    scanValue fuel (value.bytes ++ rest) = (value.outline, some rest) := by
  obtain ⟨fuel, rfl⟩ : ∃ less, fuel = less + 1 := by
    obtain ⟨b, more, bytes, -⟩ := exists_first value
    rw [bytes, List.length_cons] at enough
    exact ⟨fuel - 1, by omega⟩
  match value with
  | .null => rfl
  | .bool true => rfl
  | .bool false => rfl
  | .number figure => exact scanValue_figure fuel rest ends figure
  | .string literal =>
    rw [Value.bytes, List.cons_append, List.append_assoc]
    exact scanValue_string fuel rest literal
  | .list inside items =>
    simp only [Value.bytes, List.length_cons, List.length_append] at enough
    have read := scanItems_items items true fuel rest (by omega)
    rw [Value.bytes, List.cons_append, scanValue, skipBlanks_solid (b := 0x5B) _ rfl]
    simp only [List.append_assoc, List.singleton_append, scanItems_blanks, read]
    rfl
  | .object inside members =>
    simp only [Value.bytes, List.length_cons, List.length_append] at enough
    have read := scanMembers_members members true fuel rest (by omega)
    rw [Value.bytes, List.cons_append, scanValue, skipBlanks_solid (b := 0x7B) _ rfl]
    simp only [List.append_assoc, List.singleton_append, scanMembers_blanks, read]
    rfl

theorem scanItems_items (items : List Doc) (first : Bool) (fuel : Nat) (rest : List UInt8)
    (enough : 3 * (itemsBytes first items).length + 2 ≤ fuel) :
    scanItems fuel first (itemsBytes first items ++ 0x5D :: rest) =
      (itemsOutline items, .closed, some rest) := by
  obtain ⟨fuel, rfl⟩ : ∃ less, fuel = less + 2 := ⟨fuel - 2, by omega⟩
  match items with
  | [] =>
    rw [itemsBytes, List.nil_append, scanItems, skipBlanks_solid (b := 0x5D) _ rfl]
    rfl
  | .mk before value after :: items =>
    obtain ⟨b, more, bytes, solid, isOpen⟩ := exists_first value
    simp only [itemsBytes, Doc.bytes, List.length_append] at enough
    have shown : 1 ≤ value.bytes.length := by simp [bytes]
    have own := scanValue_value value fuel
      (after.bytes ++ (itemsBytes false items ++ 0x5D :: rest)) (by omega)
      (endsNumber_next (by decide) after (itemsBytes_false items) rest)
    have others := scanItems_items items false fuel rest (by omega)
    have start : itemsBytes first (.mk before value after :: items) ++ 0x5D :: rest =
        comma first ++ (before.bytes ++ (value.bytes ++
          (after.bytes ++ (itemsBytes false items ++ 0x5D :: rest)))) := by
      simp [itemsBytes, Doc.bytes]
    rw [start]
    rw [bytes] at own ⊢
    rw [List.cons_append, scanItems_solid _ _ _ solid isOpen, scanItem, ← List.cons_append, own]
    simp only [scanItems_blanks, others]
    rfl

theorem scanMembers_members (members : List Member) (first : Bool) (fuel : Nat)
    (rest : List UInt8) (enough : 3 * (membersBytes first members).length + 2 ≤ fuel) :
    scanMembers fuel first (membersBytes first members ++ 0x7D :: rest) =
      (membersOutline members, .closed, some rest) := by
  obtain ⟨fuel, rfl⟩ : ∃ less, fuel = less + 2 := ⟨fuel - 2, by omega⟩
  match members with
  | [] =>
    rw [membersBytes, List.nil_append, scanMembers, skipBlanks_solid (b := 0x7D) _ rfl]
    rfl
  | .mk before key between (.mk front value after) :: members =>
    simp only [membersBytes, Member.bytes, Doc.bytes, List.length_append, List.length_cons]
      at enough
    have own := scanValue_value value fuel
      (after.bytes ++ (membersBytes false members ++ 0x7D :: rest)) (by omega)
      (endsNumber_next (by decide) after (membersBytes_false members) rest)
    have others := scanMembers_members members false fuel rest (by omega)
    have start : membersBytes first (.mk before key between (.mk front value after) :: members) ++
        0x7D :: rest =
        comma first ++ (before.bytes ++ 0x22 :: (key.bytes ++ 0x22 :: (between.bytes ++
          0x3A :: (front.bytes ++ (value.bytes ++
            (after.bytes ++ (membersBytes false members ++ 0x7D :: rest))))))) := by
      simp [membersBytes, Member.bytes, Doc.bytes]
    rw [start, scanMembers_quote, scanMember, scanString_literal, close_after]
    simp only [skipBlanks_blanks, skipBlanks_solid (b := 0x3A) _ rfl, if_true, scanValue_blanks,
      own, scanMembers_blanks, others]
    rfl

end

theorem ofBytes_doc (doc : Doc) : Sheet.ofBytes doc.bytes = ⟨doc.outline, false⟩ := by
  obtain ⟨before, value, after⟩ := doc
  have ends : EndsNumber after.bytes := by
    have empty : EndsNumber [] := fun b first => by cases first
    simpa using endsNumber_blanks after empty
  have left : skipBlanks after.bytes = [] := by
    simpa [skipBlanks] using skipBlanks_blanks after []
  have read := scanValue_value value (3 * (Doc.mk before value after).bytes.length + 3) after.bytes
    (by simp only [Doc.bytes, List.length_append]; omega) ends
  rw [Sheet.ofBytes, Doc.bytes, scanValue_blanks, ← Doc.bytes, read, Doc.outline]
  simp [left]

theorem Codec.decode_doc {α : Type} (codec : Codec α) (doc : Doc) :
    codec.decode doc.bytes = codec.read doc.outline := by
  rw [decode, ofBytes_doc]
  cases codec.read doc.outline <;> rfl

end Provision.Json
