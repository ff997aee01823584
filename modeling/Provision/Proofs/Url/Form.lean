import Provision.Proofs.Text.Split
import Provision.Proofs.Text.Utf8
import Provision.Url.Form

namespace Provision.Url.Form

def unplus (c : Char) : Char := if c = '+' then ' ' else c

def decodeText (text : List Char) : String :=
  Text.Utf8.lossy (percentDecode (Text.utf8 (String.ofList (text.map unplus))))

/-- The pair that stands for an encoded one. A value may be missing, and is empty then. -/
def decodePair (text : List Char) : String × String :=
  let (name, value) := Text.cutFirst (· == '=') text
  (decodeText name, decodeText (value.getD []))

/-- The pairs of a query. Nothing between two separators is no pair. -/
def decode (query : List Char) : List (String × String) :=
  ((Text.split (· == '&') query).filter (!·.isEmpty)).map decodePair

/-- What a character of an encoded text is: one byte, which separates nothing. -/
structure IsInert (c : Char) : Prop where
  ascii : c.toNat < 0x80
  noAnd : c ≠ '&'
  noEquals : c ≠ '='

/-- What a plain byte is: a character of its own, which stands for nothing else. -/
structure IsOwn (b : UInt8) : Prop where
  inert : IsInert (Char.ofNat b.toNat)
  same : (Char.ofNat b.toNat).toNat = b.toNat
  noPlus : Char.ofNat b.toNat ≠ '+'
  noPercent : b ≠ 0x25

theorem isOwn_of_isPlain {b : UInt8} (plain : isPlain b = true) : IsOwn b := by
  have all : ∀ n < 128, isPlain (UInt8.ofNat n) = true →
      (Char.ofNat n).toNat = n ∧ Char.ofNat n ≠ '&' ∧ Char.ofNat n ≠ '=' ∧ Char.ofNat n ≠ '+' ∧
        UInt8.ofNat n ≠ 0x25 := by
    decide +kernel
  have low : b.toNat < 128 := by
    simp only [isPlain, Bool.or_eq_true, Bool.and_eq_true, decide_eq_true_eq, beq_iff_eq,
      UInt8.le_iff_toNat_le, ← UInt8.toNat_inj, UInt8.reduceToNat] at plain
    omega
  have facts := all b.toNat low
  rw [UInt8.ofNat_toNat] at facts
  obtain ⟨same, noAnd, noEquals, noPlus, noPercent⟩ := facts plain
  exact ⟨⟨by omega, noAnd, noEquals⟩, same, noPlus, noPercent⟩

theorem isInert_upperDigit (digit : Fin 16) : IsInert (Text.Hex.upperDigit digit) := by
  have all : ∀ digit : Fin 16, (Text.Hex.upperDigit digit).toNat < 0x80 ∧
      Text.Hex.upperDigit digit ≠ '&' ∧ Text.Hex.upperDigit digit ≠ '=' := by decide
  obtain ⟨ascii, noAnd, noEquals⟩ := all digit
  exact ⟨ascii, noAnd, noEquals⟩

theorem isInert_of_mem_encodeByte {b : UInt8} {c : Char} (member : c ∈ encodeByte b) :
    IsInert c := by
  rw [encodeByte] at member
  split at member
  next plain =>
    cases List.mem_singleton.mp member
    exact (isOwn_of_isPlain plain).inert
  split at member
  · cases List.mem_singleton.mp member
    exact ⟨by decide, by decide, by decide⟩
  · simp only [Url.encodeByte, List.mem_cons, List.not_mem_nil, or_false] at member
    rcases member with rfl | rfl | rfl
    · exact ⟨by decide, by decide, by decide⟩
    · exact isInert_upperDigit _
    · exact isInert_upperDigit _

theorem isInert_of_mem_encodeText {text : String} {c : Char} (member : c ∈ encodeText text) :
    IsInert c := by
  obtain ⟨b, -, own⟩ := List.mem_flatMap.mp member
  exact isInert_of_mem_encodeByte own

private theorem encode_upperDigit (digit : Fin 16) :
    String.utf8EncodeChar (Text.Hex.upperDigit digit) =
        [UInt8.ofNat (Text.Hex.upperDigit digit).toNat] ∧
      Text.Hex.value? (Char.ofNat (UInt8.ofNat (Text.Hex.upperDigit digit).toNat).toNat) =
        some digit := by
  revert digit
  decide

private theorem high_low (b : UInt8) :
    ((Text.Hex.high b).val * 16 + (Text.Hex.low b).val).toUInt8 = b := by
  have whole : b.toNat / 16 * 16 + b.toNat % 16 = b.toNat := by omega
  rw [Text.Hex.high, Text.Hex.low, whole]
  exact UInt8.ofNat_toNat

theorem percentDecode_encodeByte (b : UInt8) (rest : List UInt8) :
    percentDecode (((encodeByte b).map unplus).flatMap String.utf8EncodeChar ++ rest) =
      b :: percentDecode rest := by
  have other {d : UInt8} (noPercent : d ≠ 0x25) :
      percentDecode (d :: rest) = d :: percentDecode rest := by
    rw [percentDecode.eq_def]
    exact if_neg noPercent
  rw [encodeByte]
  split
  next plain =>
    have own := isOwn_of_isPlain plain
    have bytes : String.utf8EncodeChar (Char.ofNat b.toNat) = [b] := by
      rw [Text.Utf8.encode_of_lt own.inert.ascii, own.same, UInt8.ofNat_toNat]
    have kept : unplus (Char.ofNat b.toNat) = Char.ofNat b.toNat := if_neg own.noPlus
    simpa [kept, bytes] using other own.noPercent
  split
  next blank =>
    subst blank
    exact other (by decide)
  · obtain ⟨high, highValue⟩ := encode_upperDigit (Text.Hex.high b)
    obtain ⟨low, lowValue⟩ := encode_upperDigit (Text.Hex.low b)
    have kept : ∀ digit, unplus (Text.Hex.upperDigit digit) = Text.Hex.upperDigit digit := by decide
    have percent : String.utf8EncodeChar (unplus '%') = [0x25] := by decide
    simp only [Url.encodeByte, List.map_cons, List.map_nil, List.flatMap_cons, List.flatMap_nil,
      kept, percent, high, low, List.cons_append, List.nil_append, List.append_nil]
    rw [percentDecode]
    simp only [if_true, highValue, lowValue, high_low]

private theorem percentDecode_encodeBytes (bytes : List UInt8) :
    percentDecode (((bytes.flatMap encodeByte).map unplus).flatMap String.utf8EncodeChar) =
      bytes := by
  induction bytes with
  | nil => rfl
  | cons b bytes ih =>
    rw [List.flatMap_cons, List.map_append, List.flatMap_append, percentDecode_encodeByte, ih]

theorem decodeText_encodeText (text : String) : decodeText (encodeText text) = text := by
  have bytes : Text.utf8 (String.ofList ((encodeText text).map unplus)) =
      ((encodeText text).map unplus).flatMap String.utf8EncodeChar := by
    rw [Text.utf8, String.toList_ofList]
  have pieces : Text.Utf8.decode (Text.utf8 text) = text.toList.map some :=
    Text.Utf8.decode_encodeAll text.toList
  rw [decodeText, bytes, encodeText, percentDecode_encodeBytes, Text.Utf8.lossy, pieces,
    List.map_map]
  change String.ofList (text.toList.map id) = text
  rw [List.map_id, String.ofList_toList]

theorem decodePair_encodePair (pair : String × String) : decodePair (encodePair pair) = pair := by
  have whole : ∀ c ∈ encodeText pair.1, (c == '=') = false := fun c member =>
    beq_eq_false_iff_ne.mpr (isInert_of_mem_encodeText member).noEquals
  have cut := Text.cutFirst_append_cons whole (beq_self_eq_true '=') (encodeText pair.2)
  simp only [decodePair, encodePair, cut, Option.getD_some, decodeText_encodeText]

private theorem noAnd_of_mem_encodePair {pair : String × String} {c : Char}
    (member : c ∈ encodePair pair) : (c == '&') = false := by
  rw [beq_eq_false_iff_ne]
  rcases List.mem_append.mp member with name | rest
  · exact (isInert_of_mem_encodeText name).noAnd
  rcases List.mem_cons.mp rest with rfl | value
  · decide
  · exact (isInert_of_mem_encodeText value).noAnd

/-- A query is read as the pairs that were written, in their order. -/
theorem decode_encode (pairs : List (String × String)) : decode (encode pairs) = pairs := by
  by_cases nothing : pairs = []
  · subst nothing
    rfl
  have cut : Text.split (· == '&') (encode pairs) = pairs.map encodePair := by
    rw [encode]
    refine Text.split_join rfl (mt List.map_eq_nil_iff.mp nothing) ?_
    intro piece member c inside
    obtain ⟨pair, -, rfl⟩ := List.mem_map.mp member
    exact noAnd_of_mem_encodePair inside
  have kept : (pairs.map encodePair).filter (!·.isEmpty) = pairs.map encodePair := by
    apply List.filter_eq_self.mpr
    intro piece member
    obtain ⟨pair, -, rfl⟩ := List.mem_map.mp member
    simp [encodePair]
  have same : decodePair ∘ encodePair = id := funext decodePair_encodePair
  rw [decode, cut, kept, List.map_map, same, List.map_id]

end Provision.Url.Form
