import Provision.Proofs.Text.Hex
import Provision.Uuid

namespace Provision.Uuid

open Text (Hex.value? Hex.lowerRow)

def digitsOf (number : Nat) : List Char := (Nat.toDigits 16 number).leftpad 32 '0'

/-- A text is a row of characters in groups of the given lengths, with a hyphen between two of
them. -/
inductive Grouped : List Nat → List Char → List Char → Prop where
  | last {n : Nat} {row : List Char} (length : row.length = n) : Grouped [n] row row
  | more {n : Nat} {lengths : List Nat} {group text row : List Char} (length : group.length = n)
    (others : Grouped lengths text row) :
    Grouped (n :: lengths) (group ++ '-' :: text) (group ++ row)

/-- A text is a number in the form 8-4-4-4-12, its digits being of either case. -/
def Hyphenates (number : Nat) (text : List Char) : Prop :=
  ∃ row, Grouped groupLengths text row ∧ row.map Char.toLower = digitsOf number

/-- The texts of a number, by what may stand at the head of a URN. -/
inductive Denotes (IsHead : List Char → Prop) (number : Nat) : List Char → Prop where
  | plain {text : List Char} (digits : text.map Char.toLower = digitsOf number) :
    Denotes IsHead number text
  | hyphenated {text : List Char} (groups : Hyphenates number text) : Denotes IsHead number text
  | braced {text : List Char} (groups : Hyphenates number text) :
    Denotes IsHead number ('\x7b' :: (text ++ ['\x7d']))
  | urn {head text : List Char} (heads : IsHead head) (groups : Hyphenates number text) :
    Denotes IsHead number (head ++ text)

/-- What stands at the head of a URN, in letters of either case. -/
def IsUrnHead (head : List Char) : Prop := head.map Char.toLower = urnStart

section Numbers

variable {id other : Uuid}

theorem digitsOf_toNat (id : Uuid) : digitsOf id.toNat = Hex.lowerRow id.digits := by
  obtain ⟨digits, length⟩ := id
  have nonempty : digits ≠ [] := List.ne_nil_of_length_pos (by omega)
  have padded := Text.Hex.lowerRow_eq_leftpad nonempty
  rw [length] at padded
  exact padded.symm

theorem toNat_lt (id : Uuid) : id.toNat < 2 ^ 128 := by
  have bounded := Text.Hex.numberOf_lt id.digits
  rw [id.length_digits] at bounded
  exact bounded

theorem eq_of_toNat_eq (same : id.toNat = other.toNat) : id = other := by
  have rows : Hex.lowerRow id.digits = Hex.lowerRow other.digits := by
    rw [← digitsOf_toNat, same, digitsOf_toNat]
  obtain ⟨digits, length⟩ := id
  cases Text.Hex.lowerRow_injective rows
  rfl

theorem exists_toNat {number : Nat} (fits : number < 2 ^ 128) : ∃ id : Uuid, id.toNat = number := by
  have small : number < 16 ^ 32 := fits
  obtain ⟨digits, length, stands⟩ := Text.Hex.exists_numberOf 32 small
  exact ⟨⟨digits, length⟩, stands⟩

end Numbers

section Reading

variable {id : Uuid} {text row : List Char}

theorem plain?_eq_some_iff : plain? text = some id ↔ text.map Char.toLower = digitsOf id.toNat := by
  rw [digitsOf_toNat, ← Text.Hex.mapM_value?_eq_some_iff, plain?]
  cases text.mapM Hex.value? with
  | none => simp
  | some digits =>
    obtain ⟨own, length⟩ := id
    simp only [Option.bind_some, ofDigits?, Option.some.injEq]
    constructor
    · intro read
      split at read
      · cases read
        rfl
      · cases read
    · rintro rfl
      exact dif_pos length

private theorem grouped?_append {n m : Nat} {lengths : List Nat} {group : List Char}
    (length : group.length = n) (rest : List Char) :
    grouped? (n :: m :: lengths) (group ++ '-' :: rest) =
      (grouped? (m :: lengths) rest).map (group ++ ·) := by
  subst length
  simp [grouped?]

theorem grouped?_eq_some_iff {n : Nat} {lengths : List Nat} :
    grouped? (n :: lengths) text = some row ↔ Grouped (n :: lengths) text row := by
  induction lengths generalizing n text row with
  | nil =>
    constructor
    · intro read
      rw [grouped?] at read
      split at read
      · cases read
        exact .last ‹_›
      · cases read
    · intro groups
      cases groups with
      | last length => rw [grouped?, if_pos length]
      | more _ others => cases others
  | cons m lengths ih =>
    constructor
    · intro read
      rw [grouped?] at read
      split at read
      · next fits =>
        obtain ⟨inside, hyphen⟩ : n < text.length ∧ text[n]? = some '-' := by simpa using fits
        obtain ⟨others, found, rfl⟩ := Option.map_eq_some_iff.mp read
        have parts : text = text.take n ++ '-' :: text.drop (n + 1) := by
          rw [List.getElem?_eq_getElem inside, Option.some.injEq] at hyphen
          rw [← hyphen, List.getElem_cons_drop, List.take_append_drop]
        have length : (text.take n).length = n := List.length_take_of_le (Nat.le_of_lt inside)
        have groups := Grouped.more length (ih.mp found)
        rwa [← parts] at groups
      · cases read
    · intro groups
      cases groups with
      | more length others => rw [grouped?_append length, ih.mpr others, Option.map_some]

theorem hyphenated?_eq_some_iff : hyphenated? text = some id ↔ Hyphenates id.toNat text := by
  rw [hyphenated?, Option.bind_eq_some_iff, Hyphenates]
  simp only [plain?_eq_some_iff, groupLengths, grouped?_eq_some_iff]

section Unwrapping

variable {c : Char} {inner : List Char}

theorem unwrap_braces_iff :
    unwrap text = (.braces, inner) ↔ text = '\x7b' :: (inner ++ ['\x7d']) := by
  constructor
  · intro found
    unfold unwrap at found
    split at found
    · cases found
    · next first rest =>
      split at found
      · next both =>
        obtain ⟨rfl, ends⟩ : first = '\x7b' ∧ rest.getLast? = some '\x7d' := by simpa using both
        obtain ⟨front, rfl⟩ := List.getLast?_eq_some_iff.mp ends
        cases found
        rw [List.dropLast_concat]
      · split at found <;> cases found
  · rintro rfl
    simp [unwrap]

theorem unwrap_urn_iff :
    unwrap text = (.urn, inner) ↔ ∃ head, IsUrnHead head ∧ text = head ++ inner := by
  constructor
  · intro found
    unfold unwrap at found
    split at found
    · cases found
    · split at found
      · cases found
      · split at found
        · next heads =>
          cases found
          exact ⟨_, heads, (List.take_append_drop 9 _).symm⟩
        · cases found
  · rintro ⟨head, heads, rfl⟩
    have length : head.length = 9 := by
      rw [← List.length_map (f := Char.toLower), heads]
      rfl
    obtain ⟨first, rest, rfl⟩ := List.exists_cons_of_length_eq_add_one length
    have brace : first ≠ '\x7b' := by
      rintro rfl
      exact absurd (List.head_eq_of_cons_eq heads) (by decide)
    have front : ((first :: rest) ++ inner).take 9 = first :: rest := List.take_left' length
    have back : ((first :: rest) ++ inner).drop 9 = inner := List.drop_left' length
    rw [List.cons_append] at front back
    rw [List.cons_append, unwrap, if_neg (by simp [brace]), front,
      if_pos (show (first :: rest).map Char.toLower = urnStart from heads), back]

theorem eq_of_unwrap_bare (found : unwrap text = (.bare, inner)) : inner = text := by
  unfold unwrap at found
  split at found
  · cases found
    rfl
  · split at found
    · cases found
    · split at found
      · cases found
      · cases found
        rfl

private theorem unwrap_digit {digit : Fin 16} (spells : c.toLower = Nat.digitChar digit.val) :
    unwrap (c :: text) = (.bare, c :: text) := by
  have brace : c ≠ '\x7b' := by
    rintro rfl
    revert digit
    decide
  have letter : Nat.digitChar digit.val ≠ 'u' := by
    clear spells
    revert digit
    decide
  simp [unwrap, brace, urnStart, spells, letter]

theorem unwrap_of_digits (spells : text.map Char.toLower = digitsOf id.toNat) :
    unwrap text = (.bare, text) := by
  rw [digitsOf_toNat] at spells
  obtain ⟨digits, length⟩ := id
  obtain ⟨digit, digits, rfl⟩ := List.exists_cons_of_length_eq_add_one length
  obtain ⟨c, rest, rfl, lower, -⟩ := List.map_eq_cons_iff.mp spells
  exact unwrap_digit lower

theorem unwrap_of_hyphenates (groups : Hyphenates id.toNat text) :
    unwrap text = (.bare, text) := by
  obtain ⟨row, groups, spells⟩ := groups
  rw [digitsOf_toNat] at spells
  obtain ⟨digits, length⟩ := id
  obtain ⟨digit, digits, rfl⟩ := List.exists_cons_of_length_eq_add_one length
  cases groups with
  | more eight others =>
    obtain ⟨c, group, rfl⟩ := List.exists_cons_of_length_eq_add_one eight
    exact unwrap_digit (List.head_eq_of_cons_eq spells)

end Unwrapping

private theorem plain?_of_hyphen (hyphen : '-' ∈ text) : plain? text = none := by
  rw [Option.eq_none_iff_forall_ne_some]
  intro id read
  have spells := plain?_eq_some_iff.mp read
  rw [digitsOf_toNat] at spells
  have member : ('-').toLower ∈ Hex.lowerRow id.digits := by
    rw [← spells]
    exact List.mem_map_of_mem hyphen
  obtain ⟨digit, -, same⟩ := List.mem_map.mp member
  revert digit
  decide

/-- A text is read just if it is one of the texts of the number of its identifier. -/
theorem ofChars?_eq_some_iff : ofChars? text = some id ↔ Denotes IsUrnHead id.toNat text := by
  constructor
  · intro read
    unfold ofChars? at read
    rcases found : unwrap text with ⟨wrapping, inner⟩
    rw [found] at read
    cases wrapping with
    | bare =>
      cases eq_of_unwrap_bare found
      rcases Option.or_eq_some_iff.mp read with plain | ⟨-, hyphenated⟩
      · exact .plain (plain?_eq_some_iff.mp plain)
      · exact .hyphenated (hyphenated?_eq_some_iff.mp hyphenated)
    | braces =>
      cases unwrap_braces_iff.mp found
      exact .braced (hyphenated?_eq_some_iff.mp read)
    | urn =>
      obtain ⟨head, heads, rfl⟩ := unwrap_urn_iff.mp found
      exact .urn heads (hyphenated?_eq_some_iff.mp read)
  · intro denotes
    unfold ofChars?
    cases denotes with
    | plain digits =>
      rw [unwrap_of_digits digits]
      dsimp only
      rw [plain?_eq_some_iff.mpr digits, Option.some_or]
    | hyphenated groups =>
      have hyphen : '-' ∈ text := by
        obtain ⟨row, groups, -⟩ := groups
        cases groups with
        | more _ _ => simp
      rw [unwrap_of_hyphenates groups]
      dsimp only
      rw [plain?_of_hyphen hyphen, Option.none_or]
      exact hyphenated?_eq_some_iff.mpr groups
    | braced groups =>
      rw [unwrap_braces_iff.mpr rfl]
      exact hyphenated?_eq_some_iff.mpr groups
    | urn heads groups =>
      rw [unwrap_urn_iff.mpr ⟨_, heads, rfl⟩]
      exact hyphenated?_eq_some_iff.mpr groups

end Reading

section Writing

private theorem take_append_drop_add (text : List Char) (n m : Nat) :
    (text.drop n).take m ++ text.drop (n + m) = text.drop n := by
  rw [← List.drop_drop, List.take_append_drop]

theorem lowerDigit_eq_digitChar (digit : Fin 16) :
    Text.Hex.lowerDigit digit = Nat.digitChar digit.val := by
  revert digit
  decide

/-- The canonical text is the number in lower case and in groups. -/
theorem grouped_toChars (id : Uuid) : Grouped groupLengths id.toChars (digitsOf id.toNat) := by
  rw [digitsOf_toNat]
  obtain ⟨digits, length⟩ := id
  have row : digits.map Text.Hex.lowerDigit = Hex.lowerRow digits :=
    List.map_congr_left fun digit _ => lowerDigit_eq_digitChar digit
  have size : (Hex.lowerRow digits).length = 32 := by rw [Text.Hex.length_lowerRow, length]
  simp only [toChars, row]
  generalize Hex.lowerRow digits = row at size
  have groups : Grouped groupLengths _
      (row.take 8 ++ ((row.drop 8).take 4 ++ ((row.drop 12).take 4 ++
        ((row.drop 16).take 4 ++ row.drop 20)))) :=
    .more (by simp [size]) (.more (by simp [size]) (.more (by simp [size])
      (.more (by simp [size]) (.last (by simp [size])))))
  rw [take_append_drop_add _ 16 4, take_append_drop_add _ 12 4, take_append_drop_add _ 8 4,
    List.take_append_drop] at groups
  simpa only [List.append_assoc, List.cons_append] using groups

theorem lower_digitsOf (id : Uuid) : (digitsOf id.toNat).map Char.toLower = digitsOf id.toNat := by
  have lower : ∀ digit : Fin 16,
      (Nat.digitChar digit.val).toLower = Nat.digitChar digit.val := by decide
  rw [digitsOf_toNat, Hex.lowerRow, List.map_map]
  exact List.map_congr_left fun digit _ => lower digit

theorem ofString?_toString (id : Uuid) : ofString? id.toString = some id := by
  rw [ofString?, toString, String.toList_ofList, ofChars?_eq_some_iff]
  exact .hyphenated ⟨_, id.grouped_toChars, id.lower_digitsOf⟩

end Writing

end Provision.Uuid
