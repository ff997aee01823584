import Provision.Proofs.Text.Digits
import Provision.Timestamp.Printer
import Provision.Timestamp.Reader

namespace Provision.Timestamp

def EndsNumber (rest : List Char) : Prop := ∀ c ∈ rest.head?, c.isDigit = false

private theorem endsNumber_cons {c : Char} (other : c.isDigit = false) (rest : List Char) :
    EndsNumber (c :: rest) := fun d first => by
  cases first
  exact other

section Digits

variable (width n : Nat)

theorem digitsValue_padded : digitsValue (padded width n) = n := by
  rw [digitsValue, Text.foldl_digits, padded, Nat.ofDigitChars_append]
  simp

theorem isDigit_of_mem_padded {c : Char} (member : c ∈ padded width n) : c.isDigit = true := by
  rcases List.mem_append.mp member with zero | digit
  · rw [List.eq_of_mem_replicate zero]
    rfl
  · exact Text.isDigit_of_mem_toDigits digit

theorem padded_ne_nil : padded width n ≠ [] := by
  simp [padded, Nat.toDigits_ne_nil]

variable {width n} in
theorem length_padded (positive : 0 < width) (fits : n < Nat.pow 10 width) :
    (padded width n).length = width := by
  have atMost := (Nat.length_toDigits_le_iff (b := 10) (n := n) (by decide) positive).mpr fits
  simp only [padded, List.length_append, List.length_replicate]
  omega

theorem takeWhile_padded {rest : List Char} (ends : EndsNumber rest) :
    (padded width n ++ rest).takeWhile Char.isDigit = padded width n := by
  rw [List.takeWhile_append_of_pos fun c member => isDigit_of_mem_padded width n member]
  cases rest with
  | nil => simp
  | cons c rest =>
    rw [List.takeWhile_cons_of_neg (by simp [ends c rfl]), List.append_nil]

end Digits

section Reading

variable {width n : Nat} {rest : List Char}

theorem number_padded (ends : EndsNumber rest) {most : Option Nat}
    (fits : ∀ k ∈ most, (padded width n).length ≤ k) :
    (number most).run (padded width n ++ rest) = .ok (n, rest) := by
  have text : (padded width n ++ rest).isEmpty = false := by simp [padded_ne_nil]
  have digits : (padded width n).isEmpty = false := by simp [padded_ne_nil]
  have read : (number most).run (padded width n ++ rest) =
      .ok (digitsValue (padded width n),
        (padded width n ++ rest).drop (padded width n).length) := by
    cases most with
    | none =>
      simp only [number, StateT.run_bind, StateT.run_get, pure_bind, takeWhile_padded _ _ ends,
        text, digits]
      rfl
    | some k =>
      simp only [number, StateT.run_bind, StateT.run_get, pure_bind, takeWhile_padded _ _ ends,
        text, List.take_of_length_le (fits k rfl), digits]
      rfl
  rw [read, digitsValue_padded, List.drop_left]

/-- Nothing that begins like a printed part begins with white space. -/
theorem trimStart_padded : Text.trimStart (padded width n ++ rest) = padded width n ++ rest := by
  obtain ⟨c, digits, first⟩ := List.exists_cons_of_ne_nil (padded_ne_nil width n)
  have digit := isDigit_of_mem_padded width n (first ▸ List.mem_cons_self : c ∈ padded width n)
  have bounds := Text.isDigit_toNat digit
  have solid : Text.isBlank c = false := by
    simp only [Text.isBlank, Bool.or_eq_false_iff, Bool.and_eq_false_iff, decide_eq_false_iff_not,
      beq_eq_false_iff_ne]
    omega
  rw [first, List.cons_append, Text.trimStart, List.dropWhile_cons_of_neg (by simp [solid])]

theorem field_padded {least most : Nat} (ends : EndsNumber rest) (atLeast : least ≤ n)
    (atMost : n ≤ most) (small : n < 100) :
    (field least most).run (padded 2 n ++ rest) = .ok (n, rest) := by
  have digits : (number (some 2)).run (padded 2 n ++ rest) = .ok (n, rest) :=
    number_padded ends fun k two => by
      cases two
      exact Nat.le_of_eq (length_padded (by decide) small)
  change ((number (some 2)).run (Text.trimStart (padded 2 n ++ rest))).bind _ = _
  rw [trimStart_padded, digits]
  simp only [Except.bind, atLeast, atMost, decide_true, Bool.and_self, if_true]
  rfl

theorem literal_cons (c : Char) (rest : List Char) :
    (literal c).run (c :: rest) = .ok ((), rest) := by
  change (if c = c then _ else _ : Reader Unit).run (c :: rest) = _
  rw [if_pos rfl]
  rfl

end Reading

theorem fraction_padded {width n : Nat} (length : (padded width n).length = width)
    (atMost : width ≤ 9) :
    fraction.run ('.' :: padded width n ++ ['Z']) = .ok (n * Nat.pow 10 (9 - width), ['Z']) := by
  have ends : EndsNumber ['Z'] := endsNumber_cons rfl []
  have text : (padded width n ++ ['Z']).isEmpty = false := by simp
  have digits : (padded width n).isEmpty = false := by simp [padded_ne_nil]
  have nine : (padded width n).take 9 = padded width n :=
    List.take_of_length_le (by omega)
  have read : fraction.run ('.' :: padded width n ++ ['Z']) =
      .ok (digitsValue (padded width n) * Nat.pow 10 (9 - (padded width n).length),
        (padded width n ++ ['Z']).drop (padded width n).length) := by
    simp only [fraction, StateT.run_bind, StateT.run_get, pure_bind, List.cons_append,
      takeWhile_padded _ _ ends, text, digits, nine]
    rfl
  rw [read, digitsValue_padded, List.drop_left, length]

theorem fraction_fractionText {nanosecond : Nat} (small : nanosecond < 1000000000) :
    fraction.run (fractionText nanosecond ++ ['Z']) = .ok (nanosecond, ['Z']) := by
  unfold fractionText
  split
  · next zero =>
    subst zero
    rfl
  split
  · have fits : nanosecond / 1000000 < Nat.pow 10 3 := by
      change nanosecond / 1000000 < 1000
      omega
    have whole : nanosecond / 1000000 * Nat.pow 10 (9 - 3) = nanosecond := by
      change nanosecond / 1000000 * 1000000 = nanosecond
      omega
    rw [fraction_padded (length_padded (by decide) fits) (by decide), whole]
  split
  · have fits : nanosecond / 1000 < Nat.pow 10 6 := by
      change nanosecond / 1000 < 1000000
      omega
    have whole : nanosecond / 1000 * Nat.pow 10 (9 - 6) = nanosecond := by
      change nanosecond / 1000 * 1000 = nanosecond
      omega
    rw [fraction_padded (length_padded (by decide) fits) (by decide), whole]
  · have whole : nanosecond * Nat.pow 10 (9 - 9) = nanosecond := Nat.mul_one nanosecond
    rw [fraction_padded (length_padded (by decide) small) (by decide), whole]

private theorem trimStart_minus (text : List Char) : Text.trimStart ('-' :: text) = '-' :: text :=
  rfl

private theorem trimStart_plus (text : List Char) : Text.trimStart ('+' :: text) = '+' :: text :=
  rfl

section Year

variable {n : Nat} (rest : List Char)

private theorem number_year :
    (number none).run (padded 4 n ++ '-' :: rest) = .ok (n, '-' :: rest) :=
  number_padded (endsNumber_cons rfl rest) fun k none' => by cases none'

private theorem year_minus
    (within : (Int32.minValue.toInt ≤ -(n : Int) && -(n : Int) ≤ Int32.maxValue.toInt) = true) :
    year.run ('-' :: padded 4 n ++ '-' :: rest) = .ok (-(n : Int), '-' :: rest) := by
  simp only [year, blanks, StateT.run_bind, StateT.run_modify, pure_bind, StateT.run_get,
    List.cons_append, trimStart_minus, StateT.run_set, number_year]
  change (if _ then _ else _ : Reader Int).run ('-' :: rest) = _
  rw [if_pos within]
  rfl

private theorem year_plus
    (within : (Int32.minValue.toInt ≤ (n : Int) && (n : Int) ≤ Int32.maxValue.toInt) = true) :
    year.run ('+' :: padded 4 n ++ '-' :: rest) = .ok ((n : Int), '-' :: rest) := by
  simp only [year, blanks, StateT.run_bind, StateT.run_modify, pure_bind, StateT.run_get,
    List.cons_append, trimStart_plus, StateT.run_set, number_year]
  change (if _ then _ else _ : Reader Int).run ('-' :: rest) = _
  rw [if_pos within]
  rfl

private theorem year_short (fits : n < 10000)
    (within : (Int32.minValue.toInt ≤ (n : Int) && (n : Int) ≤ Int32.maxValue.toInt) = true) :
    year.run (padded 4 n ++ '-' :: rest) = .ok ((n : Int), '-' :: rest) := by
  have read : (number (some 4)).run (padded 4 n ++ '-' :: rest) = .ok (n, '-' :: rest) :=
    number_padded (endsNumber_cons rfl rest) fun k four => by
      cases four
      exact Nat.le_of_eq (length_padded (by decide) fits)
  obtain ⟨c, digits, first⟩ := List.exists_cons_of_ne_nil (padded_ne_nil 4 n)
  have digit := isDigit_of_mem_padded 4 n (first ▸ List.mem_cons_self : c ∈ padded 4 n)
  simp only [year, blanks, StateT.run_bind, StateT.run_modify, pure_bind, StateT.run_get,
    trimStart_padded]
  rw [first, List.cons_append] at read ⊢
  split
  · next minus =>
    cases minus
    cases digit
  · next plus =>
    cases plus
    cases digit
  · rw [StateT.run_bind, read]
    change (if _ then _ else _ : Reader Int).run ('-' :: rest) = _
    rw [if_pos within]
    rfl

theorem year_yearText {value : Int} (least : firstYear ≤ value) (most : value ≤ lastYear) :
    year.run (yearText value ++ '-' :: rest) = .ok (value, '-' :: rest) := by
  have within : (Int32.minValue.toInt ≤ value && value ≤ Int32.maxValue.toInt) = true := by
    simp only [firstYear, lastYear] at least most
    simp only [Int32.toInt_minValue, Int32.toInt_maxValue, Bool.and_eq_true, decide_eq_true_eq]
    omega
  unfold yearText
  split
  · next short =>
    have same : (value.toNat : Int) = value := by omega
    have read := year_short rest (n := value.toNat) (by omega) (same.symm ▸ within)
    rwa [same] at read
  split
  · next negative =>
    have same : -(value.natAbs : Int) = value := by omega
    have read := year_minus rest (n := value.natAbs) (same.symm ▸ within)
    rwa [same] at read
  · next positive =>
    have same : (value.natAbs : Int) = value := by omega
    have read := year_plus rest (n := value.natAbs) (same.symm ▸ within)
    rwa [same] at read

end Year

private theorem endsNumber_fractionText (nanosecond : Nat) :
    EndsNumber (fractionText nanosecond ++ ['Z']) := by
  unfold fractionText
  split
  · exact endsNumber_cons rfl _
  split
  · exact endsNumber_cons rfl _
  split
  · exact endsNumber_cons rfl _
  · exact endsNumber_cons rfl _

private theorem run_bind {α β : Type} {reader : Reader α} {text rest : List Char} {value : α}
    (done : reader.run text = .ok (value, rest)) (next : α → Reader β) :
    (reader >>= next).run text = (next value).run rest := by
  rw [StateT.run_bind, done]
  rfl

private theorem run_blanks (text : List Char) : blanks.run text = .ok ((), Text.trimStart text) :=
  rfl

private theorem trimStart_colon (text : List Char) : Text.trimStart (':' :: text) = ':' :: text :=
  rfl

private theorem run_separator (text : List Char) : separator.run ('T' :: text) = .ok ((), text) :=
  rfl

private theorem run_offset : offset.run ['Z'] = .ok (0, []) := rfl

theorem parts_toChars (t : Timestamp) :
    parts.run t.toChars = .ok (⟨t.date.year, t.date.month, t.date.day, t.hour, t.minute, t.second,
      t.nanosecond, 0⟩, []) := by
  have year' (rest : List Char) := year_yearText rest t.date.year_bounds.1 t.date.year_bounds.2
  have day_le : t.date.day ≤ 31 :=
    Nat.le_trans t.date.day_bounds.2 (daysInMonth_bounds t.date.year t.date.month).2
  have month' (rest : List Char) : (field 1 12).run (padded 2 t.date.month ++ '-' :: rest) =
      .ok (t.date.month, '-' :: rest) :=
    field_padded (endsNumber_cons rfl _) t.date.month_bounds.1 t.date.month_bounds.2
      (Nat.lt_of_le_of_lt t.date.month_bounds.2 (by decide))
  have day' (rest : List Char) : (field 1 31).run (padded 2 t.date.day ++ 'T' :: rest) =
      .ok (t.date.day, 'T' :: rest) :=
    field_padded (endsNumber_cons rfl _) t.date.day_bounds.1 day_le
      (Nat.lt_of_le_of_lt day_le (by decide))
  have hour' (rest : List Char) : (field 0 23).run (padded 2 t.hour ++ ':' :: rest) =
      .ok (t.hour, ':' :: rest) :=
    field_padded (endsNumber_cons rfl _) (Nat.zero_le _) (Nat.le_of_lt_succ t.hour_lt)
      (Nat.lt_trans t.hour_lt (by decide))
  have minute' (rest : List Char) : (field 0 59).run (padded 2 t.minute ++ ':' :: rest) =
      .ok (t.minute, ':' :: rest) :=
    field_padded (endsNumber_cons rfl _) (Nat.zero_le _) (Nat.le_of_lt_succ t.minute_lt)
      (Nat.lt_trans t.minute_lt (by decide))
  have second' : (field 0 60).run (padded 2 t.second ++ (fractionText t.nanosecond ++ ['Z'])) =
      .ok (t.second, fractionText t.nanosecond ++ ['Z']) :=
    field_padded (endsNumber_fractionText _) (Nat.zero_le _) t.second_le
      (Nat.lt_of_le_of_lt t.second_le (by decide))
  have fraction' := fraction_fractionText t.nanosecond_lt
  simp only [toChars, List.append_assoc, List.cons_append]
  rw [parts, run_bind (year' _), run_bind (run_blanks _), trimStart_minus,
    run_bind (literal_cons _ _), run_bind (month' _), run_bind (run_blanks _), trimStart_minus,
    run_bind (literal_cons _ _), run_bind (day' _), run_bind (run_separator _),
    run_bind (hour' _), run_bind (run_blanks _), trimStart_colon, run_bind (literal_cons _ _),
    run_bind (minute' _), run_bind (run_blanks _), trimStart_colon, run_bind (literal_cons _ _),
    run_bind second', run_bind fraction', run_bind (run_blanks _)]
  exact run_bind run_offset _

theorem of?_date (date : Date) : Date.of? date.year date.month date.day = some date :=
  dif_pos ⟨date.year_bounds, date.month_bounds, date.day_bounds⟩

theorem ofLocal?_utc (t : Timestamp) :
    ofLocal? t.date t.hour t.minute t.second t.nanosecond 0 = some t := by
  obtain ⟨date, hour, minute, second, nanosecond, hour_lt, minute_lt, second_le, nanosecond_lt⟩ := t
  have early : ¬ ((hour * 60 + minute : Nat) : Int) - 0 < 0 := by omega
  have late : ¬ ((hour * 60 + minute : Nat) : Int) - 0 ≥ 1440 := by omega
  have ofDay : (((hour * 60 + minute : Nat) : Int) - 0) % 1440 = (hour * 60 + minute : Nat) := by
    omega
  have hours : (hour * 60 + minute) / 60 % 24 = hour := by omega
  have minutes : (hour * 60 + minute) % 60 = minute := by omega
  simp only [ofLocal?, early, late, if_false, ofDay, Int.toNat_natCast, hours, minutes]
  exact dif_pos ⟨second_le, nanosecond_lt⟩

theorem ofString_toString (t : Timestamp) : ofString t.toString = .ok t := by
  have date := of?_date t.date
  have utc := t.ofLocal?_utc
  rw [ofString, toString, String.toList_ofList, ofChars, parts_toChars]
  simp only [bind, Except.bind, date, utc]
  rfl

end Provision.Timestamp
