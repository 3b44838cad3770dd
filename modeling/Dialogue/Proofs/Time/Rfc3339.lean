import Dialogue.Time.Rfc3339
import Mathlib.Data.Nat.Digits.Defs

set_option autoImplicit false

namespace Dialogue.Timestamp

theorem digit_iff (c : Char) : isDigit c = true ↔ 48 ≤ c.toNat ∧ c.toNat ≤ 57 := by
  rw [isDigit, decide_eq_true_eq]
  exact Iff.rfl

theorem digit_of_core (c : Char) (digit : c.isDigit = true) : isDigit c = true := by
  rw [digit_iff]
  simpa [Char.isDigit, UInt32.le_iff_toNat_le] using digit

theorem digit_unblank (c : Char) (digit : isDigit c = true) : Text.isBlankChar c = false := by
  rw [digit_iff] at digit
  rw [Text.isBlankChar, List.any_eq_false]
  simp only [Text.blankRanges, List.mem_cons, List.not_mem_nil, or_false, forall_eq_or_imp,
    forall_eq, Bool.and_eq_true, decide_eq_true_eq]
  omega

theorem digits_value_eq (digits : List Char) :
    digitsValue digits = Nat.ofDigitChars 10 digits 0 := by
  rw [digitsValue, Nat.ofDigitChars_eq_foldl]
  simp only [Nat.mul_comm 10]
  rfl

theorem padded_length (width n : Nat) : (padded width n).length = width := by
  induction width generalizing n with
  | zero => rfl
  | succ width ih => rw [padded, List.length_append, ih, List.length_singleton]

theorem padded_digits (width n : Nat) : ∀ c ∈ padded width n, isDigit c = true := by
  induction width generalizing n with
  | zero => simp [padded]
  | succ width ih =>
      have last : isDigit (Nat.digitChar (n % 10)) = true := by
        apply digit_of_core
        rw [Nat.isDigit_digitChar, decide_eq_true_eq]
        exact Nat.mod_lt n (by decide)
      rw [padded, List.forall_mem_append, List.forall_mem_singleton]
      exact ⟨ih (n / 10), last⟩

theorem padded_value (width n : Nat) (fits : n < 10 ^ width) :
    digitsValue (padded width n) = n := by
  induction width generalizing n with
  | zero =>
      rw [Nat.pow_zero, Nat.lt_one_iff] at fits
      rw [fits]
      rfl
  | succ width ih =>
      have digit : (Nat.digitChar (n % 10)).toNat = 48 + n % 10 :=
        Nat.toNat_digitChar_of_lt_ten (Nat.mod_lt n (by decide))
      have higher := ih (n / 10) (by rw [Nat.pow_succ] at fits; omega)
      rw [digitsValue] at higher
      rw [padded, digitsValue, List.foldl_append, higher, List.foldl_cons, List.foldl_nil, digit]
      omega

theorem padded_cons (width n : Nat) (positive : width ≠ 0) :
    ∃ c tail, padded width n = c :: tail ∧ isDigit c = true := by
  cases digits : padded width n with
  | nil => exact absurd ((padded_length width n).symm.trans (congrArg List.length digits)) positive
  | cons c tail => exact ⟨c, tail, rfl, padded_digits width n c (digits ▸ List.mem_cons_self)⟩

theorem number_padded (width n : Nat) (rest : List Char) (positive : width ≠ 0)
    (fits : n < 10 ^ width) : number (some width) (padded width n ++ rest) = some (n, rest) := by
  have digits : ((padded width n ++ rest).takeWhile isDigit).take width = padded width n := by
    rw [List.takeWhile_append_of_pos (padded_digits width n)]
    exact List.take_left' (padded_length width n)
  have filled : (padded width n).isEmpty = false := by
    obtain ⟨first, tail, whole, _⟩ := padded_cons width n positive
    rw [whole, List.isEmpty_cons]
  rw [number]
  simp only [digits, filled, padded_value width n fits, List.drop_left]
  rfl

-- Without a width the digits are read up to the first character that is none.
theorem number_whole (digits rest : List Char) (c : Char) (all : ∀ d ∈ digits, isDigit d = true)
    (filled : digits ≠ []) (stops : isDigit c = false) :
    number none (digits ++ c :: rest) = some (digitsValue digits, c :: rest) := by
  have taken : (digits ++ c :: rest).takeWhile isDigit = digits := by
    rw [List.takeWhile_append_of_pos all, List.takeWhile_cons_of_neg (by simp [stops]),
      List.append_nil]
  rw [number]
  simp only [taken, List.isEmpty_eq_false_iff.mpr filled, List.drop_left]
  rfl

theorem skip_blank_cons (c : Char) (rest : List Char) (unblank : Text.isBlankChar c = false) :
    skipBlank (c :: rest) = c :: rest :=
  List.dropWhile_cons_of_neg (by simp [unblank])

theorem skip_blank_padded (width n : Nat) (rest : List Char) (positive : width ≠ 0) :
    skipBlank (padded width n ++ rest) = padded width n ++ rest := by
  obtain ⟨c, tail, digits, digit⟩ := padded_cons width n positive
  rw [digits, List.cons_append, skip_blank_cons c _ (digit_unblank c digit)]

theorem two_digits_padded (n : Nat) (rest : List Char) (fits : n < 100) :
    twoDigits (padded 2 n ++ rest) = some (n, rest) := by
  rw [twoDigits, skip_blank_padded 2 n rest (by decide), number_padded 2 n rest (by decide) fits]

theorem separator_cons (c : Char) (rest : List Char) (unblank : Text.isBlankChar c = false) :
    separator c (c :: rest) = some rest := by
  simp [separator, skip_blank_cons c rest unblank]

theorem year_of_four (n : Nat) (rest : List Char) (fits : n < 10 ^ 4) :
    year (padded 4 n ++ rest) = some ((n : Int), rest) := by
  have read := number_padded 4 n rest (by decide) fits
  obtain ⟨c, tail, digits, digit⟩ := padded_cons 4 n (by decide)
  rw [year, skip_blank_padded 4 n rest (by decide)]
  rw [digit_iff] at digit
  rw [digits, List.cons_append] at read ⊢
  split
  · rename_i same
    cases same
    exact absurd digit (by decide)
  · rename_i same
    cases same
    exact absurd digit (by decide)
  · rw [read]
    rfl

def longDigits (year : Int) : List Char :=
  let digits := Nat.toDigits 10 year.natAbs
  List.replicate (4 - digits.length) '0' ++ digits

theorem number_long (year : Int) (rest : List Char) :
    number none (longDigits year ++ '-' :: rest) = some (year.natAbs, '-' :: rest) := by
  have value : digitsValue (longDigits year) = year.natAbs := by
    rw [digits_value_eq, longDigits, Nat.ofDigitChars_append, Nat.ofDigitChars_replicate_zero,
      Nat.mul_zero, Nat.ofDigitChars_toDigits (by decide) (by decide)]
  have all : ∀ c ∈ longDigits year, isDigit c = true := by
    rw [longDigits, List.forall_mem_append]
    refine ⟨fun c zero => ?_, fun c member => ?_⟩
    · rw [List.eq_of_mem_replicate zero]
      decide
    · exact digit_of_core c (Nat.isDigit_of_mem_toDigits (by decide) (by decide) member)
  have filled : longDigits year ≠ [] := by
    rw [longDigits]
    exact List.append_ne_nil_of_right_ne_nil _ Nat.toDigits_ne_nil
  rw [number_whole _ rest '-' all filled (by decide), value]

theorem year_written (date : Int) (rest : List Char) :
    year (yearText date ++ '-' :: rest) = some (date, '-' :: rest) := by
  by_cases short : 0 ≤ date ∧ date ≤ 9999
  · rw [yearText, if_pos short, year_of_four _ _ (by omega), Int.toNat_of_nonneg short.1]
  · have signed : yearText date = (if date < 0 then '-' else '+') :: longDigits date := by
      rw [yearText, if_neg short]
      rfl
    have read := number_long date rest
    rw [signed, List.cons_append]
    by_cases negative : date < 0
    · rw [if_pos negative, year, skip_blank_cons '-' _ (by decide)]
      simp only [read, Option.map_some]
      rw [Int.ofNat_natAbs_of_nonpos (by omega), Int.neg_neg]
    · rw [if_neg negative, year, skip_blank_cons '+' _ (by decide)]
      simp only [read, Option.map_some]
      rw [Int.natAbs_of_nonneg (by omega)]

theorem number_within (cap width n : Nat) (rest : List Char) (c : Char) (positive : width ≠ 0)
    (bound : width ≤ cap) (fits : n < 10 ^ width) (stops : isDigit c = false) :
    number (some cap) (padded width n ++ c :: rest) = some (n, c :: rest) := by
  have digits : ((padded width n ++ c :: rest).takeWhile isDigit).take cap = padded width n := by
    rw [List.takeWhile_append_of_pos (padded_digits width n),
      List.takeWhile_cons_of_neg (by simp [stops]), List.append_nil,
      List.take_of_length_le (by rw [padded_length]; exact bound)]
  have filled : (padded width n).isEmpty = false := by
    obtain ⟨first, tail, whole, _⟩ := padded_cons width n positive
    rw [whole, List.isEmpty_cons]
  rw [number]
  simp only [digits, filled, padded_value width n fits, List.drop_left]
  rfl

theorem fraction_padded (width n : Nat) (rest : List Char) (positive : width ≠ 0)
    (bound : width ≤ 9) (fits : n < 10 ^ width) :
    fraction ('.' :: (padded width n ++ 'Z' :: rest)) =
      some (n * 10 ^ (9 - width), 'Z' :: rest) := by
  have read := number_within 9 width n rest 'Z' positive bound fits (by decide)
  have digits : (padded width n ++ 'Z' :: rest).length - ('Z' :: rest).length = width := by
    rw [List.length_append, padded_length]
    omega
  have stops : ('Z' :: rest).dropWhile isDigit = 'Z' :: rest :=
    List.dropWhile_cons_of_neg (by decide)
  simp only [fraction, read, Option.bind_eq_bind, Option.bind_some, digits, stops]
  rfl

theorem fraction_written (nanosecond : Nat) (rest : List Char) (fits : nanosecond < 10 ^ 9) :
    fraction (fractionText nanosecond ++ 'Z' :: rest) = some (nanosecond, 'Z' :: rest) := by
  rw [fractionText]
  split
  · rename_i whole
    rw [whole]
    rfl
  · split
    · rw [List.cons_append, fraction_padded 3 _ rest (by decide) (by decide) (by omega)]
      exact congrArg (fun value => some (value, 'Z' :: rest)) (by omega)
    · split
      · rw [List.cons_append, fraction_padded 6 _ rest (by decide) (by decide) (by omega)]
        exact congrArg (fun value => some (value, 'Z' :: rest)) (by omega)
      · rw [List.cons_append, fraction_padded 9 _ rest (by decide) (by decide) fits]
        exact congrArg (fun value => some (value, 'Z' :: rest)) (by omega)

theorem at_utc (t : Timestamp) : atOffset? t.date t.time 0 = some t := by
  obtain ⟨date, ⟨hour, minute, second, nanosecond⟩, dateReal, timeReal⟩ := t
  have real := timeReal
  simp only [TimeOfDay.isReal, Bool.and_eq_true, decide_eq_true_eq] at real
  obtain ⟨⟨⟨hours, minutes⟩, _⟩, _⟩ := real
  have today : ¬ ((hour : Int) * 60 + minute - 0 < 0) ∧
      ¬ (1440 ≤ (hour : Int) * 60 + minute - 0) := by
    omega
  have ofDay : (((hour : Int) * 60 + minute - 0) % 1440).toNat = hour * 60 + minute := by omega
  have hourOfDay : (hour * 60 + minute) / 60 = hour := by omega
  have minuteOfHour : (hour * 60 + minute) % 60 = minute := by omega
  rw [atOffset?, if_pos ⟨dateReal, timeReal⟩]
  simp only [if_neg today.1, if_neg today.2, ofDay, hourOfDay, minuteOfHour]
  exact dif_pos ⟨dateReal, timeReal⟩

theorem read_write (t : Timestamp) : read? t.write = some t := by
  have dateReal := t.date_real
  have timeReal := t.time_real
  simp only [Date.isReal, Bool.and_eq_true, decide_eq_true_eq] at dateReal
  simp only [TimeOfDay.isReal, Bool.and_eq_true, decide_eq_true_eq] at timeReal
  have bound : t.date.day ≤ 31 := by
    refine dateReal.2.trans ?_
    rw [Date.monthLength]
    repeat' split
    all_goals decide
  have zulu : offset (skipBlank ['Z']) = some (0, []) := rfl
  have whole : t.write = yearText t.date.year ++ '-' :: (padded 2 t.date.month ++
      '-' :: (padded 2 t.date.day ++ 'T' :: (padded 2 t.time.hour ++
        ':' :: (padded 2 t.time.minute ++ ':' :: (padded 2 t.time.second ++
          (fractionText t.time.nanosecond ++ ['Z'])))))) := by
    simp only [write, List.append_assoc, List.cons_append]
  rw [whole]
  refine Option.bind_eq_some_iff.mpr ⟨_, year_written t.date.year _, ?_⟩
  refine Option.bind_eq_some_iff.mpr ⟨_, separator_cons '-' _ (by decide), ?_⟩
  refine Option.bind_eq_some_iff.mpr ⟨_, two_digits_padded t.date.month _ (by omega), ?_⟩
  refine Option.bind_eq_some_iff.mpr ⟨_, separator_cons '-' _ (by decide), ?_⟩
  refine Option.bind_eq_some_iff.mpr ⟨_, two_digits_padded t.date.day _ (by omega), ?_⟩
  refine Option.bind_eq_some_iff.mpr ⟨_, rfl, ?_⟩
  refine Option.bind_eq_some_iff.mpr ⟨_, two_digits_padded t.time.hour _ (by omega), ?_⟩
  refine Option.bind_eq_some_iff.mpr ⟨_, separator_cons ':' _ (by decide), ?_⟩
  refine Option.bind_eq_some_iff.mpr ⟨_, two_digits_padded t.time.minute _ (by omega), ?_⟩
  refine Option.bind_eq_some_iff.mpr ⟨_, separator_cons ':' _ (by decide), ?_⟩
  refine Option.bind_eq_some_iff.mpr ⟨_, two_digits_padded t.time.second _ (by omega), ?_⟩
  refine Option.bind_eq_some_iff.mpr
    ⟨_, fraction_written t.time.nanosecond [] timeReal.2, ?_⟩
  exact Option.bind_eq_some_iff.mpr ⟨_, zulu, at_utc t⟩

end Dialogue.Timestamp
