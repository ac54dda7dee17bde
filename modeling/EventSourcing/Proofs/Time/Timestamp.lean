import EventSourcing.Proofs.Time.Calendar
import EventSourcing.Time.Timestamp
import Mathlib.Algebra.Group.Nat.Defs

/-!
# Timestamps are read as they were written

Every part of a timestamp has a fixed number of digits, or ends at a character that is no digit.
So each reader finds the part that the writer put there, and the parts give the instant back: the
date because it exists, and the second because a leap second is the only one that is written as
60.

## Main Statements

* `Timestamp.read_write` — the timestamp of an instant is read back as the instant.
-/

namespace EventSourcing.Timestamp

/-! ### Digits -/

@[simp] theorem length_padded (width n : Nat) : (padded width n).length = width := by
  induction width generalizing n with
  | zero => rfl
  | succ width ih => simp [padded, ih]

/-- The characters of a padded number are digits, and none of them is white space. -/
theorem mem_padded {width n : Nat} {c : Char} (hc : c ∈ padded width n) :
    c.isDigit = true ∧ Text.isSpace c = false := by
  induction width generalizing n with
  | zero => simp [padded] at hc
  | succ width ih =>
    rcases List.mem_append.mp hc with hc | hc
    · exact ih hc
    · have hdigit : ∀ d < 10, (Char.ofNat (48 + d)).isDigit = true ∧
          Text.isSpace (Char.ofNat (48 + d)) = false := by decide
      rw [List.mem_singleton.mp hc]
      exact hdigit _ (Nat.mod_lt _ (by omega))

theorem digitsValue_padded (width n : Nat) : digitsValue (padded width n) = n % 10 ^ width := by
  induction width generalizing n with
  | zero => simp [padded, digitsValue, Nat.mod_one]
  | succ width ih =>
    have hdigit : ∀ d < 10, (Char.ofNat (48 + d)).toNat - 48 = d := by decide
    have hfold : digitsValue (padded (width + 1) n) =
        digitsValue (padded width (n / 10)) * 10 + n % 10 := by
      simp [padded, digitsValue, List.foldl_append, hdigit _ (Nat.mod_lt n (by omega))]
    rw [hfold, ih, Nat.pow_succ, Nat.mul_comm (10 ^ width) 10, Nat.mod_mul]
    omega

/-- A padded number is read if the reader may take all of its digits and nothing that follows is
taken for one. -/
theorem number_padded {width k n : Nat} {rest : List Char} (hk : 0 < k) (hwidth : k ≤ width)
    (hfit : n < 10 ^ k) (hlt : n < 9223372036854775808)
    (hrest : k = width ∨ ∀ c ∈ rest.head?, c.isDigit = false) :
    number width (padded k n ++ rest) = .ok (n, rest) := by
  have hdigits : ∀ c ∈ padded k n, c.isDigit = true := fun c hc => (mem_padded hc).1
  have htaken : ((padded k n ++ rest).take width).takeWhile Char.isDigit = padded k n := by
    rw [List.take_append, List.take_of_length_le (by simpa using hwidth), length_padded,
      List.takeWhile_append_of_pos hdigits]
    have hnone : (rest.take (width - k)).takeWhile Char.isDigit = [] := by
      rcases hrest with rfl | hrest
      · simp
      · cases rest with
        | nil => simp
        | cons c rest =>
          cases width - k with
          | zero => rfl
          | succ m => simp [hrest c rfl]
    rw [hnone, List.append_nil]
  have hne : padded k n ≠ [] := by
    intro h
    have := congrArg List.length h
    simp at this
    omega
  rw [number, htaken]
  split
  · rename_i h
    exact absurd h hne
  · simp [digitsValue_padded, Nat.mod_eq_of_lt hfit, hlt]

/-! ### The parts of a timestamp -/

theorem trimStart_cons {c : Char} {s : List Char} (h : Text.isSpace c = false) :
    trimStart (c :: s) = c :: s := by
  simp [trimStart, h]

theorem trimStart_padded {k n : Nat} (hk : 0 < k) (s : List Char) :
    trimStart (padded k n ++ s) = padded k n ++ s := by
  cases hp : padded k n with
  | nil =>
    have := congrArg List.length hp
    simp at this
    omega
  | cons c cs => exact trimStart_cons (mem_padded (hp ▸ List.mem_cons_self)).2

theorem mark_cons {c : Char} (h : Text.isSpace c = false) (s : List Char) :
    mark c (c :: s) = .ok s := by
  simp [mark, trimStart_cons h]

/-- Two digits are read if they lie in the range. -/
theorem field_padded {lo hi n : Nat} (hlo : lo ≤ n) (hhi : n ≤ hi) (hlt : n < 100)
    (s : List Char) : field 2 lo hi (padded 2 n ++ s) = .ok (n, s) := by
  rw [field, trimStart_padded (by omega), number_padded (by omega) (by omega) hlt (by omega)
    (.inl rfl)]
  simp [bind, Except.bind, pure, Except.pure, hlo, hhi]

/-- A year with its sign is read up to the hyphen behind it. -/
theorem number_signed (n : Nat) (hlt : n < 9223372036854775808) (s : List Char) :
    let ds := padded (max 4 (toString n).length) n
    number (ds ++ '-' :: s).length (ds ++ '-' :: s) = .ok (n, '-' :: s) := by
  intro ds
  have hfit : n < 10 ^ (toString n).length := by
    rw [Nat.toString_eq_repr]
    exact (Nat.length_repr_le_iff (Nat.length_repr_pos)).mp (Nat.le_refl _)
  refine number_padded (by omega) (by simp [ds]) ?_ hlt (.inr ?_)
  · exact Nat.lt_of_lt_of_le hfit (Nat.pow_le_pow_right (by omega) (by omega))
  · intro c hc
    cases hc
    rfl

/-- The written form of a year is read up to the hyphen behind it. -/
theorem year_writeYear {y : Int} (h : -262143 ≤ y ∧ y ≤ 262142) (s : List Char) :
    year (writeYear y ++ '-' :: s) = .ok (y, '-' :: s) := by
  have hrange : -2147483648 ≤ y ∧ y ≤ 2147483647 := by omega
  have hsigned := number_signed y.natAbs (by omega) s
  unfold writeYear
  split
  · rename_i hfour
    have hread : number 4 (padded 4 y.toNat ++ '-' :: s) = .ok (y.toNat, '-' :: s) :=
      number_padded (by omega) (by omega) (by omega) (by omega) (.inl rfl)
    have hback : (y.toNat : Int) = y := by omega
    rw [year, trimStart_padded (by omega)]
    -- The first digit is neither of the two signs.
    cases hp : padded 4 y.toNat with
    | nil => simpa using congrArg List.length hp
    | cons c cs =>
      rw [hp] at hread
      have hdigit := (mem_padded (hp ▸ List.mem_cons_self : c ∈ padded 4 y.toNat)).1
      have hminus : c ≠ '-' := by
        rintro rfl
        cases hdigit
      have hplus : c ≠ '+' := by
        rintro rfl
        cases hdigit
      simp only [List.cons_append] at hread ⊢
      split
      · rename_i heq
        exact absurd (List.cons.inj heq).1 hminus
      · rename_i heq
        exact absurd (List.cons.inj heq).1 hplus
      · simp [hread, bind, Except.bind, pure, Except.pure, hback, hrange]
  · split
    · have hback : -(y.natAbs : Int) = y := by omega
      rw [year, List.cons_append, trimStart_cons rfl]
      simp only [hsigned, bind, Except.bind, pure, Except.pure, hback, hrange, and_self, if_true]
    · have hback : (y.natAbs : Int) = y := by omega
      rw [year, List.cons_append, trimStart_cons rfl]
      simp only [hsigned, bind, Except.bind, pure, Except.pure, hback, hrange, and_self, if_true]

/-- Digits behind a point are read in nanoseconds. -/
theorem fraction_padded {k n : Nat} (hk : 0 < k) (hle : k ≤ 9) (hfit : n < 10 ^ k) :
    fraction ('.' :: (padded k n ++ ['Z'])) = .ok (n * 10 ^ (9 - k), ['Z']) := by
  have hpow : 10 ^ k ≤ 10 ^ 9 := Nat.pow_le_pow_right (by omega) hle
  have hread : number 9 (padded k n ++ ['Z']) = .ok (n, ['Z']) := by
    refine number_padded hk hle hfit (by omega) (.inr ?_)
    intro c hc
    cases hc
    rfl
  have hlength : (padded k n ++ ['Z']).length - 1 = k := by simp
  simp only [fraction, hread, bind, Except.bind, pure, Except.pure, List.length_singleton, hlength]
  rfl

/-- The written form of a fraction is read up to the `Z` behind it. -/
theorem fraction_writeFraction {nano : Nat} (h : nano < 1000000000) :
    fraction (writeFraction nano ++ ['Z']) = .ok (nano, ['Z']) := by
  unfold writeFraction
  split
  · rename_i hzero
    subst hzero
    rfl
  split
  · rw [List.cons_append, fraction_padded (by omega) (by omega) (by omega),
      show (10 : Nat) ^ (9 - 3) = 1000000 from rfl,
      Nat.div_mul_cancel (Nat.dvd_of_mod_eq_zero (by assumption))]
  split
  · rw [List.cons_append, fraction_padded (by omega) (by omega) (by omega),
      show (10 : Nat) ^ (9 - 6) = 1000 from rfl,
      Nat.div_mul_cancel (Nat.dvd_of_mod_eq_zero (by assumption))]
  · rw [List.cons_append, fraction_padded (by omega) (by omega) (by omega)]
    simp

/-! ### The whole -/

/-- The parts that are written of an instant give the instant. -/
theorem assemble_parts (t : Instant) :
    assemble (Date.ofDays (t.second / 86400)) ((t.second % 86400).toNat / 3600)
      ((t.second % 86400).toNat / 60 % 60)
      ((t.second % 86400).toNat % 60 + t.nano / 1000000000) (t.nano % 1000000000) 0 = .ok t := by
  have hsecond := t.second_mem
  have hnano := t.nano_mem
  have hyear := Date.year_ofDays (n := t.second / 86400) (by omega)
  have hvalid := Date.isValid_ofDays (t.second / 86400)
  have hwhole : (Date.ofDays (t.second / 86400)).toDays * 86400 +
      ((t.second % 86400).toNat / 3600 : Nat) * 3600 +
      ((t.second % 86400).toNat / 60 % 60 : Nat) * 60 +
      (min ((t.second % 86400).toNat % 60 + t.nano / 1000000000) 59 : Nat) - 0 = t.second := by
    rw [Date.toDays_ofDays]
    omega
  have hfraction : (if (t.second % 86400).toNat % 60 + t.nano / 1000000000 = 60 then
      t.nano % 1000000000 + 1000000000 else t.nano % 1000000000) = t.nano := by
    split <;> omega
  unfold assemble
  simp only [hvalid, hyear, and_self, not_true, if_false, hwhole, hfraction,
    Instant.ofParts?_self, bind, Except.bind, pure, Except.pure]
  rfl

/-- The characters of the timestamp of an instant are read back as the instant. -/
theorem readChars_writeChars (t : Instant) : readChars (writeChars t) = .ok t := by
  have hsecond := t.second_mem
  have hnano := t.nano_mem
  have hyear := Date.year_ofDays (n := t.second / 86400) (by omega)
  obtain ⟨hmonth, hmonth', hday, hday'⟩ := Date.isValid_ofDays (t.second / 86400)
  have hlength : Date.monthLength (Date.ofDays (t.second / 86400)).year
      (Date.ofDays (t.second / 86400)).month ≤ 31 := by
    unfold Date.monthLength
    repeat' split
    all_goals decide
  have hassemble := assemble_parts t
  -- From here on, the reader goes from part to part as the writer did.
  simp only [writeChars, List.append_assoc, List.cons_append]
  rw [readChars, year_writeYear hyear]
  simp only [bind, Except.bind, mark_cons (show Text.isSpace '-' = false by decide)]
  rw [field_padded hmonth hmonth' (by omega)]
  simp only [mark_cons (show Text.isSpace '-' = false by decide)]
  rw [field_padded hday (by omega) (by omega)]
  simp only [divider, decide_true, Bool.or_true, Bool.true_or, if_true]
  rw [field_padded (Nat.zero_le _) (by omega) (by omega)]
  simp only [mark_cons (show Text.isSpace ':' = false by decide)]
  rw [field_padded (Nat.zero_le _) (by omega) (by omega)]
  simp only [mark_cons (show Text.isSpace ':' = false by decide)]
  rw [field_padded (Nat.zero_le _) (by omega) (by omega)]
  simp only [fraction_writeFraction (Nat.mod_lt _ (by omega))]
  exact hassemble

/-- **The timestamp of an instant is read back as the instant.** -/
theorem read_write (t : Instant) : read (write t) = .ok t := by
  rw [read, write, String.toList_ofList, readChars_writeChars]

end EventSourcing.Timestamp
