import EventSourcing.Json.Lexeme

/-!
# Lexemes are read as they were written

What the printer writes of a string or an integer is read back from the front of any document in
which the lexeme ends where it was ended.  A string ends by its closing quote, so anything may
follow it; a number ends by the first byte that cannot continue it.

White space that the indented layout puts in front of a value is skipped.

## Main Definitions

* `Json.Stops` — what follows cannot continue a number.

## Main Statements

* `Json.skipSpace_line` — the white space of both layouts is skipped.
* `Json.string_printed` — a printed string is read back.
* `Json.number_printInt` — a printed integer of 64 bits is read back.
-/

namespace EventSourcing.Json

/-! ### White space -/

theorem skipSpace_cons {b : UInt8} {rest : Bytes} (h : isSpaceByte b = false) :
    skipSpace (b :: rest) = b :: rest := by
  simp [skipSpace, h]

theorem skipSpace_append (front : Bytes) (h : ∀ b ∈ front, isSpaceByte b = true) (s : Bytes) :
    skipSpace (front ++ s) = skipSpace s := by
  induction front with
  | nil => rfl
  | cons b front ih =>
    rw [skipSpace, List.cons_append, List.dropWhile_cons, if_pos (h b (by simp))]
    exact ih fun c hc => h c (by simp [hc])

/-- The white space that a layout puts in front of items, members and closing brackets is
skipped. -/
theorem skipSpace_line (layout : Layout) (depth : Nat) (s : Bytes) :
    skipSpace (layout.line depth ++ s) = skipSpace s := by
  refine skipSpace_append _ (fun b hb => ?_) s
  cases layout with
  | compact => simp [Layout.line] at hb
  | indented =>
    rcases List.mem_cons.mp hb with rfl | hb
    · rfl
    · rw [List.eq_of_mem_replicate hb]
      rfl

/-! ### Strings -/

theorem low_toNat_div (b : UInt8) : (Hex.low (b.toNat / 16)).val * 16 + (Hex.low b.toNat).val =
    b.toNat := by
  have := b.toNat_lt
  simp only [Hex.low]
  omega

/-- The escape of a control character is that character. -/
theorem unicodeEscape_control {b : UInt8} (hb : b < 0x20) (s : Bytes) :
    unicodeEscape (0x30 :: 0x30 :: Hex.byte (Hex.low (b.toNat / 16)) ::
      Hex.byte (Hex.low b.toNat) :: s) = .ok ([b], s) := by
  have hzero : Hex.digit? 0x30 = some (Hex.low 0) := rfl
  have hvalue : Hex.value [Hex.low 0, Hex.low 0, Hex.low (b.toNat / 16), Hex.low b.toNat] =
      b.toNat := by
    simpa [Hex.value, Hex.low] using low_toNat_div b
  have hlt : b.toNat < 32 := hb
  have hcode : codePoint b.toNat = [b] := by
    have hascii : ∀ n < 32, codePoint n = [UInt8.ofNat n] := by decide
    rw [hascii _ hlt, UInt8.ofNat_toNat]
  have hhex : hexEscape (0x30 :: 0x30 :: Hex.byte (Hex.low (b.toNat / 16)) ::
      Hex.byte (Hex.low b.toNat) :: s) = .ok (b.toNat, s) := by
    simp [hexEscape, hzero, hvalue]
  rw [unicodeEscape, hhex]
  have hlow : ¬ (56320 ≤ b.toNat ∧ b.toNat ≤ 57343) := by omega
  have hhigh : ¬ (55296 ≤ b.toNat ∧ b.toNat ≤ 56319) := by omega
  simp [bind, Except.bind, pure, Except.pure, hlow, hhigh, hcode]

/-- The written form of a byte is read in one step. -/
theorem stringBytes_escapeByte (limit : Nat) (b : UInt8) (s : Bytes) :
    stringBytes (limit + 1) (escapeByte b ++ s) =
      (stringBytes limit s).map fun read => (b :: read.1, read.2) := by
  have hmap : ∀ read : Except Failure (Bytes × Bytes), (read.bind fun r => .ok (b :: r.1, r.2)) =
      read.map fun r => (b :: r.1, r.2) := by
    intro read
    cases read <;> rfl
  -- One case for each way in which the printer writes a byte.
  unfold escapeByte
  split
  · rename_i hquote
    subst hquote
    exact hmap _
  split
  · rename_i hslash
    subst hslash
    exact hmap _
  split
  · rename_i hcontrol
    cases hletter : letter? b with
    | some l =>
      unfold letter? at hletter
      have hread : escape (l :: s) = .ok ([b], s) := by
        repeat' split at hletter
        all_goals cases hletter
        all_goals subst_vars; rfl
      simp only [List.cons_append, List.nil_append]
      rw [stringBytes, if_neg (by decide), if_pos rfl, hread]
      exact hmap _
    | none =>
      simp only [List.cons_append, List.nil_append]
      rw [stringBytes, if_neg (by decide), if_pos rfl]
      have hread := unicodeEscape_control hcontrol s
      simp only [escape, show unletter? 0x75 = none from rfl, if_true, hread]
      exact hmap _
  · rename_i hquote hslash hcontrol
    rw [List.singleton_append, stringBytes, if_neg hquote, if_neg hslash, if_neg hcontrol]
    exact hmap _

/-- The written form of bytes between quotes is read back, if the loop may take a step for each of
them and one for the closing quote. -/
theorem stringBytes_printed {limit : Nat} {bytes : Bytes} (h : bytes.length < limit)
    (rest : Bytes) :
    stringBytes limit (bytes.flatMap escapeByte ++ quote :: rest) = .ok (bytes, rest) := by
  induction bytes generalizing limit with
  | nil =>
    obtain ⟨limit, rfl⟩ : ∃ n, limit = n + 1 := ⟨limit - 1, by simp at h; omega⟩
    rfl
  | cons b bytes ih =>
    obtain ⟨limit, rfl⟩ : ∃ n, limit = n + 1 := ⟨limit - 1, by simp at h; omega⟩
    rw [List.flatMap_cons, List.append_assoc, stringBytes_escapeByte, ih (by simpa using h)]
    rfl

theorem length_le_length_flatMap_escapeByte (bytes : Bytes) :
    bytes.length ≤ (bytes.flatMap escapeByte).length := by
  induction bytes with
  | nil => simp
  | cons b bytes ih =>
    have hone : 1 ≤ (escapeByte b).length := by
      unfold escapeByte
      repeat' split
      all_goals simp
    rw [List.flatMap_cons, List.length_append, List.length_cons]
    omega

/-- **A printed string is read back.**  The length of the document bounds the loop. -/
theorem string_printed {limit : Nat} (s : String) {rest : Bytes}
    (h : ((Bytes.ofText s).flatMap escapeByte ++ quote :: rest).length ≤ limit) :
    string limit ((Bytes.ofText s).flatMap escapeByte ++ quote :: rest) = .ok (s, rest) := by
  have hlen := length_le_length_flatMap_escapeByte (Bytes.ofText s)
  simp only [List.length_append, List.length_cons] at h
  rw [string, stringBytes_printed (by omega)]
  simp [bind, Except.bind, pure, Except.pure]

/-! ### Numbers -/

/-- What follows cannot continue a number. -/
def Stops (rest : Bytes) : Prop :=
  ∀ b ∈ rest.head?, isDigit b = false ∧ b ≠ 0x2E ∧ b ≠ 0x65 ∧ b ≠ 0x45

theorem stops_nil : Stops [] := by
  intro b hb
  cases hb

theorem stops_cons {b : UInt8} {rest : Bytes}
    (h : isDigit b = false ∧ b ≠ 0x2E ∧ b ≠ 0x65 ∧ b ≠ 0x45) : Stops (b :: rest) := by
  intro c hc
  cases hc
  exact h

theorem digitsOnto_append (front tail : Bytes) (fuel n : Nat) :
    digitsOnto (front ++ tail) fuel n = digitsOnto front fuel n ++ tail := by
  induction fuel generalizing front n with
  | zero => rfl
  | succ fuel ih =>
    simp only [digitsOnto]
    split
    · rfl
    · rw [← List.cons_append, ih]

/-- More fuel than the number does not change its digits. -/
theorem digitsOnto_fuel {fuel n : Nat} (h : n < fuel) (tail : Bytes) :
    digitsOnto tail fuel n = digitsOnto tail (n + 1) n := by
  induction n using Nat.strongRecOn generalizing fuel tail with
  | ind n ih =>
    obtain ⟨fuel, rfl⟩ : ∃ k, fuel = k + 1 := ⟨fuel - 1, by omega⟩
    simp only [digitsOnto]
    split
    · rfl
    · rw [ih (n / 10) (by omega) (by omega), ih (n / 10) (by omega) (show n / 10 < n by omega)]

/-- The digits of a number are those of its tenth and a last one. -/
theorem printNat_eq (n : Nat) : printNat n =
    if n < 10 then [UInt8.ofNat (48 + n)]
    else printNat (n / 10) ++ [UInt8.ofNat (48 + n % 10)] := by
  rw [printNat, digitsOnto]
  split
  · rw [Nat.mod_eq_of_lt (by assumption)]
  · rw [printNat, digitsOnto_fuel (by omega)]
    simpa using digitsOnto_append [] [UInt8.ofNat (48 + n % 10)] (n / 10 + 1) (n / 10)

theorem isDigit_ofNat {d : Nat} (h : d < 10) : isDigit (UInt8.ofNat (48 + d)) = true := by
  have : ∀ d < 10, isDigit (UInt8.ofNat (48 + d)) = true := by decide
  exact this d h

theorem digitsValue_append (ds : Bytes) (d : UInt8) :
    digitsValue (ds ++ [d]) = digitsValue ds * 10 + (d.toNat - 48) := by
  simp [digitsValue, digitValues, List.foldl_append]

/-- The printed digits are digits, they write the number, and there is no needless zero in
front. -/
theorem printNat_spec (n : Nat) : printNat n ≠ [] ∧ (∀ b ∈ printNat n, isDigit b = true) ∧
    digitsValue (printNat n) = n ∧ ((printNat n).head? = some 0x30 → n = 0) := by
  induction n using Nat.strongRecOn with
  | ind n ih =>
    rw [printNat_eq]
    split
    · rename_i hlt
      have hdigit : ∀ d < 10, digitsValue [UInt8.ofNat (48 + d)] = d ∧
          ([UInt8.ofNat (48 + d)].head? = some 0x30 → d = 0) := by decide
      refine ⟨by simp, fun b hb => ?_, hdigit n hlt⟩
      rw [List.mem_singleton.mp hb]
      exact isDigit_ofNat hlt
    · rename_i hge
      obtain ⟨hne, hdigits, hvalue, hzero⟩ := ih (n / 10) (by omega)
      have hmod : n % 10 < 10 := Nat.mod_lt _ (by omega)
      have hlast : (UInt8.ofNat (48 + n % 10)).toNat - 48 = n % 10 := by
        simp only [UInt8.toNat_ofNat']
        omega
      refine ⟨by simp, fun b hb => ?_, ?_, fun hhead => ?_⟩
      · rcases List.mem_append.mp hb with hb | hb
        · exact hdigits b hb
        · rw [List.mem_singleton.mp hb]
          exact isDigit_ofNat hmod
      · rw [digitsValue_append, hvalue, hlast]
        omega
      · obtain ⟨d, tail, heq⟩ := List.exists_cons_of_ne_nil hne
        rw [heq] at hhead hzero
        have := hzero hhead
        omega

/-- Digits are read up to where the number stops. -/
theorem digits_append {ds rest : Bytes} (hne : ds ≠ []) (hds : ∀ b ∈ ds, isDigit b = true)
    (hrest : Stops rest) : digits (ds ++ rest) = .ok (ds, rest) := by
  obtain ⟨d, tail, rfl⟩ := List.exists_cons_of_ne_nil hne
  have htake : rest.takeWhile isDigit = [] ∧ rest.dropWhile isDigit = rest := by
    cases rest with
    | nil => exact ⟨rfl, rfl⟩
    | cons b rest => simp [(hrest b rfl).1]
  have hread : digits (d :: tail ++ rest) = .ok ((d :: tail ++ rest).takeWhile isDigit,
      (d :: tail ++ rest).dropWhile isDigit) := by
    simp only [List.cons_append, digits, if_pos (hds d (by simp))]
  rw [hread, List.takeWhile_append_of_pos hds, List.dropWhile_append_of_pos hds, htake.1,
    htake.2, List.append_nil]

/-- A printed natural number is read back, with or without a sign in front. -/
theorem unsigned_printNat (negative : Bool) (n : Nat) {rest : Bytes} (hrest : Stops rest) :
    unsigned negative (printNat n ++ rest) =
      .ok (Numeral.ofDigits negative (printNat n), rest) := by
  obtain ⟨hne, hds, -, hzero⟩ := printNat_spec n
  have hlead : ¬ ((printNat n).head? = some 0x30 ∧ (printNat n).length ≠ 1) := by
    rintro ⟨hhead, hlen⟩
    rw [hzero hhead] at hlen
    exact hlen rfl
  rw [unsigned, digits_append hne hds hrest]
  simp only [bind, Except.bind, Bool.and_eq_true, decide_eq_true_eq, hlead, if_false, pure,
    Except.pure]
  cases rest with
  | nil => rfl
  | cons b rest =>
    obtain ⟨-, hpoint, hlower, hupper⟩ := hrest b rfl
    simp [hpoint, hlower, hupper]

/-- The first byte of a printed integer starts a number. -/
theorem exists_printInt_eq_cons (n : Int) :
    ∃ b tail, printInt n = b :: tail ∧ startsNumber b = true := by
  cases n with
  | ofNat n =>
    obtain ⟨hne, hds, -⟩ := printNat_spec n
    obtain ⟨b, tail, heq⟩ := List.exists_cons_of_ne_nil hne
    exact ⟨b, tail, heq, by simp [startsNumber, hds b (by simp [heq])]⟩
  | negSucc n => exact ⟨0x2D, printNat (n + 1), rfl, rfl⟩

/-- **A printed integer is read back**, if it fits 64 bits with or without a sign. -/
theorem number_printInt {n : Int} (hn : -9223372036854775808 ≤ n ∧ n < 18446744073709551616)
    {rest : Bytes} (hrest : Stops rest) :
    number (printInt n ++ rest) = .ok (.int n, rest) := by
  have hread : numeral (printInt n ++ rest) = .ok (.int n, rest) := by
    cases n with
    | ofNat n =>
      obtain ⟨hne, hds, hvalue, -⟩ := printNat_spec n
      obtain ⟨b, tail, heq⟩ := List.exists_cons_of_ne_nil hne
      have hminus : b ≠ 0x2D := by
        intro hb
        have := hds b (by simp [heq])
        rw [hb] at this
        cases this
      have hlt : n < 18446744073709551616 := by have := hn.2; simp at this; omega
      have hunsigned := unsigned_printNat false n hrest
      simp only [Numeral.ofDigits, hvalue, hlt, if_true, Bool.false_eq_true, if_false]
        at hunsigned
      rw [printInt, numeral]
      · exact hunsigned
      · intro tail' h
        rw [heq, List.cons_append] at h
        exact hminus (List.cons.inj h).1
    | negSucc n =>
      obtain ⟨-, -, hvalue, -⟩ := printNat_spec (n + 1)
      have hle : n + 1 ≤ 9223372036854775808 := by have := hn.1; omega
      have hunsigned := unsigned_printNat true (n + 1) hrest
      simp only [Numeral.ofDigits, hvalue, if_true] at hunsigned
      rw [if_pos (by simp; omega)] at hunsigned
      exact hunsigned
  rw [number, hread]
  rfl

end EventSourcing.Json
