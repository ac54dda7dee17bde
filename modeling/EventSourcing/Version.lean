/-!
# Versions

A version counts the events of an aggregate.  Versions are words of 64 bits, so zero follows the
greatest one.  Aggregates, stores and repositories only ever add a number of events to a version,
and what they do is the same for every way of counting that takes such steps one after the other: it
is stated once, and the program counts in words.

Where no version passes the greatest word, words count as numbers without an end do.  What is said
of a history as a whole is mostly said with these.

## Main Definitions

* `Version.max` — the greatest version.
* `Counting`, `plus` — a way of counting, and the version that is some events behind another.
* `Counting.following` — the versions that follow a version.
* `Counting.words`, `Counting.exact` — in words of 64 bits, and without an end.

## Main Statements

* `Counting.plus_toNat` — words are added as words.
* `Counting.words_of_le` — up to the greatest version, words count exactly.
-/

namespace EventSourcing

/-- The greatest version. -/
def Version.max : Nat := 18446744073709551615

/-- A way of counting versions. -/
class Counting where
  /-- The version that is a number of events behind a version. -/
  plus : (version count : Nat) → Nat
  plus_zero : ∀ version, plus version 0 = version
  plus_plus : ∀ version m n, plus (plus version m) n = plus version (m + n)

export Counting (plus)

namespace Counting

attribute [simp] plus_zero

/-- One event, and some more. -/
theorem plus_one_plus [Counting] (version n : Nat) :
    plus (plus version 1) n = plus version (n + 1) := by
  rw [plus_plus, Nat.add_comm]

/-- The versions that follow a version, one after the other. -/
def following [Counting] (version count : Nat) : List Nat :=
  (List.range count).map fun i => plus version (i + 1)

@[simp] theorem following_zero [Counting] (version : Nat) : following version 0 = [] := rfl

theorem following_succ [Counting] (version count : Nat) :
    following version (count + 1) = plus version 1 :: following (plus version 1) count := by
  simp only [following, List.range_succ_eq_map, List.map_cons, List.map_map, Function.comp_def,
    plus_one_plus, Nat.zero_add, Nat.succ_eq_add_one]

/-! ### Words -/

/-- Counting goes on with zero behind the greatest version.  Where nothing is counted, nothing is
looked at. -/
def wordsPlus (version count : Nat) : Nat :=
  if version + count ≤ Version.max ∨ count = 0 then version + count
  else (version + count) % (Version.max + 1)

theorem wordsPlus_of_ne_zero (version : Nat) {count : Nat} (h : count ≠ 0) :
    wordsPlus version count = (version + count) % (Version.max + 1) := by
  rw [wordsPlus]
  split
  · next hle => exact (Nat.mod_eq_of_lt (Nat.lt_succ_of_le (hle.resolve_right h))).symm
  · rfl

/-- Versions are words of 64 bits. -/
instance words : Counting where
  plus := wordsPlus
  plus_zero _ := if_pos (.inr rfl)
  plus_plus version m n := by
    by_cases hm : m = 0
    · rw [hm, Nat.zero_add]
      exact congrArg (wordsPlus · n) (if_pos (.inr rfl))
    · by_cases hn : n = 0
      · rw [hn]
        exact if_pos (.inr rfl)
      · rw [wordsPlus_of_ne_zero _ hn, wordsPlus_of_ne_zero _ hm,
          wordsPlus_of_ne_zero _ (by omega), Nat.mod_add_mod, Nat.add_assoc]

/-- Words are counted as they are added. -/
theorem plus_toNat (version : UInt64) (count : Nat) :
    plus version.toNat count = (version + UInt64.ofNat count).toNat := by
  by_cases hcount : count = 0
  · rw [hcount, plus_zero]
    exact congrArg UInt64.toNat (UInt64.add_zero version).symm
  · rw [UInt64.toNat_add, UInt64.toNat_ofNat', Nat.add_mod_mod]
    exact wordsPlus_of_ne_zero _ hcount

/-! ### Numbers without an end -/

/-- Versions are numbers without an end. -/
@[reducible] def exact : Counting where
  plus version count := version + count
  plus_zero _ := rfl
  plus_plus := Nat.add_assoc

@[simp] theorem plus_exact (version count : Nat) : exact.plus version count = version + count := rfl

@[simp] theorem following_exact (version count : Nat) :
    exact.following version count = List.range' (version + 1) count := by
  induction count generalizing version with
  | zero => rfl
  | succ count ih => rw [@following_succ exact, List.range'_succ, ih, plus_exact]

/-- **Up to the greatest version, words count exactly.** -/
theorem words_of_le {version count : Nat} (h : version + count ≤ Version.max) :
    words.plus version count = exact.plus version count := if_pos (.inl h)

/-- One event is counted, and the others still do not pass the greatest version. -/
theorem words_step {version count : Nat} (h : version + (count + 1) ≤ Version.max) :
    words.plus version 1 = exact.plus version 1 ∧
      exact.plus version 1 + count ≤ Version.max := by
  rw [plus_exact, Nat.add_assoc, Nat.add_comm 1 count]
  exact ⟨words_of_le (Nat.le_trans (by omega) h), h⟩

/-- Behind the greatest version comes zero. -/
example : plus Version.max 1 = 0 ∧ plus Version.max 3 = 2 := by decide

end Counting
end EventSourcing
