import EventSourcing.Snapshot.Policy

/-!
# Boundaries of snapshots

A save passes a boundary if one of the versions to which it leads, event by event, is a multiple of
the interval.  The check does not go through the versions: it divides the first and the last one by
the interval and compares.  Versions beyond the greatest word do not count, and the sum that leads
to the last version stays at that word.

The check is done on words.  No step of it fails: the sum is bounded, and where the interval is zero
nothing is divided.

## Main Definitions

* `Version.sum?`, `Version.quotient?` — arithmetic on words, where it can fail.
* `Version.crosses?` — the check on words.

## Main Statements

* `Version.div_lt_div_iff` — quotients differ exactly if a multiple lies in between.
* `Version.crosses_iff` — the check is stepping.
* `Version.crosses?_eq` — on words it is the check on numbers, and never fails.
* `Version.crosses_boundary` — all of it, and what becomes of a save that is split.
-/

namespace EventSourcing.Version

/-! ### Stepping -/

/-- Of two numbers the later one has the greater quotient exactly if a multiple lies behind the
first and not behind the second. -/
theorem div_lt_div_iff {interval : Nat} (hinterval : 0 < interval) (first last : Nat) :
    first / interval < last / interval ↔
      ∃ version, first < version ∧ version ≤ last ∧ interval ∣ version := by
  rw [Nat.div_lt_iff_lt_mul hinterval]
  constructor
  · intro hfirst
    exact ⟨last / interval * interval, hfirst, Nat.div_mul_le_self last interval,
      Nat.dvd_mul_left interval _⟩
  · rintro ⟨_, hfirst, hlast, multiple, rfl⟩
    have hquotient : multiple ≤ last / interval := by
      rw [Nat.le_div_iff_mul_le hinterval, Nat.mul_comm]
      exact hlast
    calc first < interval * multiple := hfirst
      _ ≤ interval * (last / interval) := Nat.mul_le_mul_left interval hquotient
      _ = last / interval * interval := Nat.mul_comm _ _

/-- **The check is stepping**: it holds exactly if one of the steps leads to a multiple of the
interval. -/
theorem crosses_iff (current pending interval : Nat) :
    crosses current pending interval = true ↔
      0 < interval ∧ ∃ step, 1 ≤ step ∧ step ≤ pending ∧ current + step ≤ max ∧
        interval ∣ current + step := by
  by_cases hinterval : 0 < interval
  · have hcheck : crosses current pending interval = true ↔
        pending ≠ 0 ∧ current / interval < min (current + pending) max / interval := by
      simp [crosses, Nat.ne_of_gt hinterval]
    rw [hcheck, div_lt_div_iff hinterval]
    constructor
    · rintro ⟨-, version, hfirst, hlast, hmultiple⟩
      have hversion : current + (version - current) = version :=
        Nat.add_sub_of_le (Nat.le_of_lt hfirst)
      refine ⟨hinterval, version - current, by omega, by omega, by omega, ?_⟩
      rw [hversion]
      exact hmultiple
    · rintro ⟨-, step, hstep, hpending, hmax, hmultiple⟩
      exact ⟨by omega, current + step, by omega, by omega, hmultiple⟩
  · obtain rfl : interval = 0 := Nat.eq_zero_of_not_pos hinterval
    exact ⟨nofun, fun h => absurd h.1 (Nat.lt_irrefl 0)⟩

/-- A save that is split passes a boundary exactly if one of its parts does. -/
theorem crosses_split (current first second interval : Nat) :
    crosses current (first + second) interval =
      (crosses current first interval || crosses (current + first) second interval) := by
  rw [Bool.eq_iff_iff, Bool.or_eq_true, crosses_iff, crosses_iff, crosses_iff]
  constructor
  · rintro ⟨hinterval, step, hstep, hpending, hword, hmultiple⟩
    by_cases hfirst : step ≤ first
    · exact .inl ⟨hinterval, step, hstep, hfirst, hword, hmultiple⟩
    · have hversion : current + first + (step - first) = current + step := by omega
      refine .inr ⟨hinterval, step - first, by omega, by omega, ?_⟩
      rw [hversion]
      exact ⟨hword, hmultiple⟩
  · rintro (⟨hinterval, step, hstep, hfirst, hword, hmultiple⟩ |
      ⟨hinterval, step, hstep, hsecond, hword, hmultiple⟩)
    · exact ⟨hinterval, step, hstep, by omega, hword, hmultiple⟩
    · rw [Nat.add_assoc] at hword hmultiple
      exact ⟨hinterval, first + step, by omega, by omega, hword, hmultiple⟩

/-! ### Words -/

/-- The sum of two words, if it is one. -/
def sum? (a b : UInt64) : Option UInt64 := if a.toNat + b.toNat ≤ max then some (a + b) else none

/-- The quotient of two words; there is none by zero. -/
def quotient? (a b : UInt64) : Option UInt64 := if b = 0 then none else some (a / b)

/-- The sum of two words, or the greatest word if it is beyond that. -/
def boundedSum (a b : UInt64) : UInt64 := (sum? a b).getD (UInt64.ofNat max)

/-- The check on words: whether `pending` events on top of version `current` reach or pass a
multiple of the interval; nothing if a step of it fails. -/
def crosses? (current pending interval : UInt64) : Option Bool :=
  if interval = 0 ∨ pending = 0 then some false
  else do
    let last ← quotient? (boundedSum current pending) interval
    let first ← quotient? current interval
    return first < last

/-- The sum of two words is that of the numbers, up to the greatest word. -/
theorem toNat_boundedSum (a b : UInt64) : (boundedSum a b).toNat = min (a.toNat + b.toNat) max := by
  rw [boundedSum, sum?]
  by_cases hword : a.toNat + b.toNat ≤ max
  · have hlt : a.toNat + b.toNat < 2 ^ 64 := Nat.lt_succ_of_le hword
    rw [if_pos hword, Option.getD_some, UInt64.toNat_add, Nat.mod_eq_of_lt hlt,
      Nat.min_eq_left hword]
  · rw [if_neg hword, Nat.min_eq_right (Nat.le_of_not_le hword)]
    rfl

/-- **On words the check never fails**, and is the one on numbers. -/
theorem crosses?_eq (current pending interval : UInt64) :
    crosses? current pending interval =
      some (crosses current.toNat pending.toNat interval.toNat) := by
  have hzero (a : UInt64) : a = 0 ↔ a.toNat = 0 := UInt64.toNat_inj.symm
  rw [crosses?]
  by_cases hinterval : interval = 0
  · simp [crosses, hinterval]
  by_cases hpending : pending = 0
  · simp [crosses, hpending]
  rw [if_neg (not_or.mpr ⟨hinterval, hpending⟩), quotient?, quotient?, if_neg hinterval,
    if_neg hinterval]
  have hinterval' : interval.toNat ≠ 0 := mt (hzero interval).mpr hinterval
  have hpending' : pending.toNat ≠ 0 := mt (hzero pending).mpr hpending
  show some (decide (current / interval < boundedSum current pending / interval)) = _
  simp [crosses, hinterval', hpending', UInt64.lt_iff_toNat_lt, UInt64.toNat_div,
    toNat_boundedSum]

/-! ### Boundaries -/

/-- **A snapshot is due exactly if a step leads to a boundary.**  For any words the check has an
answer: it is that the interval is not zero and that one of the versions behind the current one, up
to the last one and to the greatest word, is a multiple of it.  A save of words that is split passes
a boundary exactly if one of its parts does. -/
theorem crosses_boundary (current pending interval : UInt64) :
    (∃ answer, crosses? current pending interval = some answer ∧
      answer = crosses current.toNat pending.toNat interval.toNat ∧
      (answer = true ↔ 0 < interval.toNat ∧ ∃ step, 1 ≤ step ∧ step ≤ pending.toNat ∧
        current.toNat + step ≤ max ∧ interval.toNat ∣ current.toNat + step)) ∧
    ∀ more : UInt64, current.toNat + pending.toNat + more.toNat ≤ max →
      crosses? current (pending + more) interval =
        (do return (← crosses? current pending interval) ||
          (← crosses? (current + pending) more interval)) := by
  refine ⟨⟨_, crosses?_eq current pending interval, rfl, crosses_iff _ _ _⟩, fun more hmax => ?_⟩
  have hlimit : max < 2 ^ 64 := by decide
  -- No sum is beyond the words, so that sums of words are sums of numbers.
  have hevents : (pending + more).toNat = pending.toNat + more.toNat := by
    rw [UInt64.toNat_add, Nat.mod_eq_of_lt (by omega)]
  have hversion : (current + pending).toNat = current.toNat + pending.toNat := by
    rw [UInt64.toNat_add, Nat.mod_eq_of_lt (by omega)]
  rw [crosses?_eq, crosses?_eq, crosses?_eq, hevents, hversion, crosses_split]
  rfl

/-- Near the greatest word: the second of two saves would lead beyond it and passes no multiple of
an interval below it, and the greatest word itself is a boundary. -/
theorem crosses_boundary_near_max :
    let top := UInt64.ofNat max
    (top - 10).toNat + (6 : UInt64).toNat + (4 : UInt64).toNat ≤ max ∧
      crosses? (top - 10) 20 top = some true ∧ crosses? (top - 1) 5 (top / 2 + 7) = some false ∧
      crosses? (top - 10) (6 + 4) top =
        (do return (← crosses? (top - 10) 6 top) || (← crosses? (top - 10 + 6) 4 top)) := by
  intro top
  have hmax : (top - 10).toNat + (6 : UInt64).toNat + (4 : UInt64).toNat ≤ max := by decide
  exact ⟨hmax, by decide, by decide, (crosses_boundary (top - 10) 6 top).2 4 hmax⟩

end EventSourcing.Version
