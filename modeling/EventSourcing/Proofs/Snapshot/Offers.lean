import EventSourcing.Snapshot.Store

/-!
# Offers of snapshots

A snapshot is offered behind every save.  Under a policy with a period it is taken if the save
reaches or passes a multiple of the period; the policy that always takes one has the period one.  So
the last snapshot is always at the last multiple that was reached, or behind it, and never as much
as a period old.

## Main Definitions

* `SnapshotPolicy.period` — the period of a policy.
* `UpToDate` — a snapshot as recent as its period makes it.

## Main Statements

* `SnapshotPolicy.due_iff` — when a snapshot is due.
* `UpToDate.sub_lt` — a snapshot is never as much as a period old.
* `SnapshotMemory.load_offer` — a snapshot that is taken is loaded again.
* `SnapshotMemory.upToDate_offer` — offers keep snapshots up to date.
-/

namespace EventSourcing

/-! ### Periods -/

/-- The period of a policy: the interval, or one if a snapshot is always taken; a policy that takes
none has no period. -/
def SnapshotPolicy.period : SnapshotPolicy → Nat
  | .always => 1
  | .interval n => n
  | .never => 0

/-- A snapshot is due if a save of events reaches or passes a multiple of the period. -/
theorem SnapshotPolicy.due_iff (policy : SnapshotPolicy) {current count : Nat}
    (hmax : current + count ≤ Version.max) (hperiod : 0 < policy.period) :
    policy.due current count = true ↔
      count ≠ 0 ∧ current / policy.period < (current + count) / policy.period := by
  cases policy with
  | always =>
    show decide (0 < count) = true ↔ count ≠ 0 ∧ current / 1 < (current + count) / 1
    rw [decide_eq_true_eq, Nat.div_one, Nat.div_one]
    omega
  | interval n =>
    have hne : n ≠ 0 := Nat.ne_of_gt hperiod
    show Version.crosses current count n = true ↔ count ≠ 0 ∧ current / n < (current + count) / n
    rw [Version.crosses, Nat.min_eq_left hmax]
    simp [hne]
  | never => exact absurd hperiod (Nat.lt_irrefl 0)

/-- The version of the last snapshot, if there is one, is as recent as it is with a period. -/
def UpToDate (period version : Nat) : Option Nat → Prop
  | none => version < period
  | some kept => period ≤ version ∧ kept ≤ version ∧ kept / period = version / period

namespace UpToDate

variable {period version version' kept : Nat} {last : Option Nat}

/-- A snapshot is never as much as a period old. -/
theorem sub_lt (hperiod : 0 < period) (h : UpToDate period version (some kept)) :
    version - kept < period := by
  obtain ⟨-, -, hsame⟩ := h
  have habove : version < period * (version / period + 1) := Nat.lt_mul_div_succ version hperiod
  have hbelow : period * (kept / period) ≤ kept := Nat.mul_div_le kept period
  rw [hsame] at hbelow
  rw [Nat.mul_succ] at habove
  omega

/-- As long as no multiple is reached, the last snapshot will do. -/
theorem pass (hperiod : 0 < period) (h : UpToDate period version last) (hle : version ≤ version')
    (hsame : version / period = version' / period) : UpToDate period version' last := by
  cases last with
  | none =>
    have hzero : version / period = 0 := Nat.div_eq_of_lt h
    rw [hsame] at hzero
    exact (Nat.div_eq_zero_iff_lt hperiod).mp hzero
  | some kept =>
    obtain ⟨hreached, hkept, hlast⟩ := h
    exact ⟨Nat.le_trans hreached hle, Nat.le_trans hkept hle, hlast.trans hsame⟩

/-- Where a multiple is reached, a new one is. -/
theorem refresh (hpassed : version / period < version' / period) :
    UpToDate period version' (some version') := by
  have hpositive : version' / period ≠ 0 := Nat.ne_of_gt (Nat.zero_lt_of_lt hpassed)
  have hreached : period ≤ version' :=
    Nat.not_lt.mp fun hbelow => hpositive (Nat.div_eq_of_lt hbelow)
  exact ⟨hreached, Nat.le_refl _, rfl⟩

end UpToDate

/-! ### Offers -/

namespace SnapshotMemory

variable {Id α : Type} [DecidableEq Id] (form : JsonForm α) (kind : String) (id : Id)
  (current count : Nat)

/-- An offer is without effect, or the snapshot is kept as the form writes it. -/
theorem offer_memory (s : Snapshot α) (t : SnapshotMemory Id) :
    (t.offer form kind id current count (.ok s)).2 = t ∨
      ∃ data, form.write s.data = .ok data ∧
        (t.offer form kind id current count (.ok s)).2 = t.put kind id ⟨s.version, data⟩ := by
  rw [offer]
  split
  · cases hwrite : form.write s.data with
    | error reason => exact .inl rfl
    | ok data =>
      simp only []
      split
      · exact .inl rfl
      · exact .inr ⟨data, rfl, rfl⟩
  · exact .inl rfl

theorem policy_offer (s : Snapshot α) (t : SnapshotMemory Id) :
    (t.offer form kind id current count (.ok s)).2.policy = t.policy := by
  rcases t.offer_memory form kind id current count s with hsame | ⟨data, -, hput⟩
  · rw [hsame]
  · rw [hput]
    rfl

/-- An offer leaves the snapshots of all other aggregates. -/
theorem versionOf?_offer_of_ne {kind' : String} {id' : Id} (hne : (kind, id) ≠ (kind', id'))
    (s : Snapshot α) (t : SnapshotMemory Id) :
    (t.offer form kind id current count (.ok s)).2.versionOf? kind' id' =
      t.versionOf? kind' id' := by
  rcases t.offer_memory form kind id current count s with hsame | ⟨data, -, hput⟩
  · rw [hsame]
  · rw [hput, versionOf?, find?_put, if_neg hne]
    rfl

variable {form kind id current count}

/-- A snapshot is taken if it is due, and later than the one before. -/
theorem offer_of_due {version : Nat} {state : α} {data : Json} {t : SnapshotMemory Id}
    (hwrite : form.write state = .ok data) (hdue : t.policy.due current count = true)
    (hlater : ∀ kept, t.find? kind id = some kept → kept.version < version) :
    t.offer form kind id current count (.ok ⟨version, state⟩) =
      (.ok .stored, t.put kind id ⟨version, data⟩) := by
  have hrecent : ((t.find? kind id).any fun kept => version ≤ kept.version) = false := by
    rw [Option.any_eq_false]
    exact fun kept hkept => decide_eq_false (Nat.not_le.mpr (hlater kept hkept))
  simp only [offer, hdue, if_true, hwrite, hrecent, Bool.false_eq_true, if_false]

/-- **A snapshot that is taken is loaded again.** -/
theorem load_offer (hform : form.RoundTrips) {version : Nat} {state : α} {data : Json}
    {t : SnapshotMemory Id} (hwrite : form.write state = .ok data)
    (hdue : t.policy.due current count = true)
    (hlater : ∀ kept, t.find? kind id = some kept → kept.version < version) :
    ∃ t', t.offer form kind id current count (.ok ⟨version, state⟩) = (.ok .stored, t') ∧
      t'.load form kind id = .ok (some ⟨version, state⟩) := by
  refine ⟨_, offer_of_due hwrite hdue hlater, ?_⟩
  rw [load, find?_put, if_pos rfl]
  simp only [hform state data hwrite]

/-- **Offers keep snapshots up to date**, as long as the state can be written. -/
theorem upToDate_offer {state : α} {data : Json} {t : SnapshotMemory Id}
    (hperiod : 0 < t.policy.period) (hwrite : form.write state = .ok data)
    (hmax : current + count ≤ Version.max)
    (h : UpToDate t.policy.period current (t.versionOf? kind id)) :
    UpToDate t.policy.period (current + count)
      ((t.offer form kind id current count (.ok ⟨current + count, state⟩)).2.versionOf?
        kind id) := by
  by_cases hdue : t.policy.due current count = true
  · obtain ⟨hcount, hpassed⟩ := (t.policy.due_iff hmax hperiod).mp hdue
    -- No snapshot is as recent as the one that is offered.
    have hlater (kept : Snapshot Json) (hfound : t.find? kind id = some kept) :
        kept.version < current + count := by
      rw [versionOf?, hfound] at h
      obtain ⟨-, hkept, -⟩ := h
      have hkept : kept.version ≤ current := hkept
      omega
    rw [offer_of_due hwrite hdue hlater, versionOf?, find?_put, if_pos rfl]
    exact .refresh hpassed
  · rw [offer, if_neg hdue]
    refine h.pass hperiod (Nat.le_add_right current count) ?_
    rcases Nat.eq_zero_or_pos count with rfl | hcount
    · rfl
    · have hle : current / t.policy.period ≤ (current + count) / t.policy.period :=
        Nat.div_le_div_right (Nat.le_add_right current count)
      have hge : ¬ current / t.policy.period < (current + count) / t.policy.period :=
        fun hpassed => hdue ((t.policy.due_iff hmax hperiod).mpr ⟨Nat.ne_of_gt hcount, hpassed⟩)
      omega

end SnapshotMemory

end EventSourcing
