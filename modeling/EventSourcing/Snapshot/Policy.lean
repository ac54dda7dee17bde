import EventSourcing.Version

/-!
# Snapshot policies

A policy says after which saves a snapshot is to be taken.  Under an interval a snapshot is due
whenever a save reaches or passes a multiple of it.  Versions are words of 64 bits; what would be
beyond them counts as the greatest one.

## Main Definitions

* `Version.crosses` — whether a save passes a multiple of an interval.
* `SnapshotPolicy` — when snapshots are due.
-/

namespace EventSourcing

/-- Whether `pending` events on top of version `current` reach or pass a multiple of the interval.
No interval has multiples to pass if it is zero. -/
def Version.crosses (current pending interval : Nat) : Bool :=
  interval ≠ 0 && pending ≠ 0 &&
    current / interval < min (current + pending) Version.max / interval

/-- When snapshots are due. -/
inductive SnapshotPolicy where
  /-- After every save of events. -/
  | always
  /-- After every save that passes a multiple of the interval. -/
  | interval (n : Nat)
  | never
  deriving Repr, DecidableEq, Inhabited

/-- Whether a snapshot is due after a save of `count` events on top of version `current`. -/
def SnapshotPolicy.due (current count : Nat) : SnapshotPolicy → Bool
  | .always => 0 < count
  | .interval n => Version.crosses current count n
  | .never => false

example : Version.crosses 3 2 5 = true ∧ Version.crosses 3 1 5 = false ∧
    Version.crosses 5 0 5 = false ∧
    Version.crosses (Version.max - 1) 5 (Version.max / 2 + 7) = false := by decide

end EventSourcing
