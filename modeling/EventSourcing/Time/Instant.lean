import EventSourcing.Time.Calendar

/-!
# Instants

An instant is a second counted from the start of 1970 in UTC and a fraction of it in nanoseconds.
A leap second has no number of its own: it belongs to the second before it, the last one of its
minute, and its fraction is a billion or more.  Instants lie within the years -262143 to +262142.

## Main Definitions

* `Instant` — an instant, with its range as part of the type.
* `Instant.ofMicros?`, `Instant.toMicros` — the count in microseconds.
* `Instant.le` — earlier or equal.
-/

namespace EventSourcing

/-- An instant, counted from the start of 1970 in UTC. -/
structure Instant where
  second : Int
  nano : Nat
  /-- The instant lies within the years -262143 to +262142. -/
  second_mem : -8334601228800 ≤ second ∧ second ≤ 8210266876799
  /-- A fraction of a billion or more is a leap second, at the end of a minute. -/
  nano_mem : nano < 1000000000 ∨ nano < 2000000000 ∧ second % 60 = 59
  deriving DecidableEq

namespace Instant

/-- The start of 1970. -/
def epoch : Instant := ⟨0, 0, by decide, by decide⟩

instance : Inhabited Instant := ⟨epoch⟩

/-- The instant of a second and a fraction, if there is one. -/
def ofParts? (second : Int) (nano : Nat) : Option Instant :=
  if hs : -8334601228800 ≤ second ∧ second ≤ 8210266876799 then
    if hn : nano < 1000000000 ∨ nano < 2000000000 ∧ second % 60 = 59 then
      some ⟨second, nano, hs, hn⟩
    else none
  else none

/-- The instant so many microseconds after the start of 1970. -/
def ofMicros? (micros : Int) : Option Instant :=
  ofParts? (micros / 1000000) ((micros % 1000000).toNat * 1000)

/-- The microseconds since the start of 1970, a smaller rest left away. -/
def toMicros (t : Instant) : Int := t.second * 1000000 + (t.nano / 1000 : Nat)

/-- The instant so many microseconds later. -/
def addMicros? (t : Instant) (micros : Int) : Option Instant := ofMicros? (t.toMicros + micros)

/-- Earlier than or equal to. -/
def le (s t : Instant) : Bool :=
  s.second < t.second || (s.second = t.second && s.nano ≤ t.nano)

theorem le_total (s t : Instant) : s.le t = true ∨ t.le s = true := by
  simp only [le, Bool.or_eq_true, Bool.and_eq_true, decide_eq_true_eq]
  omega

theorem le_trans {s t u : Instant} (hst : s.le t = true) (htu : t.le u = true) :
    s.le u = true := by
  simp only [le, Bool.or_eq_true, Bool.and_eq_true, decide_eq_true_eq] at *
  omega

theorem le_antisymm {s t : Instant} (hst : s.le t = true) (hts : t.le s = true) : s = t := by
  obtain ⟨second, nano, _, _⟩ := s
  obtain ⟨second', nano', _, _⟩ := t
  simp only [le, Bool.or_eq_true, Bool.and_eq_true, decide_eq_true_eq, mk.injEq] at *
  omega

@[simp] theorem ofParts?_self (t : Instant) : ofParts? t.second t.nano = some t := by
  simp [ofParts?, t.second_mem, t.nano_mem]

end Instant
end EventSourcing
