import EventSourcing.Proofs.Repository.Load
import EventSourcing.Proofs.Repository.Outcomes

/-!
# What conflicts report

A save meets a conflict in one of two places.  A repository compares the version that its caller
presents with that of the root, and a store compares the version of the root with the one that is
stored.  Either reports both versions that it has compared; only the store has looked at what is
stored.  So a conflict reports the stored version if the caller has presented the version of its
root, or if the root is at the stored version; whoever presents another version together with a root
that others have overtaken is told the version of the root.

## Main Statements

* `Repository.conflict_iff` — when a save meets a conflict, and what that reports.
* `Repository.version_of_load` — a root that is loaded is at the stored version.
* `Repository.conflict_reports` — a conflict reports two versions, the presented one and another
  one, which may be the stored one.
* `Repository.conflict_misreports` — and may not.
-/

namespace EventSourcing.Repository

attribute [local instance] Counting.exact

variable {τ Id : Type} [Identifier Id] {A : Aggregate Id} {codec : Codec}
  {snapshots : Option (SnapshotBackend τ Id)} {m : Memory Id} {t : τ} {root : Root A}
  {expected : Option Nat} {c : Conflict}

/-- **When a save meets a conflict**: another version is presented than that of the root, or another
one is stored. -/
theorem conflict_iff :
    ((onMemory codec snapshots).save root expected (m, t)).1 = .error (.conflict c) ↔
      (∃ presented, expected = some presented ∧ presented ≠ root.version ∧
        c = ⟨presented, root.version⟩) ∨
      (root.Deliverable codec expected ∧ m.get A.kind root.id ≠ .archived ∧
        m.versionOf A.kind root.id ≠ root.version ∧
        c = ⟨root.version, m.versionOf A.kind root.id⟩) := by
  obtain ⟨result, hcommitted, hsave⟩ := committed_save codec m root expected
  rw [hsave]
  constructor
  · intro hconflict
    obtain ⟨answer, m'⟩ := result
    obtain rfl : answer = .error (.conflict c) := hconflict
    have houtcome : Outcome codec root expected m (.error (.conflict c)) root m' :=
      hcommitted.outcome
    cases houtcome with
    | unready e hunready =>
      cases hunready with
      | stale presented hexpected hstale => exact .inl ⟨presented, hexpected, hstale, rfl⟩
    | conflict hdeliverable hget hversion => exact .inr ⟨hdeliverable, hget, hversion, rfl⟩
  · rintro (⟨presented, hexpected, hstale, rfl⟩ | ⟨hdeliverable, hget, hversion, rfl⟩)
    · have hunready : root.Unready codec expected (.conflict ⟨presented, root.version⟩) :=
        .stale presented hexpected hstale
      obtain ⟨hanswer, -⟩ := (Outcome.unready _ hunready).answer_eq hcommitted
      exact map_eq_error.mp hanswer.symm
    · have houtcome := Outcome.conflict hdeliverable hget hversion
      obtain ⟨hanswer, -⟩ := houtcome.answer_eq hcommitted
      exact map_eq_error.mp hanswer.symm

/-- A save that fails changes nothing. -/
theorem save_of_failure {e : SaveError Id}
    (h : ((onMemory codec snapshots).save root expected (m, t)).1 = .error e) :
    ((onMemory codec snapshots).save root expected (m, t)).2 = (m, t) := by
  obtain ⟨⟨answer, m'⟩, hcommitted, hsave⟩ := committed_save codec m root expected
  rw [hsave] at h ⊢
  cases hcommitted with
  | unprepared | refused => rfl
  | accepted => cases h

/-- **A root that is loaded is at the stored version.** -/
theorem version_of_load {id : Id}
    (h : ((onMemory codec snapshots).load A id (m, t)).1 = .ok root) :
    root.version = m.versionOf A.kind id := by
  obtain ⟨snapshot, t', -, hload⟩ := exists_load_memory codec snapshots A m t id
  rw [hload] at h
  obtain ⟨record, hrecord, -, -, hversion, -⟩ := Memory.loaded_eq_ok h
  obtain ⟨stream, hslot, rfl⟩ := Memory.recordOf_eq_ok.mp hrecord
  have hget : m.get A.kind id = .found stream.record := by rw [Memory.get, hslot]
  rw [hversion, Memory.versionOf, hget]

/-- **What a conflict reports.**  It reports two different versions, of which the expected one is
the one that the caller presents.  The other one is the stored version if the caller presents the
version of its root, and otherwise it is the version of the root; so it is the stored one just if
the caller presents the version of its root, or the root is at the stored version.  Nothing has
changed, and a caller that loads the aggregate again finds the stored version. -/
theorem conflict_reports (codec : Codec) (snapshots : Option (SnapshotBackend τ Id)) (m : Memory Id)
    (t : τ) (root : Root A) (expected : Option Nat) (c : Conflict)
    (hconflict : ((onMemory codec snapshots).save root expected (m, t)).1 = .error (.conflict c)) :
    c.expected = expected.getD root.version ∧ c.expected ≠ c.actual ∧
      (c.actual =
        if c.expected = root.version then m.versionOf A.kind root.id else root.version) ∧
      (c.actual = m.versionOf A.kind root.id ↔
        c.expected = root.version ∨ root.version = m.versionOf A.kind root.id) ∧
      ((onMemory codec snapshots).save root expected (m, t)).2 = (m, t) ∧
      ∀ reloaded, ((onMemory codec snapshots).load A root.id (m, t)).1 = .ok reloaded →
        reloaded.version = m.versionOf A.kind root.id := by
  have hkept := save_of_failure hconflict
  have hload (reloaded : Root A)
      (h : ((onMemory codec snapshots).load A root.id (m, t)).1 = .ok reloaded) :
      reloaded.version = m.versionOf A.kind root.id := version_of_load h
  rcases conflict_iff.mp hconflict with
    ⟨presented, rfl, hstale, rfl⟩ | ⟨hdeliverable, -, hmoved, rfl⟩
  · have hiff : root.version = m.versionOf A.kind root.id ↔
        presented = root.version ∨ root.version = m.versionOf A.kind root.id :=
      (or_iff_right hstale).symm
    exact ⟨rfl, hstale, (if_neg hstale).symm, hiff, hkept, hload⟩
  · have hpresented : expected.getD root.version = root.version := by
      cases expected with
      | none => rfl
      | some presented => exact hdeliverable.presented presented rfl
    exact ⟨hpresented.symm, Ne.symm hmoved, (if_pos rfl).symm, iff_of_true rfl (.inl rfl), hkept,
      hload⟩

section Counters

open Sample

/-- A counter with one more reset. -/
def resetCounter (root : Root counter) : Root counter :=
  root.apply ⟨.nil, .epoch⟩ CounterEvent.reset

/-- A counter that is saved behind a first reset. -/
def heldCounter : Root counter :=
  { resetCounter (Root.bare counter "c" 0 none) with version := 1, pending := [] }

/-- The store behind that save, and behind one of another client that has held the counter, too, and
has reset it twice since. -/
def movedOn : Memory String :=
  let R := onMemory .json (none : Option (SnapshotBackend Unit String))
  let m := (R.save (resetCounter (Root.bare counter "c" 0 none)) none (Memory.empty, ())).2.1
  (R.save (resetCounter (resetCounter heldCounter)) none (m, ())).2.1

/-- A client that goes on with the counter is told that version three is stored. -/
theorem conflict_reports_counter :
    let R := onMemory .json (none : Option (SnapshotBackend Unit String))
    (R.save (resetCounter heldCounter) none (movedOn, ())).1 = .error (.conflict ⟨1, 3⟩) ∧
      movedOn.versionOf "counter" "c" = 3 ∧
      (R.save (resetCounter heldCounter) none (movedOn, ())).2 = (movedOn, ()) ∧
      ∀ reloaded, (R.load counter "c" (movedOn, ())).1 = .ok reloaded → reloaded.version = 3 := by
  intro R
  have hconflict : (R.save (resetCounter heldCounter) none (movedOn, ())).1 =
      .error (.conflict ⟨1, 3⟩) := rfl
  obtain ⟨-, -, hactual, -, hkept, hload⟩ :=
    conflict_reports .json none movedOn () (resetCounter heldCounter) none ⟨1, 3⟩ hconflict
  exact ⟨hconflict, hactual.symm, hkept, fun reloaded h => (hload reloaded h).trans hactual.symm⟩

/-- A client that goes on with the counter and presents version two is told that version one is
stored. -/
theorem conflict_misreports :
    let R := onMemory .json (none : Option (SnapshotBackend Unit String))
    let save := R.save (resetCounter (Root.bare counter "c" 0 none)) none (Memory.empty, ())
    (∃ committed, save.1 = .ok (committed, heldCounter)) ∧
      (∃ answer, (R.save (resetCounter (resetCounter heldCounter)) none save.2).1 = .ok answer) ∧
      movedOn = (R.save (resetCounter (resetCounter heldCounter)) none save.2).2.1 ∧
      movedOn.get "counter" "c" = .found ⟨"c", 3, none, false, none⟩ ∧
      (R.save (resetCounter heldCounter) (some 2) (movedOn, ())).1 = .error (.conflict ⟨2, 1⟩) :=
  ⟨⟨_, rfl⟩, ⟨_, rfl⟩, rfl, rfl, rfl⟩

end Counters

end EventSourcing.Repository
