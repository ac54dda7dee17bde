import EventSourcing.Proofs.Answer
import EventSourcing.Repository.Save

/-!
# Saving in place

A save looks at the root, asks the store once, and changes the root when the store has accepted the
batch.  So whatever the store and the snapshot store are, a root is as it was behind a save that
fails, and behind another one it is where its committed events lead.

## Main Definitions

* `Repository.offered` — the snapshot store behind an offer.
* `ActionOn.AllOrNothing` — actions that change a root only if they pass.

## Main Statements

* `ActionOn.AllOrNothing.run` — such an action, given its answer and the root behind it if it
  passes.
* `Repository.run_commitInPlace`, `Repository.run_saveInPlace` — what a commit and a save do.
* `Repository.allOrNothing_saveInPlace`, `Repository.saveInPlace_eq` — a save changes a root only if
  it passes.
-/

namespace EventSourcing

/-! ### Actions on roots -/

namespace ActionOn

variable {Id σ τ ε α : Type} {A : Aggregate Id} {action : ActionOn A σ τ ε α}

/-- An action that leaves a root as it is if it fails. -/
def AllOrNothing (action : ActionOn A σ τ ε α) : Prop :=
  ∀ root s e behind s', action (root, s) = (.error e, behind, s') → behind = root

/-- **An action that changes a root only if it passes** is given by its answer and the root behind
it if it passes. -/
theorem AllOrNothing.run (h : action.AllOrNothing) (root : Root A) (s : σ × τ) :
    action (root, s) =
      match action.passed root s with
      | (.ok (a, behind), s') => (.ok a, behind, s')
      | (.error e, s') => (.error e, root, s') := by
  rw [passed]
  cases haction : action (root, s) with
  | mk answer behind =>
    obtain ⟨behind, s'⟩ := behind
    cases answer with
    | ok a => rfl
    | error e => rw [h root s e behind s' haction]

/-- A step on the stores leaves the root to what follows. -/
theorem stores_bind {β : Type} (step : Action σ τ ε α) (f : α → ActionOn A σ τ ε β) (root : Root A)
    (s : σ × τ) :
    (stores step >>= f) (root, s) =
      match step s with
      | (.ok a, s') => f a (root, s')
      | (.error e, s') => (.error e, root, s') := by
  have hstep : (stores step : ActionOn A σ τ ε α) (root, s) = ((step s).1, root, (step s).2) := rfl
  generalize step s = result at hstep ⊢
  obtain ⟨answer, s'⟩ := result
  cases answer with
  | ok a => exact bind_of_ok hstep
  | error e => exact bind_of_error hstep

end ActionOn

variable [Counting] {σ τ Id : Type} [Identifier Id] {A : Aggregate Id}

/-! ### Saving -/

namespace Repository

variable (R : Repository σ τ Id) (root : Root A) (expected : Option Nat)

/-- **Committing is a check of the root, and then one call of the store.** -/
theorem run_commitInPlace (s : σ) (t : τ) :
    R.commitInPlace expected (root, s, t) =
      match root.prepared (R.store.codec s) expected with
      | .error e => (.error e, root, s, t)
      | .ok (committed, batch) =>
        match R.store.save A.kind (root.recordAt (plus root.version committed.length)) root.version
            batch s with
        | (.ok _, s') => (.ok committed, root.complete committed, s', t)
        | (.error e, s') => (.error (.ofStore A.kind root.id e), root, s', t) := by
  refine (bind_of_ok rfl).trans ((bind_of_ok rfl).trans ?_)
  cases root.prepared (R.store.codec s) expected with
  | error e => rfl
  | ok prepared =>
    obtain ⟨committed, batch⟩ := prepared
    refine (bind_of_ok rfl).trans ((ActionOn.stores_bind _ _ root (s, t)).trans ?_)
    dsimp only [Action.onStore]
    cases R.store.save A.kind (root.recordAt (plus root.version committed.length)) root.version
      batch s with
    | mk answer s' => cases answer <;> rfl

/-- A commit changes a root only if it passes. -/
theorem allOrNothing_commitInPlace :
    (R.commitInPlace expected : ActionOn A σ τ (SaveError Id) _).AllOrNothing := by
  rintro root ⟨s, t⟩ e behind s' h
  rw [run_commitInPlace] at h
  split at h
  · cases h
    rfl
  · split at h <;> cases h
    rfl

/-- The snapshot store behind an offer of the state of a root. -/
def offered (snapshots : Option (SnapshotBackend τ Id)) (root : Root A) (current count : Nat)
    (t : τ) : τ :=
  match snapshots, root.state with
  | some snapshots, some state =>
    (snapshots.offer A.form A.kind root.id current count (.ok ⟨root.version, state⟩) t).2
  | _, _ => t

omit [Counting] [Identifier Id] in
/-- An offer never fails. -/
theorem run_offerSnapshot (current count : Nat) (s : σ) (t : τ) :
    R.offerSnapshot root current count (s, t) =
      (.ok (), s, offered R.snapshots root current count t) := by
  unfold offerSnapshot offered
  cases R.snapshots with
  | none => rfl
  | some snapshots =>
    cases root.state with
    | none => rfl
    | some state => rfl

/-- **Saving is committing, and then an offer to the snapshot store** that changes nothing else. -/
theorem run_saveInPlace (s : σ) (t : τ) :
    R.saveInPlace expected (root, s, t) =
      match R.commitInPlace expected (root, s, t) with
      | (.ok committed, saved, s', t') =>
        (.ok committed, saved, s', offered R.snapshots saved root.version committed.length t')
      | (.error e, behind, s', t') => (.error e, behind, s', t') := by
  refine (bind_of_ok rfl).trans ?_
  cases hcommit : R.commitInPlace expected (root, s, t) with
  | mk answer behind =>
    obtain ⟨saved, s', t'⟩ := behind
    cases answer with
    | error e => exact bind_of_error hcommit
    | ok committed =>
      refine (bind_of_ok hcommit).trans ((bind_of_ok rfl).trans ?_)
      refine (ActionOn.stores_bind _ _ saved (s', t')).trans ?_
      rw [run_offerSnapshot]
      rfl

/-- **A save changes a root only if it passes.** -/
theorem allOrNothing_saveInPlace :
    (R.saveInPlace expected : ActionOn A σ τ (SaveError Id) _).AllOrNothing := by
  rintro root ⟨s, t⟩ e behind s' h
  rw [run_saveInPlace] at h
  split at h
  · cases h
  · rename_i hcommit
    cases h
    exact R.allOrNothing_commitInPlace expected root (s, t) e behind _ hcommit

/-- Behind a save there is the root with its committed events, or the root as it was. -/
theorem saveInPlace_eq (s : σ × τ) :
    R.saveInPlace expected (root, s) =
      match R.save root expected s with
      | (.ok (committed, behind), s') => (.ok committed, behind, s')
      | (.error e, s') => (.error e, root, s') := by
  rw [(R.allOrNothing_saveInPlace expected).run root s, save]
  rcases (R.saveInPlace expected).passed root s with ⟨_ | ⟨committed, behind⟩, s'⟩ <;> rfl

end Repository

end EventSourcing
