import EventSourcing.Aggregate.Root
import EventSourcing.Proofs.Answer

/-!
# Calls in place

A call on a root answers, and leaves a root behind it.  The calls that can fail look at the root
first and change it when nothing can fail any more, so a root is as it was behind a call that fails.

## Main Definitions

* `InPlace.AllOrNothing` — calls that change a root only if they pass.

## Main Statements

* `InPlace.AllOrNothing.run_of_error`, `InPlace.run_of_ok` — such a call, if it fails and if it
  passes.
* `InPlace.allOrNothing_execute`, `InPlace.allOrNothing_flush`, `InPlace.allOrNothing_rehydrate` —
  commands, commits and replays are of this kind.
* `flush_eq`, `rehydrate_eq` — the answers of commits and replays, with the roots behind them.
-/

namespace EventSourcing.Root

variable {Id : Type} {A : Aggregate Id}

namespace InPlace

variable {ε α : Type} {call : InPlace A ε α}

/-- A call that leaves a root as it is if it fails. -/
def AllOrNothing (call : InPlace A ε α) : Prop :=
  ∀ root e behind, call root = (.error e, behind) → behind = root

/-- **A call that changes a root only if it passes** fails with its error and leaves the root as it
is. -/
theorem AllOrNothing.run_of_error (h : call.AllOrNothing) {root : Root A} {e : ε}
    (he : call.passed root = .error e) : call root = (.error e, root) := by
  have hroot := h root
  rw [passed] at he
  generalize call root = result at he hroot ⊢
  obtain ⟨answer, behind⟩ := result
  cases answer with
  | ok a => cases he
  | error e' =>
    cases he
    rw [hroot e behind rfl]

theorem run_of_ok {root behind : Root A} {a : α} (h : call.passed root = .ok (a, behind)) :
    call root = (.ok a, behind) := by
  rw [passed] at h
  generalize call root = result at h ⊢
  obtain ⟨answer, behind'⟩ := result
  cases answer with
  | ok a' =>
    cases h
    rfl
  | error e => cases h

/-- Where the answer of a call does not matter, it is left out. -/
theorem run_discard {root behind : Root A} {answer : Except ε α}
    (h : call root = (answer, behind)) :
    (discard call : InPlace A ε Unit) root = (answer.map fun _ => (), behind) := by
  cases answer with
  | ok a => exact bind_of_ok h
  | error e => exact bind_of_error h

theorem AllOrNothing.discard (h : call.AllOrNothing) :
    (discard call : InPlace A ε Unit).AllOrNothing := by
  intro root e behind hdiscarded
  cases hcall : call root with
  | mk answer behind' =>
    rw [run_discard hcall] at hdiscarded
    cases answer with
    | ok a => cases hdiscarded
    | error e' =>
      cases hdiscarded
      exact h root e behind hcall

/-- A failure may be told in other words. -/
theorem run_adapt {ε' : Type} (f : ε → ε') {root behind : Root A} {answer : Except ε α}
    (h : call root = (answer, behind)) : call.adapt f root = (answer.mapError f, behind) := by
  show ((call root).1.mapError f, (call root).2) = _
  rw [h]

end InPlace

/-! ### Commands -/

section Commands

variable (stamps : Nat → Stamp) (command : Command A)

theorem InPlace.run_execute (root : Root A) :
    InPlace.execute stamps command root =
      match command root.stateOrInitial with
      | .ok events => (.ok events.length, root.applyAll stamps events)
      | .error e => (.error e, root) := by
  refine (bind_of_ok rfl).trans ?_
  cases command root.stateOrInitial <;> rfl

/-- A command that is refused changes nothing. -/
theorem InPlace.allOrNothing_execute : (InPlace.execute stamps command).AllOrNothing := by
  intro root e behind h
  rw [run_execute] at h
  split at h <;> cases h
  rfl

end Commands

/-! ### Commits and replays -/

variable [Counting] [Identifier Id]

theorem InPlace.run_flush (root : Root A) :
    InPlace.flush root =
      match root.stage with
      | .ok committed => (.ok committed, root.complete committed)
      | .error e => (.error e, root) := by
  refine (bind_of_ok rfl).trans ?_
  cases root.stage <;> rfl

/-- Events that cannot be committed stay pending, and the others with them. -/
theorem InPlace.allOrNothing_flush :
    (InPlace.flush : InPlace A (FlushError Id) (List (Envelope Id A.Event))).AllOrNothing := by
  intro root e behind h
  rw [run_flush] at h
  split at h <;> cases h
  rfl

theorem flush_eq (root : Root A) :
    root.flush = root.stage.map fun committed => (committed, root.complete committed) := by
  rw [flush, InPlace.passed, InPlace.run_flush]
  cases root.stage <;> rfl

variable (history : List (Envelope Id A.Event))

theorem InPlace.run_rehydrate (root : Root A) :
    InPlace.rehydrate history root =
      if root.pending ≠ [] then (.error (.pendingChanges root.pending.length), root)
      else
        match replayFault? root.id root.version history with
        | some fault => (.error fault, root)
        | none => (.ok (), root.replayed history) := by
  refine (bind_of_ok rfl).trans ?_
  split
  · exact bind_of_error rfl
  · refine (bind_of_ok rfl).trans ?_
    cases replayFault? root.id root.version history <;> rfl

/-- A history that is refused changes nothing, even if it is in order up to a point. -/
theorem InPlace.allOrNothing_rehydrate :
    (InPlace.rehydrate history : InPlace A (ReplayError Id) Unit).AllOrNothing := by
  intro root e behind h
  rw [run_rehydrate] at h
  split at h
  · cases h
    rfl
  · split at h <;> cases h
    rfl

theorem rehydrate_eq (root : Root A) :
    root.rehydrate history =
      if root.pending ≠ [] then .error (.pendingChanges root.pending.length)
      else
        match replayFault? root.id root.version history with
        | some fault => .error fault
        | none => .ok (root.replayed history) := by
  rw [rehydrate, InPlace.passed, InPlace.run_rehydrate]
  by_cases hpending : root.pending ≠ []
  · rw [if_pos hpending, if_pos hpending]
    rfl
  · rw [if_neg hpending, if_neg hpending]
    cases replayFault? root.id root.version history <;> rfl

end EventSourcing.Root
