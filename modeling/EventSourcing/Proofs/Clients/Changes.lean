import EventSourcing.Proofs.Repository.Save

/-!
# Changes of roots

What a client does to its root between loading and saving it: it records new events, by itself or
as the answer to a command, or it sets the mark of deletion.

## Main Definitions

* `Root.Change`, `InPlace.change`, `Root.changed` — the changes, and the root behind them.

## Main Statements

* `InPlace.allOrNothing_change` — a change that is refused leaves the root as it is.
* `Root.changed_induct` — what new events and marks of deletion preserve, every change preserves.
* `Root.Own.changed` — a changed root is still one of its aggregate.
-/

namespace EventSourcing.Root

variable {Id : Type} {A : Aggregate Id}

/-- A change of a root that its client makes by itself. -/
inductive Change {Id : Type} (A : Aggregate Id) where
  | apply (stamp : Stamp) (payload : A.Event)
  | execute (stamps : Nat → Stamp) (command : Command A)
  | markDeleted (now : Instant)
  | undelete

/-- Makes a change. -/
def InPlace.change : Change A → InPlace A A.Error Unit
  | .apply stamp payload => modify (apply stamp payload)
  | .execute stamps command => discard (InPlace.execute stamps command)
  | .markDeleted now => modify (markDeleted now)
  | .undelete => modify undelete

/-- The root behind a change, unless the command refuses it. -/
def changed (root : Root A) (change : Change A) : Except A.Error (Root A) :=
  ((InPlace.change change).passed root).map Prod.snd

theorem InPlace.run_change_execute (stamps : Nat → Stamp) (command : Command A) (root : Root A) :
    InPlace.change (.execute stamps command) root =
      match command root.stateOrInitial with
      | .ok events => (.ok (), root.applyAll stamps events)
      | .error e => (.error e, root) := by
  rw [change, InPlace.run_discard (InPlace.run_execute stamps command root)]
  cases command root.stateOrInitial <;> rfl

/-- A change that is refused leaves the root as it is. -/
theorem InPlace.allOrNothing_change (change : Change A) : (InPlace.change change).AllOrNothing := by
  cases change with
  | execute stamps command => exact (allOrNothing_execute stamps command).discard
  | apply | markDeleted | undelete =>
    intro root e behind h
    cases h

theorem InPlace.run_change (change : Change A) (root : Root A) :
    InPlace.change change root =
      match root.changed change with
      | .ok behind => (.ok (), behind)
      | .error e => (.error e, root) := by
  cases hchanged : root.changed change with
  | ok behind =>
    obtain ⟨⟨⟨⟩, behind⟩, hpassed, rfl⟩ := map_eq_ok.mp hchanged
    exact run_of_ok hpassed
  | error e => exact (allOrNothing_change change).run_of_error (map_eq_error.mp hchanged)

/-- A command records the events that answer it. -/
theorem changed_execute (root : Root A) (stamps : Nat → Stamp) (command : Command A) :
    root.changed (.execute stamps command) =
      (command root.stateOrInitial).map fun events => root.applyAll stamps events := by
  rw [changed, InPlace.passed, InPlace.run_change_execute]
  cases command root.stateOrInitial <;> rfl

/-- What is preserved by every new event of the aggregate and by every mark of deletion is preserved
by every change.  A mark is set with its time, and taken away with it. -/
theorem changed_induct {P : Root A → Prop} {root root' : Root A} {change : Change A}
    (hchanged : root.changed change = .ok root')
    (hrecord : ∀ (r : Root A) (e : Envelope Id A.Event),
      e.aggregate = r.id → e.version = none → P r → P (r.record e))
    (hmark : ∀ (r : Root A) (deleted : Bool) (deletedAt : Option Instant),
      deleted = deletedAt.isSome → P r → P { r with deleted := deleted, deletedAt := deletedAt })
    (h : P root) : P root' := by
  have happly (r : Root A) (stamp : Stamp) (payload : A.Event) (hr : P r) :
      P (r.apply stamp payload) := hrecord r _ rfl rfl hr
  -- A command records its events one after the other, each on the root behind the last one.
  have happlyAll (payloads : List A.Event) :
      ∀ (stamps : Nat → Stamp) (r : Root A), P r → P (r.applyAll stamps payloads) := by
    induction payloads with
    | nil => exact fun _ _ hr => hr
    | cons payload rest ih => exact fun stamps r hr => ih _ _ (happly r (stamps 0) payload hr)
  cases change with
  | apply stamp payload =>
    cases hchanged
    exact happly root stamp payload h
  | execute stamps command =>
    rw [changed_execute] at hchanged
    cases hcommand : command root.stateOrInitial with
    | error violation =>
      rw [hcommand] at hchanged
      cases hchanged
    | ok payloads =>
      rw [hcommand] at hchanged
      cases hchanged
      exact happlyAll payloads stamps root h
  | markDeleted now =>
    cases hchanged
    rw [markDeleted]
    split
    · exact h
    · exact hmark root true (some now) rfl h
  | undelete =>
    cases hchanged
    exact hmark root false none rfl h

/-- A change leaves a root at its version. -/
theorem version_changed {root root' : Root A} {change : Change A}
    (hchanged : root.changed change = .ok root') : root'.version = root.version :=
  changed_induct (P := fun r => r.version = root.version) hchanged (fun _ _ _ _ h => h)
    (fun _ _ _ _ h => h) rfl

/-- A changed root is one of its aggregate. -/
theorem Own.changed [Identifier Id] {id : Id} {tenant : Option String} {root root' : Root A}
    {change : Change A} (h : root.Own id tenant) (hchanged : root.changed change = .ok root') :
    root'.Own id tenant := by
  refine changed_induct (P := fun r => r.Own id tenant) hchanged ?_ ?_ h
  · intro r e haggregate hversion hr
    refine ⟨hr.aggregate, hr.nonempty, hr.tenant, fun e' he' => ?_⟩
    rcases List.mem_append.mp he' with he' | he'
    · exact hr.pending e' he'
    · rw [List.mem_singleton.mp he', haggregate]
      exact ⟨hr.aggregate, hversion⟩
  · intro r deleted deletedAt _ hr
    exact ⟨hr.aggregate, hr.nonempty, hr.tenant, hr.pending⟩

end EventSourcing.Root
