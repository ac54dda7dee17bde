import EventSourcing.Proofs.Aggregate.InPlace

/-!
# Histories and the roots behind them

A history is replayed on a root if nothing is pending there and each of its events belongs to the
root and has the version that follows.  What is replayed is folded onto the state that is there, so
a root on which one history after the other is replayed is the root behind all of them.

## Main Definitions

* `Aggregate.after` — the state after a history, if there is any.
* `Root.behind` — the root behind events with the given payloads.

## Main Statements

* `Root.start_eq_ok`, `Root.shell_eq_ok` — which roots begin without events.
* `Root.rehydrate_eq_ok` — which histories are replayed, and what they lead to.
* `Root.replayFault?_append` — one history after the other.
* `Root.replayFault?_committedFrom` — committed events can be replayed.
-/

namespace EventSourcing

variable {Id : Type} {A : Aggregate Id}

/-! ### States -/

/-- The state after a history; nothing before the first event. -/
def Aggregate.after (A : Aggregate Id) : List A.Event → Option A.State
  | [] => none
  | e :: rest => some (A.fold A.initial (e :: rest))

theorem Aggregate.after_of_ne_nil {payloads : List A.Event} (h : payloads ≠ []) :
    A.after payloads = some (A.fold A.initial payloads) := by
  cases payloads with
  | nil => exact absurd rfl h
  | cons e rest => rfl

theorem Aggregate.after_eq_none {payloads : List A.Event} :
    A.after payloads = none ↔ payloads = [] := by
  cases payloads with
  | nil => exact ⟨fun _ => rfl, fun _ => rfl⟩
  | cons e rest => exact ⟨nofun, nofun⟩

theorem Aggregate.getD_after (payloads : List A.Event) :
    (A.after payloads).getD A.initial = A.fold A.initial payloads := by
  cases payloads with
  | nil => rfl
  | cons e rest => rfl

/-- More events lead on from the state that is there, or from the initial one. -/
theorem Aggregate.after_append (payloads : List A.Event) {more : List A.Event} (h : more ≠ []) :
    A.after (payloads ++ more) = some (A.fold ((A.after payloads).getD A.initial) more) := by
  have hne : payloads ++ more ≠ [] := fun hnil => h (List.append_eq_nil_iff.mp hnil).2
  rw [A.after_of_ne_nil hne, A.getD_after, A.fold_append]

namespace Root

/-- A new event leads on from the state. -/
theorem state_record {root : Root A} {payloads : List A.Event} (h : root.state = A.after payloads)
    (e : Envelope Id A.Event) : (root.record e).state = A.after (payloads ++ [e.payload]) := by
  rw [A.after_append payloads (List.cons_ne_nil _ _), ← h]
  rfl

/-! ### Roots without events -/

/-- A new root has an identifier, and nothing has happened to it. -/
theorem start_eq_ok [Identifier Id] {id : Id} {version : Nat} {root : Root A} :
    Root.start A id version = .ok root ↔
      Identifier.isEmpty id = false ∧ Root.bare A id version none = root := by
  rw [start]
  cases Identifier.isEmpty id with
  | true => exact ⟨nofun, fun h => nomatch h.1⟩
  | false => exact ⟨fun h => ⟨rfl, Except.ok.inj h⟩, fun h => congrArg Except.ok h.2⟩

/-- So has a root without history, which has a tenant exactly if the kind asks for one. -/
theorem shell_eq_ok [Identifier Id] {id : Id} {version : Option Nat} {tenant : Option String}
    {root : Root A} :
    Root.shell A id version tenant = .ok root ↔
      tenant.isSome = A.tenantScoped ∧ Identifier.isEmpty id = false ∧
        Root.bare A id (version.getD 0) tenant = root := by
  simp only [shell, ShellShape.fits, beq_iff_eq]
  by_cases htenant : tenant.isSome = A.tenantScoped
  · rw [if_pos htenant]
    cases Identifier.isEmpty id with
    | true => exact ⟨nofun, fun h => nomatch h.2.1⟩
    | false => exact ⟨fun h => ⟨htenant, rfl, Except.ok.inj h⟩, fun h => congrArg Except.ok h.2.2⟩
  · rw [if_neg htenant]
    exact ⟨nofun, fun h => absurd h.1 htenant⟩

/-! ### Replaying -/

variable [Counting]

@[simp] theorem id_replayed (history : List (Envelope Id A.Event)) (root : Root A) :
    (root.replayed history).id = root.id := by
  cases history <;> rfl

@[simp] theorem tenant_replayed (history : List (Envelope Id A.Event)) (root : Root A) :
    (root.replayed history).tenant = root.tenant := by
  cases history <;> rfl

@[simp] theorem version_replayed (history : List (Envelope Id A.Event)) (root : Root A) :
    (root.replayed history).version = plus root.version history.length := by
  cases history with
  | nil => exact (Counting.plus_zero root.version).symm
  | cons e rest => rfl

@[simp] theorem pending_replayed (history : List (Envelope Id A.Event)) (root : Root A) :
    (root.replayed history).pending = root.pending := by
  cases history <;> rfl

/-- History leads on from the state. -/
theorem state_replayed {root : Root A} {payloads : List A.Event}
    (h : root.state = A.after payloads) (history : List (Envelope Id A.Event)) :
    (root.replayed history).state = A.after (payloads ++ history.map Envelope.payload) := by
  cases history with
  | nil =>
    rw [List.map_nil, List.append_nil]
    exact h
  | cons e rest =>
    rw [List.map_cons, A.after_append payloads (List.cons_ne_nil _ _), ← h]
    rfl

variable [Identifier Id]

/-- **A history is replayed if nothing is pending and all of it follows the root.** -/
theorem rehydrate_eq_ok {root root' : Root A} {history : List (Envelope Id A.Event)} :
    root.rehydrate history = .ok root' ↔
      root.pending = [] ∧ replayFault? root.id root.version history = none ∧
        root.replayed history = root' := by
  rw [rehydrate_eq]
  by_cases hpending : root.pending = []
  · rw [if_neg (not_not_intro hpending)]
    cases replayFault? root.id root.version history with
    | some fault => exact ⟨nofun, fun h => nomatch h.2.1⟩
    | none => exact ⟨fun h => ⟨hpending, rfl, Except.ok.inj h⟩, fun h => congrArg _ h.2.2⟩
  · rw [if_pos hpending]
    exact ⟨nofun, fun h => absurd h.1 hpending⟩

/-- Of two histories the second one is to follow the root behind the first one. -/
theorem replayFault?_append (id : Id) (version : Nat) (history more : List (Envelope Id A.Event)) :
    replayFault? id version (history ++ more) =
      (replayFault? id version history).or
        (replayFault? id (plus version history.length) more) := by
  induction history generalizing version with
  | nil =>
    rw [List.nil_append, List.length_nil, Counting.plus_zero]
    rfl
  | cons e rest ih =>
    rw [List.cons_append, replayFault?, replayFault?]
    split
    · rfl
    · split
      · rfl
      · rw [ih, List.length_cons, Counting.plus_one_plus]

/-- Events of an aggregate that have been committed behind a version can be replayed there. -/
theorem replayFault?_committedFrom {id : Id} (version : Nat) {es : List (Envelope Id A.Event)}
    (h : ∀ e ∈ es, e.aggregate = id) :
    replayFault? id version (Envelope.committedFrom version es) = none := by
  induction es generalizing version with
  | nil => rfl
  | cons e rest ih =>
    have haggregate : (e.committed (plus version 1)).aggregate = id := h e List.mem_cons_self
    have hversion : (e.committed (plus version 1)).version = some (plus version 1) := rfl
    rw [Envelope.committedFrom, replayFault?, if_neg (not_not_intro haggregate),
      if_neg (not_not_intro hversion)]
    exact ih (plus version 1) fun e he => h e (List.mem_cons_of_mem _ he)

end Root

/-! ### The root behind events -/

attribute [local instance] Counting.exact

/-- The root behind the events with the given payloads. -/
def Root.behind (A : Aggregate Id) (id : Id) (tenant : Option String) (payloads : List A.Event) :
    Root A :=
  { Root.bare A id payloads.length tenant with state := A.after payloads }

theorem Root.replayed_behind (id : Id) (tenant : Option String) (payloads : List A.Event)
    (es : List (Envelope Id A.Event)) :
    (Root.behind A id tenant payloads).replayed es =
      Root.behind A id tenant (payloads ++ es.map Envelope.payload) := by
  cases es with
  | nil =>
    rw [List.map_nil, List.append_nil]
    rfl
  | cons e rest =>
    rw [behind, behind, List.map_cons, A.after_append payloads (List.cons_ne_nil _ _),
      List.length_append, List.length_cons, List.length_map]
    rfl

end EventSourcing
