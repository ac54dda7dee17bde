import EventSourcing.Proofs.Aggregate.Replay
import EventSourcing.Proofs.Clients.Changes
import EventSourcing.Sample.Counter

/-!
# Authoring is replaying

A client does one thing after the other to a root: it records events, commits them by hand, replays
history, sets marks.  Some of it fails.  The log of what came of it determines the state, the
version and the pending events: the state is the one after all events in the log, the version counts
those that were committed or replayed, as a word, and pending are those recorded since the last
commit.

What was committed or replayed can be replayed on a root as it was in the beginning.  This leads to
the same version, and to the same state if nothing is pending.

## Main Definitions

* `Root.Act`, `InPlace.act`, `Root.acted`, `Root.actedAll` — what a client does to a root.
* `Root.Outcome`, `Root.outcome`, `Root.log` — what comes of it.
* `Root.Authored` — a root as the log of its past says.

## Main Statements

* `Root.acted_outcome` — what an act answers and does, by what comes of it.
* `Root.Authored.acted` — one act.
* `Root.Authored.actedAll` — any acts, by induction.
* `Root.authoring_is_replaying` — a root behind any acts is the one behind its events.
-/

namespace EventSourcing.Root

variable {Id : Type} {A : Aggregate Id}

/-! ### Several events -/

/-- Records events in order. -/
def recordAll (es : List (Envelope Id A.Event)) (root : Root A) : Root A :=
  es.foldl (fun root e => root.record e) root

@[simp] theorem id_recordAll (es : List (Envelope Id A.Event)) (root : Root A) :
    (root.recordAll es).id = root.id := by
  induction es generalizing root with
  | nil => rfl
  | cons e rest ih => exact ih (root.record e)

@[simp] theorem version_recordAll (es : List (Envelope Id A.Event)) (root : Root A) :
    (root.recordAll es).version = root.version := by
  induction es generalizing root with
  | nil => rfl
  | cons e rest ih => exact ih (root.record e)

@[simp] theorem pending_recordAll (es : List (Envelope Id A.Event)) (root : Root A) :
    (root.recordAll es).pending = root.pending ++ es := by
  induction es generalizing root with
  | nil => exact (List.append_nil _).symm
  | cons e rest ih =>
    rw [List.append_cons]
    exact ih (root.record e)

theorem state_recordAll {root : Root A} {payloads : List A.Event}
    (h : root.state = A.after payloads) (es : List (Envelope Id A.Event)) :
    (root.recordAll es).state = A.after (payloads ++ es.map Envelope.payload) := by
  induction es generalizing root payloads with
  | nil =>
    rw [List.map_nil, List.append_nil]
    exact h
  | cons e rest ih =>
    rw [List.map_cons, List.append_cons]
    exact ih (state_record h e)

/-- New events with the given payloads. -/
def newEvents (root : Root A) (stamps : Nat → Stamp) (payloads : List A.Event) :
    List (Envelope Id A.Event) :=
  payloads.mapIdx fun i payload => .new (stamps i) root.id root.originator payload

/-- A command records its new events in order. -/
theorem applyAll_eq (stamps : Nat → Stamp) (payloads : List A.Event) (root : Root A) :
    root.applyAll stamps payloads = root.recordAll (root.newEvents stamps payloads) := by
  induction payloads generalizing stamps root with
  | nil => rfl
  | cons payload rest ih =>
    rw [applyAll, newEvents, List.mapIdx_cons]
    exact ih (fun i => stamps (i + 1)) (root.apply (stamps 0) payload)

/-! ### Acts -/

/-- What a client does to a root without a store. -/
inductive Act {Id : Type} (A : Aggregate Id) where
  | change (change : Change A)
  | record (e : Envelope Id A.Event)
  | originator (originator : Originator)
  | flush
  | rehydrate (history : List (Envelope Id A.Event))

/-- What comes of an act. -/
inductive Outcome {Id : Type} (A : Aggregate Id) where
  /-- New events are recorded. -/
  | recorded (es : List (Envelope Id A.Event))
  /-- The pending events are committed. -/
  | flushed (es : List (Envelope Id A.Event))
  /-- History is replayed. -/
  | replayed (es : List (Envelope Id A.Event))
  /-- A mark is set or taken away. -/
  | noted
  /-- The act fails. -/
  | refused

namespace Outcome

/-- The payloads that are folded into the state. -/
def folded : Outcome A → List A.Event
  | recorded es | replayed es => es.map Envelope.payload
  | flushed _ | noted | refused => []

/-- The events that are history from now on. -/
def committed : Outcome A → List (Envelope Id A.Event)
  | flushed es | replayed es => es
  | recorded _ | noted | refused => []

/-- The events that are not committed yet, given those in front. -/
def buffered (pending : List (Envelope Id A.Event)) : Outcome A → List (Envelope Id A.Event)
  | recorded es => pending ++ es
  | flushed _ => []
  | replayed _ | noted | refused => pending

end Outcome

/-- Why an act fails. -/
inductive Act.Failure {Id : Type} (A : Aggregate Id) where
  | command (e : A.Error)
  | flush (e : FlushError Id)
  | replay (e : ReplayError Id)

section Counting

variable [Counting] [Identifier Id]

/-- Does an act. -/
def InPlace.act : Act A → InPlace A (Act.Failure A) Unit
  | .change change => (InPlace.change change).adapt .command
  | .record e => modify (record e)
  | .originator originator => modify fun root => { root with originator := originator }
  | .flush => (discard InPlace.flush).adapt .flush
  | .rehydrate history => (InPlace.rehydrate history).adapt .replay

/-- What an act answers. -/
def answered (root : Root A) (act : Act A) : Except (Act.Failure A) Unit := (InPlace.act act root).1

/-- The root behind an act, whatever it answers. -/
def acted (root : Root A) (act : Act A) : Root A := (InPlace.act act root).2

/-- What comes of an act. -/
def outcome (root : Root A) : Act A → Outcome A
  | .change (.apply stamp payload) => .recorded [.new stamp root.id root.originator payload]
  | .change (.execute stamps command) =>
    match command root.stateOrInitial with
    | .ok payloads => .recorded (root.newEvents stamps payloads)
    | .error _ => .refused
  | .change (.markDeleted _) | .change .undelete | .originator _ => .noted
  | .record e => .recorded [e]
  | .flush =>
    match root.stage with
    | .ok committed => .flushed committed
    | .error _ => .refused
  | .rehydrate history =>
    match root.rehydrate history with
    | .ok _ => .replayed history
    | .error _ => .refused

/-- The root behind acts. -/
def actedAll (root : Root A) (acts : List (Act A)) : Root A := acts.foldl acted root

/-- What comes of acts. -/
def log (root : Root A) : List (Act A) → List (Outcome A)
  | [] => []
  | act :: rest => root.outcome act :: (root.acted act).log rest

/-- What an act answers and does to a root, by what comes of it. -/
inductive Acted (root : Root A) : Outcome A → Except (Act.Failure A) Unit × Root A → Prop where
  | recorded (es : List (Envelope Id A.Event)) :
      Acted root (.recorded es) (.ok (), root.recordAll es)
  | flushed (hpending : ∀ e ∈ root.pending, e.aggregate = root.id) :
      Acted root (.flushed (Envelope.committedFrom root.version root.pending))
        (.ok (), root.complete (Envelope.committedFrom root.version root.pending))
  | replayed (history : List (Envelope Id A.Event)) (hpending : root.pending = [])
      (hfault : replayFault? root.id root.version history = none) :
      Acted root (.replayed history) (.ok (), root.replayed history)
  | noted (root' : Root A) (hid : root'.id = root.id) (hversion : root'.version = root.version)
      (hstate : root'.state = root.state) (hpending : root'.pending = root.pending) :
      Acted root .noted (.ok (), root')
  | refused (failure : Act.Failure A) : Acted root .refused (.error failure, root)

/-- **An act does what comes of it.** -/
theorem acted_outcome (root : Root A) (act : Act A) :
    Acted root (root.outcome act) (InPlace.act act root) := by
  cases act with
  | change change =>
    cases change with
    | apply stamp payload => exact .recorded [.new stamp root.id root.originator payload]
    | execute stamps command =>
      rw [outcome, InPlace.act,
        InPlace.run_adapt _ (InPlace.run_change_execute stamps command root)]
      cases command root.stateOrInitial with
      | error e => exact .refused (.command e)
      | ok payloads =>
        have hrecorded : Acted root (.recorded (root.newEvents stamps payloads))
            (.ok (), root.applyAll stamps payloads) := by
          rw [applyAll_eq]
          exact .recorded _
        exact hrecorded
    | markDeleted now =>
      have hmark : (root.markDeleted now).id = root.id ∧
          (root.markDeleted now).version = root.version ∧
          (root.markDeleted now).state = root.state ∧
          (root.markDeleted now).pending = root.pending := by
        unfold markDeleted
        split <;> exact ⟨rfl, rfl, rfl, rfl⟩
      obtain ⟨hid, hversion, hstate, hpending⟩ := hmark
      exact .noted (root.markDeleted now) hid hversion hstate hpending
    | undelete => exact .noted root.undelete rfl rfl rfl rfl
  | record e => exact .recorded [e]
  | originator originator => exact .noted { root with originator := originator } rfl rfl rfl rfl
  | flush =>
    rw [outcome, InPlace.act]
    cases hflush : root.flush with
    | error fault =>
      have hrun := InPlace.allOrNothing_flush.run_of_error hflush
      rw [flush_eq, map_eq_error] at hflush
      rw [hflush, InPlace.run_adapt _ (InPlace.run_discard hrun)]
      exact .refused (.flush fault)
    | ok flushed =>
      obtain ⟨committed, root'⟩ := flushed
      have hrun := InPlace.run_of_ok hflush
      obtain ⟨hstage, rfl⟩ := flush_eq_ok.mp hflush
      rw [hstage, InPlace.run_adapt _ (InPlace.run_discard hrun)]
      obtain rfl := stage_eq_ok hstage
      exact .flushed (aggregate_of_stage hstage)
  | rehydrate history =>
    rw [outcome, InPlace.act]
    cases hrehydrate : root.rehydrate history with
    | error fault =>
      have hrun := InPlace.allOrNothing_rehydrate history
      rw [InPlace.run_adapt _ (hrun.run_of_error (map_eq_error.mp hrehydrate))]
      exact .refused (.replay fault)
    | ok root' =>
      obtain ⟨hpending, hfault, rfl⟩ := rehydrate_eq_ok.mp hrehydrate
      obtain ⟨⟨⟨⟩, behind⟩, hpassed, rfl⟩ := map_eq_ok.mp hrehydrate
      rw [InPlace.run_adapt _ (InPlace.run_of_ok hpassed)]
      exact .replayed history hpending hfault

/-- **An act that fails leaves the root as it is**, and nothing else comes of it. -/
theorem outcome_eq_refused {root : Root A} {act : Act A} :
    root.outcome act = .refused ↔ ∃ failure, root.answered act = .error failure := by
  have hact := root.acted_outcome act
  rw [answered]
  generalize InPlace.act act root = result at hact ⊢
  generalize root.outcome act = outcome at hact ⊢
  cases hact with
  | refused failure => exact ⟨fun _ => ⟨failure, rfl⟩, fun _ => rfl⟩
  | recorded es => exact ⟨nofun, nofun⟩
  | flushed hpending => exact ⟨nofun, nofun⟩
  | replayed history hpending hfault => exact ⟨nofun, nofun⟩
  | noted root' hid hversion hstate hpending => exact ⟨nofun, nofun⟩

theorem acted_of_refused {root : Root A} {act : Act A} (h : root.outcome act = .refused) :
    root.acted act = root := by
  have hact := root.acted_outcome act
  rw [acted]
  rw [h] at hact
  generalize InPlace.act act root = result at hact ⊢
  cases hact with
  | refused failure => rfl

/-- A mark leaves alone the state, the version and what is pending. -/
theorem acted_of_noted {root : Root A} {act : Act A} (h : root.outcome act = .noted) :
    (root.acted act).state = root.state ∧ (root.acted act).version = root.version ∧
      (root.acted act).pending = root.pending := by
  have hact := root.acted_outcome act
  rw [acted]
  rw [h] at hact
  generalize InPlace.act act root = result at hact ⊢
  cases hact with
  | noted root' hid hversion hstate hpending => exact ⟨hstate, hversion, hpending⟩

/-! ### Authored roots -/

/-- A root that was at a version without events, behind a past in which events were folded,
committed or replayed, and recorded only. -/
structure Authored (id : Id) (start : Nat) (folded : List A.Event)
    (committed pending : List (Envelope Id A.Event)) (root : Root A) : Prop where
  aggregate : root.id = id
  state : root.state = A.after folded
  version : root.version = plus start committed.length
  buffer : root.pending = pending
  /-- Everything that has been folded is history or pending. -/
  payloads : folded = committed.map Envelope.payload ++ pending.map Envelope.payload
  replayable : replayFault? id start committed = none

namespace Authored

variable {id : Id} {start : Nat} {folded : List A.Event} {root : Root A}
  {committed pending : List (Envelope Id A.Event)}

theorem bare (id : Id) (start : Nat) (tenant : Option String) :
    Authored id start [] [] [] (Root.bare A id start tenant) :=
  ⟨rfl, rfl, (Counting.plus_zero start).symm, rfl, rfl, rfl⟩

/-- History that follows the root leads from one history to a longer one. -/
theorem replayable_append (h : Authored id start folded committed pending root)
    {more : List (Envelope Id A.Event)} (hmore : replayFault? root.id root.version more = none) :
    replayFault? id start (committed ++ more) = none := by
  rw [replayFault?_append, h.replayable, ← h.version, ← h.aggregate]
  exact hmore

/-- Recorded events are folded and pending. -/
theorem recorded (h : Authored id start folded committed pending root)
    (es : List (Envelope Id A.Event)) :
    Authored id start (folded ++ es.map Envelope.payload) committed (pending ++ es)
      (root.recordAll es) where
  aggregate := (root.id_recordAll es).trans h.aggregate
  state := state_recordAll h.state es
  version := (root.version_recordAll es).trans h.version
  buffer := by rw [root.pending_recordAll, h.buffer]
  payloads := by rw [h.payloads, List.map_append, List.append_assoc]
  replayable := h.replayable

/-- Pending events that are committed are history, and are not folded once more. -/
theorem flushed (h : Authored id start folded committed pending root)
    (haggregate : ∀ e ∈ root.pending, e.aggregate = root.id) :
    Authored id start folded (committed ++ Envelope.committedFrom root.version root.pending) []
      (root.complete (Envelope.committedFrom root.version root.pending)) where
  aggregate := h.aggregate
  state := h.state
  version := by
    rw [List.length_append, ← Counting.plus_plus, ← h.version]
    rfl
  buffer := rfl
  payloads := by
    rw [h.payloads, List.map_append, Envelope.map_payload_committedFrom, h.buffer, List.map_nil,
      List.append_nil]
  replayable := h.replayable_append (replayFault?_committedFrom root.version haggregate)

/-- History that is replayed is folded; nothing was pending in front of it. -/
theorem replayed (h : Authored id start folded committed pending root)
    {history : List (Envelope Id A.Event)} (hpending : root.pending = [])
    (hfault : replayFault? root.id root.version history = none) :
    Authored id start (folded ++ history.map Envelope.payload) (committed ++ history) pending
      (root.replayed history) where
  aggregate := (root.id_replayed history).trans h.aggregate
  state := state_replayed h.state history
  version := by rw [root.version_replayed, h.version, List.length_append, Counting.plus_plus]
  buffer := (root.pending_replayed history).trans h.buffer
  payloads := by
    have hnothing : pending = [] := h.buffer.symm.trans hpending
    rw [h.payloads, hnothing, List.map_append, List.map_nil, List.append_nil, List.append_nil]
  replayable := h.replayable_append hfault

/-- **Behind an act the root is as what came of it says.** -/
theorem acted (h : Authored id start folded committed pending root) (act : Act A) :
    Authored id start (folded ++ (root.outcome act).folded)
      (committed ++ (root.outcome act).committed) ((root.outcome act).buffered pending)
      (root.acted act) := by
  have hact := root.acted_outcome act
  rw [Root.acted]
  generalize root.outcome act = outcome at hact ⊢
  generalize InPlace.act act root = result at hact ⊢
  cases hact with
  | recorded es =>
    simp only [Outcome.committed, List.append_nil]
    exact h.recorded es
  | flushed haggregate =>
    simp only [Outcome.folded, List.append_nil]
    exact h.flushed haggregate
  | replayed history hpending hfault => exact h.replayed hpending hfault
  | noted root' hid hversion hstate hpending =>
    simp only [Outcome.folded, Outcome.committed, List.append_nil]
    exact ⟨hid.trans h.aggregate, hstate.trans h.state, hversion.trans h.version,
      hpending.trans h.buffer, h.payloads, h.replayable⟩
  | refused failure =>
    simp only [Outcome.folded, Outcome.committed, List.append_nil]
    exact h

/-- **Behind any acts the root is as the log of them says.** -/
theorem actedAll (h : Authored id start folded committed pending root) (acts : List (Act A)) :
    Authored id start (folded ++ (root.log acts).flatMap Outcome.folded)
      (committed ++ (root.log acts).flatMap Outcome.committed)
      ((root.log acts).foldl Outcome.buffered pending) (root.actedAll acts) := by
  induction acts generalizing folded committed pending root with
  | nil =>
    rw [log, List.flatMap_nil, List.flatMap_nil, List.append_nil, List.append_nil]
    exact h
  | cons act rest ih =>
    rw [log, List.flatMap_cons, List.flatMap_cons, ← List.append_assoc, ← List.append_assoc]
    exact ih (h.acted act)

/-- What is history can be replayed on the root as it was in the beginning. -/
theorem rehydrated (h : Authored id start folded committed pending root) (tenant : Option String) :
    ∃ replayed, (Root.bare A id start tenant).rehydrate committed = .ok replayed ∧
      replayed.version = root.version ∧ (root.pending = [] → replayed.state = root.state) := by
  refine ⟨_, rehydrate_eq_ok.mpr ⟨rfl, h.replayable, rfl⟩, ?_, ?_⟩
  · rw [version_replayed, h.version]
    rfl
  · intro hpending
    have hnothing : pending = [] := h.buffer.symm.trans hpending
    have hfresh : (Root.bare A id start tenant).state = A.after [] := rfl
    rw [state_replayed hfresh, h.state, h.payloads, hnothing, List.map_nil, List.append_nil,
      List.nil_append]

end Authored

end Counting

/-! ### Runs -/

/-- **Authoring is replaying.**  A new root, whatever is done to it and whatever of that fails, has
no state if no event was ever applied, recorded or replayed, and otherwise the state that all these
events lead to in their order; its version is behind that of the new root by the number of events
that were committed or replayed, and pending are the events that were recorded since the last
commit.  Nothing comes of an act exactly if it fails, and then the root is as it was; marks leave
alone its state, its version and what is pending.  What was committed or replayed can be replayed on
the new root, which leads to the same version, and to the same state if nothing is pending. -/
theorem authoring_is_replaying [Identifier Id] {id : Id} {start : UInt64} {fresh : Root A}
    (hstart : Root.start A id start.toNat = .ok fresh) (acts : List (Act A)) :
    let root := fresh.actedAll acts
    let folded := (fresh.log acts).flatMap Outcome.folded
    let committed := (fresh.log acts).flatMap Outcome.committed
    (root.state = none ↔ folded = []) ∧
    (folded ≠ [] → root.state = some (A.fold A.initial folded)) ∧
    root.version = (start + UInt64.ofNat committed.length).toNat ∧
    root.pending = (fresh.log acts).foldl Outcome.buffered [] ∧
    (∀ act, root.outcome act = .refused ↔ ∃ failure, root.answered act = .error failure) ∧
    (∀ act, root.outcome act = .refused → root.acted act = root) ∧
    (∀ act, root.outcome act = .noted → (root.acted act).state = root.state ∧
      (root.acted act).version = root.version ∧ (root.acted act).pending = root.pending) ∧
    ∃ replayed, fresh.rehydrate committed = .ok replayed ∧ replayed.version = root.version ∧
      (root.pending = [] → replayed.state = root.state) := by
  intro root folded committed
  obtain ⟨-, hfresh⟩ := start_eq_ok.mp hstart
  have hauthored : Authored id start.toNat folded committed
      ((fresh.log acts).foldl Outcome.buffered []) root := by
    have hbare := (Authored.bare (A := A) id start.toNat none).actedAll acts
    rw [hfresh] at hbare
    exact hbare
  refine ⟨?_, ?_, hauthored.version.trans (Counting.plus_toNat start committed.length),
    hauthored.buffer, fun act => outcome_eq_refused, fun act => acted_of_refused,
    fun act => acted_of_noted, ?_⟩
  · rw [hauthored.state]
    exact A.after_eq_none
  · intro hfolded
    rw [hauthored.state]
    exact A.after_of_ne_nil hfolded
  · rw [← hfresh]
    exact hauthored.rehydrated none

/-- A counter at version three: the event of a command is committed; history is refused and then
replayed; the mark of deletion is set; a command is refused; an event of another counter is
recorded, which cannot be committed.  A counter at the greatest version is at version zero behind
the next event. -/
theorem authoring_is_replaying_counter :
    let event (id : String) (version : Option Nat) : Envelope String Sample.counter.Event :=
      ⟨.nil, id, version, Sample.CounterEvent.reset, .epoch, .unknown⟩
    let execute (command : Command Sample.counter) : Act Sample.counter :=
      .change (.execute (fun _ => ⟨.nil, .epoch⟩) command)
    let acts := [execute fun _ => .ok [Sample.CounterEvent.reset], .flush,
      .rehydrate [event "c" (some 9)], .rehydrate [event "c" (some 5)],
      .change (.markDeleted .epoch), execute fun _ => .error ⟨"Frozen", "it is frozen", []⟩,
      .record (event "d" none), .flush]
    let fresh : Root Sample.counter := .bare Sample.counter "c" 3 none
    let last : Root Sample.counter := .bare Sample.counter "c" Version.max none
    Root.start Sample.counter "c" (3 : UInt64).toNat = .ok fresh ∧
      (fresh.actedAll acts).state = some (⟨0, 3⟩ : Sample.Counter) ∧
      (fresh.actedAll acts).version = 5 ∧ (fresh.actedAll acts).pending = [event "d" none] ∧
      (fresh.actedAll acts).acted .flush = fresh.actedAll acts ∧
      (∃ replayed, fresh.rehydrate [event "c" (some 4), event "c" (some 5)] = .ok replayed ∧
        replayed.version = 5) ∧
      Root.start Sample.counter "c" (0xFFFFFFFFFFFFFFFF : UInt64).toNat = .ok last ∧
      (last.actedAll [.record (event "c" none), .flush]).version = 0 := by
  intro event execute acts fresh last
  have hstart : Root.start Sample.counter "c" (3 : UInt64).toNat = .ok fresh := rfl
  have hlast : Root.start Sample.counter "c" (0xFFFFFFFFFFFFFFFF : UInt64).toNat = .ok last := rfl
  have hlog : fresh.log acts = [.recorded [event "c" none], .flushed [event "c" (some 4)], .refused,
      .replayed [event "c" (some 5)], .noted, .refused, .recorded [event "d" none], .refused] := by
    simp only [acts, execute, event, fresh]
    rfl
  have hfails : (fresh.actedAll acts).outcome .flush = .refused := by
    simp only [acts, execute, event, fresh]
    rfl
  have hend : last.log [.record (event "c" none), .flush] =
      [.recorded [event "c" none], .flushed [event "c" (some 0)]] := by
    simp only [event, last]
    rfl
  obtain ⟨-, hstate, hversion, hpending, -, hrefused, -, replayed, hreplayed, hbehind, -⟩ :=
    authoring_is_replaying hstart acts
  rw [hlog] at hstate hversion hpending hreplayed
  have hzero := (authoring_is_replaying hlast [.record (event "c" none), .flush]).2.2.1
  rw [hend] at hzero
  have hpast : ((0xFFFFFFFFFFFFFFFF : UInt64) + UInt64.ofNat 1).toNat = 0 := by decide
  exact ⟨hstart, hstate nofun, hversion, hpending, hrefused .flush hfails,
    ⟨replayed, hreplayed, hbehind.trans hversion⟩, hlast, hzero.trans hpast⟩

end EventSourcing.Root
