import EventSourcing.Proofs.Clients.Office
import EventSourcing.Proofs.Sample.Counter
import EventSourcing.Proofs.Testing.Authored
import EventSourcing.Testing.Scenario

/-!
# Scenarios and repositories

A scenario makes up its history in memory: the events are recorded on a new root and committed by
hand.  A repository has it from a store: the events are encoded, stored, decoded and replayed.  Both
ways lead to one and the same root, so that a command has the same answer and the same effect on
both, and nothing that holds of an aggregate in a scenario fails with a repository.

## Main Statements

* `Scenario.given_eq` — the root of a scenario is the one behind its history.
* `Repository.load_seeded` — so is the root that is loaded when the history has been seeded.
* `Scenario.when_agrees` — scenarios and repositories agree.
-/

namespace EventSourcing

attribute [local instance] Counting.exact

variable {Id : Type} {A : Aggregate Id} {codec : Codec}

/-! ### Scenarios -/

namespace Root

/-- What is recorded is folded into the state and is pending; all else stays. -/
theorem recordAll_eq {root : Root A} {payloads : List A.Event} (h : root.state = A.after payloads)
    (es : List (Envelope Id A.Event)) :
    root.recordAll es =
      { root with
        state := A.after (payloads ++ es.map Envelope.payload)
        pending := root.pending ++ es } := by
  induction es generalizing root payloads with
  | nil =>
    rw [List.map_nil, List.append_nil, List.append_nil, ← h]
    rfl
  | cons e rest ih =>
    rw [List.map_cons, List.append_cons payloads, List.append_cons root.pending]
    exact ih (state_record h e)

theorem map_payload_newEvents (root : Root A) (stamps : Nat → Stamp) (payloads : List A.Event) :
    (root.newEvents stamps payloads).map Envelope.payload = payloads := by
  induction payloads generalizing stamps with
  | nil => rfl
  | cons payload rest ih => rw [newEvents_cons, List.map_cons, ih]; rfl

/-- A root behind events on which more of them are recorded and committed is the root behind all of
them. -/
theorem flush_applyAll_behind [Identifier Id] {id : Id} (hid : Identifier.isEmpty id = false)
    (tenant : Option String) (stamps : Nat → Stamp) (payloads more : List A.Event) :
    ∃ committed, ((behind A id tenant payloads).applyAll stamps more).flush =
      .ok (committed, behind A id tenant (payloads ++ more)) := by
  have hown : (behind A id tenant payloads).Own id tenant :=
    ⟨rfl, hid, rfl, fun _ he => by cases he⟩
  have hchanged : (behind A id tenant payloads).changed (.execute stamps fun _ => .ok more) =
      .ok ((behind A id tenant payloads).applyAll stamps more) := rfl
  refine ⟨_, flush_eq_ok.mpr ⟨(hown.changed hchanged).stage, ?_⟩⟩
  have hstate : (behind A id tenant payloads).state = A.after payloads := rfl
  rw [applyAll_eq, recordAll_eq hstate, map_payload_newEvents, complete,
    Envelope.length_committedFrom]
  simp [behind, bare, newEvents]

/-- The root behind a command is what the command leaves. -/
theorem acted_execute [Identifier Id] {stamps : Nat → Stamp} {command : Command A}
    {root behind : Root A} {answer : Except A.Error Nat}
    (h : InPlace.execute stamps command root = (answer, behind)) :
    root.acted (.change (.execute stamps command)) = behind := by
  rw [acted, InPlace.act, InPlace.change, InPlace.run_adapt _ (InPlace.run_discard h)]

end Root

namespace Scenario

variable [Identifier Id] {id : Id}

/-- More history leads to the root behind all of it. -/
theorem and_behind (hid : Identifier.isEmpty id = false) (ids : Nat → Uuid)
    (events more : List A.Event) :
    Scenario.and ids more ⟨Root.behind A id none events⟩ =
      .ok ⟨Root.behind A id none (events ++ more)⟩ := by
  obtain ⟨committed, hflush⟩ :=
    Root.flush_applyAll_behind hid none (stamps ids) events more
  rw [Scenario.and, hflush]

/-- **The root of a scenario is the one behind its history.** -/
theorem given_eq (hid : Identifier.isEmpty id = false) (ids : Nat → Uuid)
    (events : List A.Event) :
    Scenario.given A ids id events = .ok ⟨Root.behind A id none events⟩ := by
  have hstart : Root.start A id 0 = .ok (Root.behind A id none []) :=
    Root.start_eq_ok.mpr ⟨hid, rfl⟩
  rw [given, hstart]
  exact and_behind hid ids [] events

/-- **What a command does in a scenario** is what it does to the root: it has the same answer, which
is the one in the state of the root, and the root behind it differs only in the identifiers and
times of the new events. -/
theorem when_behind (id : Id) (tenant : Option String) (payloads : List A.Event)
    (ids : Nat → Uuid) (stamps : Nat → Stamp) (command : Command A) :
    let root := Root.behind A id tenant payloads
    let outcome := Scenario.when ids command ⟨root⟩
    let acted := root.acted (.change (.execute stamps command))
    outcome.result = command (A.fold A.initial payloads) ∧
      outcome.result = (root.execute stamps command).map
        (fun answer => answer.2.pending.map Envelope.payload) ∧
      outcome.root = { acted with pending := outcome.root.pending } ∧
      outcome.root.pending.map Envelope.payload = acted.pending.map Envelope.payload := by
  intro root outcome acted
  have hinitial : root.stateOrInitial = A.fold A.initial payloads := A.getD_after payloads
  cases hcommand : command (A.fold A.initial payloads) with
  | error e =>
    have hexecute (stamps : Nat → Stamp) :
        Root.InPlace.execute stamps command root = (.error e, root) := by
      rw [Root.InPlace.run_execute, hinitial, hcommand]
    have houtcome : outcome = ⟨.error e, root⟩ := by
      simp only [outcome, Scenario.when, hexecute]
    have hacted : acted = root := Root.acted_execute (hexecute stamps)
    rw [houtcome, hacted, Root.execute, Root.InPlace.passed, hexecute]
    exact ⟨rfl, rfl, rfl, rfl⟩
  | ok events =>
    let behind (stamps : Nat → Stamp) : Root A :=
      { root with
        state := A.after (payloads ++ events)
        pending := root.newEvents stamps events }
    have hexecute (stamps : Nat → Stamp) :
        Root.InPlace.execute stamps command root = (.ok events.length, behind stamps) := by
      rw [Root.InPlace.run_execute, hinitial, hcommand]
      show (Except.ok events.length, root.applyAll stamps events) = _
      rw [Root.applyAll_eq, Root.recordAll_eq rfl, Root.map_payload_newEvents]
      rfl
    have hpayloads (stamps : Nat → Stamp) :
        (behind stamps).pending.map Envelope.payload = events :=
      root.map_payload_newEvents stamps events
    have houtcome : outcome = ⟨.ok events, behind (Scenario.stamps ids)⟩ := by
      simp only [outcome, Scenario.when, hexecute, hpayloads]
    have hacted : acted = behind stamps := Root.acted_execute (hexecute stamps)
    rw [houtcome, hacted, Root.execute, Root.InPlace.passed, hexecute]
    exact ⟨rfl, congrArg _ (hpayloads stamps).symm, rfl,
      (hpayloads _).trans (hpayloads stamps).symm⟩

end Scenario

/-! ### Repositories -/

variable [Identifier Id]

/-- Seeding a new aggregate stores events that are read as the seeded ones. -/
theorem Seeding.seed_empty (hevents : A.events.Restores codec) {id : Id}
    (hid : Identifier.isEmpty id = false) (ids : Nat → Uuid) (now : Instant)
    (events : List A.Event) :
    let record : Record Id := ⟨id, events.length, none, false, none⟩
    ∃ batch, (batch.map (NewEvent.stored A.kind id)).mapM
        (fun e => A.events.decode codec e.kind e.data) = .ok events ∧
      (Memory.empty.extended A.kind record batch).Keeps A.kind id
        (batch.map (NewEvent.stored A.kind id)) ∧
      ∀ (τ : Type) (t : τ),
        Seeding.seed (Memory.backend Id codec) A ids now id events (Memory.empty, t) =
          (.ok (), (Memory.empty.extended A.kind record batch, t)) := by
  intro record
  have hcurrent : (Root.bare A id 0 none).Current .empty := ⟨hid, rfl, .inr ⟨rfl, rfl⟩⟩
  have hkeeps : (Memory.empty : Memory Id).Keeps A.kind record.aggregate [] :=
    Memory.keeps_empty A.kind id
  obtain ⟨batch, hbatch⟩ : ∃ batch, encodedFrom A codec now ids 0 events = .ok batch := by
    refine (exists_encodedFrom now ids 0 events).mpr fun e _ => ?_
    obtain ⟨data, hdata, -⟩ := hevents e
    exact ⟨data, hdata⟩
  have hrecord : (Root.bare A id 0 none).recordAt
      (plus (Root.bare A id 0 none).version batch.length) = record := by
    rw [length_encodedFrom codec hbatch, Root.recordAt]
    simp only [Root.bare, Counting.plus_exact, Nat.zero_add, record]
  have hsave := hcurrent.save hkeeps (gap?_encodedFrom hbatch)
  rw [hrecord] at hsave
  refine ⟨batch, decoded_encodedFrom hevents.roundTrips hbatch A.kind id,
    (hkeeps.save_ok hsave).2, fun τ t => ?_⟩
  rw [← hrecord]
  exact (hcurrent.seed hkeeps ids now events t).trans (by rw [Root.bare, hbatch])

/-- **The root that is loaded when a history has been seeded** is the one behind this history. -/
theorem Repository.load_seeded (hscoped : A.tenantScoped = false)
    (hevents : A.events.Restores codec) {id : Id} (hid : Identifier.isEmpty id = false)
    (cached : Bool) (policy : SnapshotPolicy) (ids : Nat → Uuid) (now : Instant)
    (events : List A.Event) :
    let R := Repository.onMemory codec (Office.caching cached)
    let t := SnapshotMemory.empty policy
    ∃ m, Seeding.seed R.store A ids now id events (Memory.empty, t) = (.ok (), (m, t)) ∧
      (events ≠ [] → (R.load A id (m, t)).1 = .ok (Root.behind A id none events)) := by
  intro R t
  obtain ⟨batch, hread, hkeeps, hseed⟩ := Seeding.seed_empty hevents hid ids now events
  refine ⟨_, hseed _ t, fun hne => ?_⟩
  have hversion : events.length ≠ 0 := List.length_eq_zero_iff.not.mpr hne
  let record : Record Id := ⟨id, events.length, none, false, none⟩
  have hrecord : (Memory.empty.extended A.kind record batch).recordOf A id = .ok record :=
    Memory.recordOf_extended A record batch .empty hversion
  have hnone : Office.usable cached A id t = fun _ => none := by
    cases cached <;> rfl
  have hscoped' : (none : Option String).isSome = A.tenantScoped := hscoped.symm
  rw [Office.load_caching, hnone, Memory.loaded_eq hkeeps hrecord, hread,
    Memory.shell_of_identified hid, if_pos hscoped']
  rfl

namespace Scenario

open Sample

/-- **Scenarios and repositories agree.**  Take an aggregate without tenants whose events are read
back from the store, and any history.  The scenario with this history can be set up, the history can
be seeded into an empty store, and what is loaded then, or created if there is no history, is the
root of the scenario.  So whatever the command, whatever the identifiers and the times of its
events: it has the same answer in the scenario as on that root, which is the answer in the state
behind the history and has no event of the history in it, and the root behind it is the same but for
these identifiers and times.  More history may be given at once or later. -/
theorem when_agrees (A : Aggregate Id) (hscoped : A.tenantScoped = false) (codec : Codec)
    (hevents : A.events.Restores codec) (id : Id) (hid : Identifier.isEmpty id = false)
    (cached : Bool) (policy : SnapshotPolicy) (ids ids' : Nat → Uuid) (now : Instant)
    (events : List A.Event) :
    let R := Repository.onMemory codec (Office.caching cached)
    let t := SnapshotMemory.empty policy
    ∃ scenario m root,
      Scenario.given A ids id events = .ok scenario ∧
      Seeding.seed R.store A ids' now id events (Memory.empty, t) = (.ok (), (m, t)) ∧
      (if events = [] then Repository.create A id = .ok root
        else (R.load A id (m, t)).1 = .ok root) ∧
      scenario.root = root ∧
      (∀ (command : Command A) (ids : Nat → Uuid) (stamps : Nat → Stamp),
        let outcome := scenario.when ids command
        let acted := root.acted (.change (.execute stamps command))
        outcome.result = command (A.fold A.initial events) ∧
          outcome.result = (root.execute stamps command).map
            (fun answer => answer.2.pending.map Envelope.payload) ∧
          outcome.root = { acted with pending := outcome.root.pending } ∧
          outcome.root.pending.map Envelope.payload = acted.pending.map Envelope.payload) ∧
      ∀ (ids ids' : Nat → Uuid) (more : List A.Event),
        scenario.and ids more = Scenario.given A ids' id (events ++ more) := by
  intro R t
  obtain ⟨m, hseed, hload⟩ :=
    Repository.load_seeded hscoped hevents hid cached policy ids' now events
  refine ⟨⟨Root.behind A id none events⟩, m, Root.behind A id none events, given_eq hid ids events,
    hseed, ?_, rfl, fun command ids stamps => when_behind id none events ids stamps command,
    fun ids ids' more => ?_⟩
  · split
    · rename_i hnil
      rw [hnil]
      exact Root.start_eq_ok.mpr ⟨hid, rfl⟩
    · rename_i hne
      exact hload hne
  · rw [and_behind hid, given_eq hid]

/-- An amount is added to a counter that has been reset, in a scenario and on the counter that is
loaded; no amount is refused. -/
theorem when_agrees_counter :
    let ids : Nat → Uuid := fun _ => .nil
    let R := Repository.onMemory .json (Office.caching true)
    let t : SnapshotMemory String := .empty .always
    let events : List CounterEvent := [.valueAdded 5, .reset]
    ∃ scenario m root,
      Scenario.given counter ids "c" events = .ok scenario ∧
      Seeding.seed R.store counter ids .epoch "c" events (Memory.empty, t) = (.ok (), (m, t)) ∧
      (R.load counter "c" (m, t)).1 = .ok root ∧
      (scenario.when ids (Counter.add 3)).result = .ok [CounterEvent.valueAdded 3] ∧
      (scenario.when ids (Counter.add 3)).root.state =
        (root.acted (.change (.execute (fun _ => ⟨.nil, .epoch⟩) (Counter.add 3)))).state ∧
      (scenario.when ids (Counter.add 0)).result = .error (amountPositive 0).violation := by
  intro ids R t events
  obtain ⟨scenario, m, root, hgiven, hseed, hload, -, hwhen, -⟩ := when_agrees counter rfl .json
    CounterEvent.restores "c" rfl true .always ids ids .epoch events
  obtain ⟨hadded, -, hroot, -⟩ := hwhen (Counter.add 3) ids fun _ => ⟨.nil, .epoch⟩
  obtain ⟨hrefused, -⟩ := hwhen (Counter.add 0) ids fun _ => ⟨.nil, .epoch⟩
  exact ⟨scenario, m, root, hgiven, hseed, hload, hadded.trans rfl,
    (congrArg Root.state hroot).trans rfl, hrefused.trans rfl⟩

end Scenario

end EventSourcing
