import EventSourcing.Proofs.Clients.Authoring
import EventSourcing.Proofs.Repository.Untouched

/-!
# What seeding writes

Seeding has a writer of its own: it counts versions, encodes events and makes up the record.  A root
that is as the store has the aggregate would write the same when new events are recorded on it and
it is saved.  The events differ only in what tells who has made them, their identifiers and their
originator.

## Main Definitions

* `NewEvent.anonymous` — an event without what tells who has made it.
* `Root.Current` — a root that is as the store has the aggregate.
* `Memory.extended` — a store with a batch behind a history.

## Main Statements

* `Seeding.encodedFrom_newEvents` — both writers make the same batch, or fail on the same event.
* `Root.Current.seed` — what seeding does.
* `Root.Current.save_applyAll` — what saving new events does.
-/

namespace EventSourcing

attribute [local instance] Counting.exact

variable {Id : Type} {A : Aggregate Id} {codec : Codec}

/-! ### Batches -/

/-- The event without what tells who has made it. -/
def NewEvent.anonymous (e : NewEvent) : NewEvent :=
  { e with id := .nil, originator := .unknown }

/-- A failure of seeding as a failure of saving. -/
def Seeding.SeedError.asSave (kind : String) (id : Id) : Seeding.SeedError → SaveError Id
  | .codec kind reason => .codec kind reason
  | .save e => .ofStore kind id e

theorem NewEvent.length_of_anonymous {batch batch' : List NewEvent}
    (h : batch.map anonymous = batch'.map anonymous) : batch.length = batch'.length := by
  have hlength := congrArg List.length h
  rwa [List.length_map, List.length_map] at hlength

theorem Root.newEvents_cons (root : Root A) (stamps : Nat → Stamp) (payload : A.Event)
    (rest : List A.Event) :
    root.newEvents stamps (payload :: rest) =
      .new (stamps 0) root.id root.originator payload ::
        root.newEvents (fun i => stamps (i + 1)) rest :=
  List.mapIdx_cons

namespace Seeding

/-- **Both writers make the same batch, or fail on the same event**, if their clocks show the same
time. -/
theorem encodedFrom_newEvents (codec : Codec) (root : Root A) (kind : String) (id : Id)
    {now : Instant} {stamps : Nat → Stamp} (hstamps : ∀ i, (stamps i).time = now)
    (ids : Nat → Uuid) (version : Nat) (events : List A.Event) :
    (∃ batch batch', encodedFrom A codec now ids version events = .ok batch ∧
      EventSourcing.encodedFrom A codec version
        (Envelope.committedFrom version (root.newEvents stamps events)) = .ok batch' ∧
      batch.map NewEvent.anonymous = batch'.map NewEvent.anonymous) ∨
    ∃ e, encodedFrom A codec now ids version events = .error e ∧
      EventSourcing.encodedFrom A codec version
        (Envelope.committedFrom version (root.newEvents stamps events)) =
        .error (e.asSave kind id) := by
  induction events generalizing stamps ids version with
  | nil => exact .inl ⟨[], [], rfl, rfl, rfl⟩
  | cons e rest ih =>
    rw [encodedFrom, Root.newEvents_cons, Envelope.committedFrom, EventSourcing.encodedFrom]
    simp only [Envelope.committed, Envelope.new, hstamps]
    cases A.events.encode codec e with
    | error reason => exact .inr ⟨_, rfl, rfl⟩
    | ok data =>
      rcases ih (fun i => hstamps (i + 1)) (fun i => ids (i + 1)) (plus version 1) with
        ⟨batch, batch', hbatch, hbatch', hsame⟩ | ⟨failure, hbatch, hbatch'⟩
      · refine .inl ⟨_, _, by simp only [hbatch]; rfl, by simp only [hbatch']; rfl, ?_⟩
        rw [List.map_cons, List.map_cons, hsame]
        rfl
      · exact .inr ⟨failure, by simp only [hbatch]; rfl, by simp only [hbatch']; rfl⟩

/-- What is stored of seeded events is read as these events. -/
theorem decoded_encodedFrom (hcodec : A.events.RoundTrips codec) {now : Instant}
    {ids : Nat → Uuid} {version : Nat} {events : List A.Event} {batch : List NewEvent}
    (h : encodedFrom A codec now ids version events = .ok batch) (kind : String) (id : Id) :
    (batch.map (NewEvent.stored kind id)).mapM (fun e => A.events.decode codec e.kind e.data) =
      .ok events := by
  induction events generalizing ids version batch with
  | nil =>
    cases h
    rfl
  | cons e rest ih =>
    rw [encodedFrom] at h
    split at h
    · cases h
    · rename_i data hdata
      obtain ⟨batch', hbatch, h⟩ := bind_eq_ok.mp h
      cases h
      exact mapM_cons_eq_ok.mpr ⟨e, hcodec e data hdata, rest, ih hbatch, rfl⟩

/-- A batch can be made exactly if each event can be encoded. -/
theorem exists_encodedFrom (now : Instant) (ids : Nat → Uuid) (version : Nat)
    (events : List A.Event) :
    (∃ batch, encodedFrom A codec now ids version events = .ok batch) ↔
      ∀ e ∈ events, ∃ data, A.events.encode codec e = .ok data := by
  induction events generalizing ids version with
  | nil => exact ⟨fun _ => nofun, fun _ => ⟨[], rfl⟩⟩
  | cons e rest ih =>
    rw [encodedFrom, List.forall_mem_cons, ← ih (fun i => ids (i + 1)) (plus version 1)]
    cases A.events.encode codec e with
    | error reason =>
      constructor
      · rintro ⟨batch, hbatch⟩
        cases hbatch
      · rintro ⟨⟨data, hdata⟩, -⟩
        cases hdata
    | ok data =>
      constructor
      · rintro ⟨batch, hbatch⟩
        obtain ⟨batch', hbatch', -⟩ := bind_eq_ok.mp hbatch
        exact ⟨⟨data, rfl⟩, batch', hbatch'⟩
      · rintro ⟨-, batch', hbatch'⟩
        exact ⟨_, bind_eq_ok.mpr ⟨batch', hbatch', rfl⟩⟩

/-- **The first event that cannot be encoded** is the one that is named. -/
theorem encodedFrom_of_refused {front : List A.Event} {e : A.Event} {reason : String}
    (now : Instant) (ids : Nat → Uuid) (version : Nat)
    (hfront : ∀ e' ∈ front, ∃ data, A.events.encode codec e' = .ok data)
    (he : A.events.encode codec e = .error reason) (rest : List A.Event) :
    encodedFrom A codec now ids version (front ++ e :: rest) =
      .error (.codec (A.events.kind e) reason) := by
  induction front generalizing ids version with
  | nil => rw [List.nil_append, encodedFrom, he]
  | cons first front ih =>
    obtain ⟨⟨data, hdata⟩, hfront⟩ := List.forall_mem_cons.mp hfront
    have hrest := ih (fun i => ids (i + 1)) (plus version 1) hfront
    rw [List.cons_append, encodedFrom, hdata, hrest]
    rfl

/-- The versions of a batch leave no gap. -/
theorem gap?_encodedFrom {now : Instant} {ids : Nat → Uuid} {version : Nat}
    {events : List A.Event} {batch : List NewEvent}
    (h : encodedFrom A codec now ids version events = .ok batch) :
    Memory.gap? version batch = none := by
  induction events generalizing ids version batch with
  | nil =>
    cases h
    rfl
  | cons e rest ih =>
    rw [encodedFrom] at h
    split at h
    · cases h
    · obtain ⟨batch', hbatch, h⟩ := bind_eq_ok.mp h
      cases h
      rw [Memory.gap?, if_pos rfl]
      exact ih hbatch

end Seeding

/-! ### Roots -/

namespace Root

/-- What is recorded leaves the record alone. -/
@[simp] theorem recordAt_recordAll (version : Nat) (es : List (Envelope Id A.Event))
    (root : Root A) : (root.recordAll es).recordAt version = root.recordAt version := by
  induction es generalizing root with
  | nil => rfl
  | cons e rest ih => exact ih (root.record e)

variable [Identifier Id]

/-- A root that is as the store has the aggregate: nothing is pending, and its record is the one
that is there or, if there is none, that of an aggregate without events. -/
structure Current (root : Root A) (m : Memory Id) : Prop where
  identified : Identifier.isEmpty root.id = false
  pending : root.pending = []
  record :
    (∃ stream, m.slot? A.kind root.id = some (.live stream) ∧
      stream.record = root.recordAt root.version) ∨
    m.slot? A.kind root.id = none ∧ root.recordAt root.version = ⟨root.id, 0, none, false, none⟩

/-- A root is current if it has just been loaded. -/
theorem current_loaded {m : Memory Id} {id : Id} {history : List (StoredEvent Id)}
    (hkeeps : m.Keeps A.kind id history) {snapshot : Nat → Option (Snapshot A.State)}
    {root : Root A} (h : m.loaded codec A id snapshot = .ok root) :
    root.id = id ∧ root.Current m := by
  obtain ⟨hrecord, hpending⟩ := Memory.recordAt_of_loaded h
  obtain ⟨record, hrecord', hid, hidentified, -⟩ := Memory.loaded_eq_ok h
  obtain ⟨stream, hslot, hstream⟩ := Memory.recordOf_eq_ok.mp hrecord
  have haggregate : root.id = id := (hkeeps.of_record hrecord).2.aggregate
  rw [← hid] at hidentified
  rw [← haggregate] at hslot
  exact ⟨haggregate, hidentified, hpending, .inl ⟨stream, hslot, hstream⟩⟩

/-- So is a new root if there is no aggregate. -/
theorem current_created {m : Memory Id} {id : Id} {root : Root A}
    (hslot : m.slot? A.kind id = none) (h : Repository.create A id = .ok root) :
    root.id = id ∧ root.Current m := by
  obtain ⟨hidentified, rfl⟩ := start_eq_ok.mp h
  exact ⟨rfl, hidentified, rfl, .inr ⟨hslot, rfl⟩⟩

end Root

/-! ### Stores -/

variable [Identifier Id]

/-- The store with a record of an aggregate and a batch behind its history.  Without any event there
is nothing to keep. -/
def Memory.extended (kind : String) (record : Record Id) (batch : List NewEvent) (m : Memory Id) :
    Memory Id :=
  if record.version = 0 then m
  else
    m.setSlot kind record.aggregate (.live ⟨record, m.loadEvents kind record.aggregate .all ++
      batch.map (NewEvent.stored kind record.aggregate)⟩)

/-- The record is there, if there are events. -/
theorem Memory.recordOf_extended (A : Aggregate Id) (record : Record Id) (batch : List NewEvent)
    (m : Memory Id) (hversion : record.version ≠ 0) :
    (m.extended A.kind record batch).recordOf A record.aggregate = .ok record := by
  rw [extended, if_neg hversion]
  exact recordOf_eq_ok.mpr ⟨_, by rw [slot?_setSlot_self], rfl⟩

namespace Root.Current

variable {root : Root A} {m : Memory Id} {history : List (StoredEvent Id)}

/-- The store accepts a batch that follows the root. -/
theorem save (h : root.Current m) (hkeeps : m.Keeps A.kind root.id history)
    {batch : List NewEvent} (hgap : Memory.gap? root.version batch = none) :
    m.save A.kind (root.recordAt (plus root.version batch.length)) root.version batch =
      (.ok (plus root.version batch.length),
        m.extended A.kind (root.recordAt (plus root.version batch.length)) batch) := by
  rcases h.record with ⟨stream, hslot, hrecord⟩ | ⟨hslot, hrecord⟩
  · have hversion : stream.record.version = root.version := congrArg Record.version hrecord
    have hstream := (hkeeps.of_live hslot).2
    have hpos : plus root.version batch.length ≠ 0 := by
      rw [Counting.plus_exact]
      have hlength := hstream.version
      have hnonempty := hstream.nonempty
      omega
    have hall : m.loadEvents A.kind root.id .all = stream.events := by
      rw [Memory.loadEvents_of_live hslot]
      simp
    have haggregate : (root.recordAt (plus root.version batch.length)).aggregate = root.id := rfl
    rw [← haggregate] at hslot
    rw [Memory.save_of_live hslot hgap rfl, if_pos hversion, Memory.extended]
    simp only [recordAt, hpos, if_false, hall]
  · have hversion : root.version = 0 := congrArg Record.version hrecord
    have hall : m.loadEvents A.kind root.id .all = [] := by
      rw [Memory.loadEvents, Memory.stream?, hslot]
    rw [hversion] at hgap ⊢
    simp only [Memory.save, Memory.extended, recordAt, hgap, hslot, hall, ne_eq, not_true_eq_false,
      if_false, Counting.plus_exact, Nat.zero_add, List.length_eq_zero_iff, List.nil_append]
    by_cases hbatch : batch = []
    · rw [if_pos hbatch, if_pos hbatch]
    · rw [if_neg hbatch, if_neg hbatch]

/-- Seeding would save what the root would, but for the events. -/
theorem seedBatch (h : root.Current m) (ids : Nat → Uuid) (now : Instant)
    (events : List A.Event) :
    m.seedBatch codec A ids now root.id events =
      (Seeding.encodedFrom A codec now ids root.version events).map fun batch =>
        (root.recordAt (plus root.version batch.length), root.version, batch) := by
  have hbehind (current : Option (Record Id))
      (hversion : Seeding.versionOf current = root.version)
      (hrecord : ∀ version, Seeding.recordBehind root.id current version = root.recordAt version) :
      (do
        let batch ← Seeding.encodedFrom A codec now ids (Seeding.versionOf current) events
        return (Seeding.recordBehind root.id current
          (plus (Seeding.versionOf current) batch.length),
          Seeding.versionOf current, batch)) =
        (Seeding.encodedFrom A codec now ids root.version events).map fun batch =>
          (root.recordAt (plus root.version batch.length), root.version, batch) := by
    simp only [hversion, hrecord]
    cases Seeding.encodedFrom A codec now ids root.version events <;> rfl
  rcases h.record with ⟨stream, hslot, hrecord⟩ | ⟨hslot, hrecord⟩
  · have hget : m.get A.kind root.id = .found (root.recordAt root.version) := by
      rw [Memory.get, hslot, ← hrecord]
    rw [Memory.seedBatch, hget]
    exact hbehind (some (root.recordAt root.version)) rfl fun version => rfl
  · have hget : m.get A.kind root.id = .notFound := by rw [Memory.get, hslot]
    simp only [recordAt, Record.mk.injEq, true_and] at hrecord
    obtain ⟨hversion, htenant, hdeleted, hdeletedAt⟩ := hrecord
    rw [Memory.seedBatch, hget]
    refine hbehind none hversion.symm fun version => ?_
    rw [recordAt, htenant, hdeleted, hdeletedAt]
    rfl

/-- **Seeding puts a batch behind the history**, if each event can be encoded. -/
theorem seed {τ : Type} (h : root.Current m) (hkeeps : m.Keeps A.kind root.id history)
    (ids : Nat → Uuid) (now : Instant) (events : List A.Event) (t : τ) :
    Seeding.seed (Memory.backend Id codec) A ids now root.id events (m, t) =
      match Seeding.encodedFrom A codec now ids root.version events with
      | .error e => (.error e, (m, t))
      | .ok batch =>
        (.ok (),
          (m.extended A.kind (root.recordAt (plus root.version batch.length)) batch, t)) := by
  rw [Seeding.seed_memory, h.seedBatch]
  cases hbatch : Seeding.encodedFrom A codec now ids root.version events with
  | error e => rfl
  | ok batch =>
    have hsave := h.save hkeeps (Seeding.gap?_encodedFrom hbatch)
    simp only [Except.map, hsave]

/-- What a save of new events hands to the store. -/
theorem prepared_applyAll (h : root.Current m) (codec : Codec) (stamps : Nat → Stamp)
    (events : List A.Event) :
    (root.applyAll stamps events).prepared codec none =
      (encodedFrom A codec root.version
        (Envelope.committedFrom root.version (root.newEvents stamps events))).map fun batch =>
          (Envelope.committedFrom root.version (root.newEvents stamps events), batch) := by
  have hown : root.Own root.id root.tenant :=
    ⟨rfl, h.identified, rfl, fun e he => by rw [h.pending] at he; cases he⟩
  have hchanged : root.changed (.execute stamps fun _ => .ok events) =
      .ok (root.applyAll stamps events) := rfl
  have hprepared : (root.applyAll stamps events).prepared codec none = _ :=
    prepared_of_stage (hown.changed hchanged).stage
  rwa [applyAll_eq, version_recordAll, pending_recordAll, h.pending, List.nil_append,
    ← applyAll_eq] at hprepared

/-- **Saving new events puts a batch behind the history**, if each event can be encoded. -/
theorem save_applyAll {τ : Type} (h : root.Current m) (codec : Codec)
    (hkeeps : m.Keeps A.kind root.id history) (stamps : Nat → Stamp) (events : List A.Event)
    (snapshots : Option (SnapshotBackend τ Id)) (t : τ) :
    let saved :=
      (Repository.onMemory codec snapshots).save (root.applyAll stamps events) none (m, t)
    match encodedFrom A codec root.version
      (Envelope.committedFrom root.version (root.newEvents stamps events)) with
    | .error e => saved.1 = .error e ∧ saved.2.1 = m
    | .ok batch => (∃ answer, saved.1 = .ok answer) ∧
      saved.2.1 = m.extended A.kind (root.recordAt (plus root.version batch.length)) batch := by
  intro saved
  have hprepared : (root.applyAll stamps events).prepared codec none = _ :=
    h.prepared_applyAll codec stamps events
  cases hbatch : encodedFrom A codec root.version
      (Envelope.committedFrom root.version (root.newEvents stamps events)) with
  | error e =>
    rw [hbatch] at hprepared
    have hsaved := Repository.save_of_unprepared (m := m) snapshots t hprepared
    exact ⟨congrArg Prod.fst hsaved, congrArg (fun s => s.2.1) hsaved⟩
  | ok batch =>
    rw [hbatch] at hprepared
    have hsave : m.save A.kind ((root.applyAll stamps events).recordAt
        (plus (root.applyAll stamps events).version (Envelope.committedFrom root.version
          (root.newEvents stamps events)).length)) (root.applyAll stamps events).version batch =
        (.ok (plus root.version batch.length),
          m.extended A.kind (root.recordAt (plus root.version batch.length)) batch) := by
      rw [applyAll_eq, recordAt_recordAll, version_recordAll, ← length_encodedFrom hbatch]
      exact h.save hkeeps (EventSourcing.gap?_encodedFrom hbatch)
    have hsaved := Repository.save_of_accepted snapshots t hprepared hsave
    exact ⟨⟨_, congrArg Prod.fst hsaved⟩, congrArg (fun s => s.2.1) hsaved⟩

end Root.Current

end EventSourcing
