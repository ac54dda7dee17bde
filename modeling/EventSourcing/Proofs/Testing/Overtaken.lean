import EventSourcing.Proofs.Store.Reachable
import EventSourcing.Proofs.Testing.Authored

/-!
# Seeding is authoring

What is seeded into a store is what a client would have saved that had loaded the aggregate and had
recorded the events, and it is refused if and only if that save would be.  For the other clients it
is a save like any other: whoever holds a root of the aggregate is overtaken by it, and can no
longer save the root.

A repository knows of a root what it says of itself.  So a root is safe from being saved only as
long as it has its version from the store: one that has been committed by hand or replayed to a
later version may meet the version of a history that is not its own.

## Main Definitions

* `Holding`, `Holding.step`, `Holding.run` — a store, and a root that a client holds.
* `Holding.Lags` — a root that is behind the history by some events.

## Main Statements

* `Holding.Lags.step`, `Holding.Lags.run` — a root that is behind stays behind.
* `Seeding.seeding_is_authoring` — what seeding writes, and whom it overtakes.
* `Seeding.seed_refused_or_unnoticed` — seeding may be refused, and a root that has been committed
  by hand is not overtaken.
-/

namespace EventSourcing

attribute [local instance] Counting.exact

variable {Id : Type} [Identifier Id] {A : Aggregate Id} {codec : Codec}

/-! ### A client among others -/

/-- A store, and the root that a client holds. -/
structure Holding (A : Aggregate Id) where
  store : Memory Id
  root : Root A

namespace Holding

/-- What happens next. -/
inductive Step (A : Aggregate Id) : Type 1 where
  /-- Others do anything that may change the store. -/
  | elsewhere (operation : Operation Id)
  /-- The client works on its root. -/
  | change (change : Root.Change A)
  | record (e : Envelope Id A.Event)
  | tenant (tenant : Option String)
  | originator (originator : Originator)
  /-- The client saves its root. -/
  | save {τ : Type} (codec : Codec) (snapshots : Option (SnapshotBackend τ Id)) (t : τ)
      (expected : Option Nat)

/-- The store and the root behind a step. -/
def step (w : Holding A) : Step A → Holding A
  | .elsewhere operation => { w with store := w.store.run operation }
  | .change change => { w with root := (Root.InPlace.change change w.root).2 }
  | .record e => { w with root := w.root.record e }
  | .tenant tenant => { w with root := { w.root with tenant := tenant } }
  | .originator originator => { w with root := { w.root with originator := originator } }
  | .save codec snapshots t expected =>
    let (_, root, m, _) :=
      (Repository.onMemory codec snapshots).saveInPlace expected (w.root, w.store, t)
    ⟨m, root⟩

/-- The store and the root behind steps. -/
def run (w : Holding A) (steps : List (Step A)) : Holding A := steps.foldl step w

/-- The root is one of the aggregate, and behind its history by so many events at least. -/
structure Lags (id : Id) (lead : Nat) (w : Holding A) : Prop where
  aggregate : w.root.id = id
  behind : ∃ history, w.store.Keeps A.kind id history ∧
    w.root.version + lead ≤ history.length

namespace Lags

variable {id : Id} {lead : Nat} {w : Holding A}

/-- Work on the root leaves it where it is. -/
theorem work (h : w.Lags id lead) {root : Root A} (hid : root.id = w.root.id)
    (hversion : root.version = w.root.version) : Lags id lead { w with root := root } := by
  obtain ⟨history, hkeeps, hle⟩ := h.behind
  exact ⟨hid.trans h.aggregate, history, hkeeps, by rw [hversion]; exact hle⟩

/-- Saving a root leaves it as far behind as it is: one that is behind is refused, and one that is
not moves on with the history. -/
theorem save (h : w.Lags id lead) {τ : Type} (codec : Codec)
    (snapshots : Option (SnapshotBackend τ Id)) (t : τ) (expected : Option Nat) :
    (w.step (.save codec snapshots t expected)).Lags id lead := by
  obtain ⟨rfl, history, hkeeps, hle⟩ := h
  obtain ⟨result, hcommitted, hsave⟩ := Repository.committed_save codec w.store w.root expected
  rw [step, Repository.saveInPlace_eq, hsave τ snapshots t]
  cases hcommitted with
  | unprepared | refused => exact ⟨rfl, history, hkeeps, hle⟩
  | accepted committed batch version m' hprepared hsaved =>
    have hkept : w.store.Keeps A.kind
        (w.root.recordAt (plus w.root.version committed.length)).aggregate history := hkeeps
    obtain ⟨hversion, hkeeps'⟩ := hkept.save_ok hsaved
    have hlength := length_encodedFrom (Root.prepared_eq_ok hprepared).2
    refine ⟨rfl, _, hkeeps', ?_⟩
    show w.root.version + committed.length + lead ≤ _
    rw [List.length_append, List.length_map, hlength]
    omega

variable [Identifier.Unmistakable Id]

/-- **A step leaves a root as far behind as it is.** -/
theorem step (h : w.Lags id lead) (s : Step A) : (w.step s).Lags id lead := by
  cases s with
  | elsewhere operation =>
    obtain ⟨history, hkeeps, hle⟩ := h.behind
    obtain ⟨more, hmore⟩ := hkeeps.run operation
    refine ⟨h.aggregate, history ++ more, hmore, ?_⟩
    show w.root.version + lead ≤ _
    rw [List.length_append]
    omega
  | change change =>
    rw [Holding.step, Root.InPlace.run_change]
    cases hchanged : w.root.changed change with
    | error e => exact h
    | ok root =>
      have hid := Root.changed_induct (P := fun r => r.id = w.root.id) hchanged
        (fun _ _ _ _ hr => hr) (fun _ _ _ _ hr => hr) rfl
      exact h.work hid (Root.version_changed hchanged)
  | record | tenant | originator => exact h.work rfl rfl
  | save codec snapshots t expected => exact h.save codec snapshots t expected

/-- **Steps leave a root as far behind as it is.** -/
theorem run (h : w.Lags id lead) (steps : List (Step A)) : (w.run steps).Lags id lead := by
  induction steps generalizing w with
  | nil => exact h
  | cons s steps ih => exact ih (h.step s)

omit [Identifier.Unmistakable Id] in
/-- **Seeding leaves a root behind** by the events that are seeded. -/
theorem seed (h : w.Lags id lead) {τ : Type} {ids : Nat → Uuid} {now : Instant}
    {events : List A.Event} {t t' : τ} {m' : Memory Id}
    (hseed : Seeding.seed (Memory.backend Id codec) A ids now id events (w.store, t) =
      (.ok (), (m', t'))) : Lags id (lead + events.length) { w with store := m' } := by
  obtain ⟨history, hkeeps, hle⟩ := h.behind
  obtain ⟨result, hseeded, heq⟩ := Seeding.seeded_seed codec w.store A ids now id events
  rw [heq] at hseed
  cases hseeded with
  | refused e => cases hseed
  | accepted record expected batch version m'' haggregate hlength hsave =>
    cases hseed
    subst haggregate
    refine ⟨h.aggregate, _, (hkeeps.save_ok hsave).2, ?_⟩
    rw [List.length_append, List.length_map, hlength]
    show w.root.version + _ ≤ _
    omega

omit [Identifier.Unmistakable Id] in
/-- **A root that is behind is in conflict** with what is stored. -/
theorem conflict (h : w.Lags id lead) (hlead : 0 < lead) {record : Record Id}
    (hget : w.store.get A.kind id = .found record) {committed : List (Envelope Id A.Event)}
    {batch : List NewEvent} (hstage : w.root.stage = .ok committed)
    (hbatch : encodedFrom A codec w.root.version committed = .ok batch) {τ : Type}
    (snapshots : Option (SnapshotBackend τ Id)) (t : τ) :
    w.root.version < record.version ∧
      (Repository.onMemory codec snapshots).save w.root none (w.store, t) =
        (.error (.conflict ⟨w.root.version, record.version⟩), (w.store, t)) := by
  obtain ⟨rfl, history, hkeeps, hle⟩ := h
  have hlength := hkeeps.version_of_found hget
  obtain ⟨stream, hslot, rfl⟩ := Memory.get_eq_found hget
  have hprepared : w.root.prepared codec none = .ok (committed, batch) := by
    rw [Root.prepared_of_stage hstage, hbatch]
    rfl
  have hgap : Memory.gap? w.root.version batch = none := by
    rw [Root.stage_eq_ok hstage] at hbatch
    exact gap?_encodedFrom hbatch
  have hversion : (w.root.recordAt (plus w.root.version committed.length)).version =
      w.root.version + batch.length := by
    rw [length_encodedFrom hbatch]
    rfl
  have hsave := Memory.save_of_live (show w.store.slot? A.kind
    (w.root.recordAt (plus w.root.version committed.length)).aggregate = _ from hslot) hgap hversion
  rw [if_neg (by omega)] at hsave
  exact ⟨by omega, Repository.save_of_refused snapshots t hprepared hsave⟩

end Lags

/-- A root is not ahead of the history when it has just been loaded, as it is or as it was at a
version, or created. -/
theorem lags_of_load {m : Memory Id} {id : Id} {history : List (StoredEvent Id)}
    (hkeeps : m.Keeps A.kind id history) {τ : Type} {snapshots : Option (SnapshotBackend τ Id)}
    {t : τ} {root : Root A}
    (h : ((Repository.onMemory codec snapshots).load A id (m, t)).1 = .ok root ∨
      (∃ version, ((Repository.onMemory codec snapshots).loadAt A id version (m, t)).1 = .ok root) ∨
      Repository.create A id = .ok root) : Lags id 0 ⟨m, root⟩ := by
  rcases h with h | ⟨version, h⟩ | h
  · obtain ⟨snapshot, t', -, hload⟩ := Repository.exists_load_memory codec snapshots A m t id
    rw [hload] at h
    obtain ⟨record, hrecord, hid, -, hversion, -⟩ := Memory.loaded_eq_ok h
    have hstream := (hkeeps.of_record hrecord).2
    exact ⟨hid.trans hstream.aggregate, history, hkeeps,
      Nat.le_of_eq (hversion.trans hstream.version)⟩
  · rw [Repository.loadAt_memory] at h
    obtain ⟨record, hrecord, hle, hwritten, -⟩ := Memory.recordAt_of_loadedAt hkeeps h
    have hstream := (hkeeps.of_record hrecord).2
    have hid : root.id = record.aggregate := congrArg Record.aggregate hwritten
    have hversion : root.version = version := congrArg Record.version hwritten
    exact ⟨hid.trans hstream.aggregate, history, hkeeps,
      hversion ▸ Nat.le_trans hle (Nat.le_of_eq hstream.version)⟩
  · obtain ⟨-, rfl⟩ := Root.start_eq_ok.mp h
    exact ⟨rfl, history, hkeeps, Nat.zero_le _⟩

end Holding

/-! ### Seeding and saving -/

/-- If loading says that there is no aggregate, then there is none. -/
theorem Memory.slot?_of_loaded {m : Memory Id} {id : Id}
    {snapshot : Nat → Option (Snapshot A.State)}
    (h : m.loaded codec A id snapshot = .error (.notFound A.kind id)) :
    m.slot? A.kind id = none := by
  cases hrecord : m.recordOf A id with
  | ok record => cases absence_of_loaded hrecord h
  | error e =>
    rw [loaded, hrecord] at h
    cases h
    rw [recordOf, get] at hrecord
    cases hslot : m.slot? A.kind id with
    | none => rfl
    | some slot =>
      rw [hslot] at hrecord
      cases slot <;> cases hrecord

/-- A root that has just been loaded is as the store has the aggregate; so is a new one, if there is
nothing to load. -/
theorem Root.current_of_load {m : Memory Id} {id : Id} {history : List (StoredEvent Id)}
    (hkeeps : m.Keeps A.kind id history) {τ : Type} {snapshots : Option (SnapshotBackend τ Id)}
    {t : τ} {root : Root A}
    (h : ((Repository.onMemory codec snapshots).load A id (m, t)).1 = .ok root ∨
      ((Repository.onMemory codec snapshots).load A id (m, t)).1 = .error (.notFound A.kind id) ∧
        Repository.create A id = .ok root) : root.id = id ∧ root.Current m := by
  obtain ⟨snapshot, t', -, hload⟩ := Repository.exists_load_memory codec snapshots A m t id
  rw [hload] at h
  rcases h with h | ⟨hnothing, h⟩
  · exact Root.current_loaded hkeeps h
  · exact Root.current_created (Memory.slot?_of_loaded hnothing) h

namespace Seeding

/-- **What is seeded is what a current root would save**: both fail on the first event that cannot
be encoded, or extend the history by batches that differ in who has made the events. -/
theorem seed_save {m : Memory Id} {root : Root A} {history : List (StoredEvent Id)}
    (hcurrent : root.Current m) (hkeeps : m.Keeps A.kind root.id history) {τ : Type}
    (snapshots : Option (SnapshotBackend τ Id)) (t : τ) {now : Instant} {stamps : Nat → Stamp}
    (hstamps : ∀ i, (stamps i).time = now) (ids : Nat → Uuid) (events : List A.Event) :
    let seeded := seed (Memory.backend Id codec) A ids now root.id events (m, t)
    let saved :=
      (Repository.onMemory codec snapshots).save (root.applyAll stamps events) none (m, t)
    let record := root.recordAt (root.version + events.length)
    (seeded.1 = .ok () ↔ ∀ e ∈ events, ∃ data, A.events.encode codec e = .ok data) ∧
    (∀ front e rest reason, events = front ++ e :: rest →
      (∀ e' ∈ front, ∃ data, A.events.encode codec e' = .ok data) →
      A.events.encode codec e = .error reason →
      seeded.1 = .error (.codec (A.events.kind e) reason)) ∧
    saved.1.map (fun _ => ()) = seeded.1.mapError (SeedError.asSave A.kind root.id) ∧
    (seeded.1 ≠ .ok () → seeded.2.1 = m ∧ saved.2.1 = m) ∧
    (seeded.1 = .ok () → ∃ batch batch' : List NewEvent,
      batch.map NewEvent.anonymous = batch'.map NewEvent.anonymous ∧
      seeded.2.1 = m.extended A.kind record batch ∧
      saved.2.1 = m.extended A.kind record batch') := by
  intro seeded saved record
  have hseeded : seeded = _ := hcurrent.seed hkeeps ids now events t
  have hsaved := hcurrent.save_applyAll codec hkeeps stamps events snapshots t
  have hrefused (front : List A.Event) (e : A.Event) (rest : List A.Event) (reason : String)
      (hevents : events = front ++ e :: rest)
      (hfront : ∀ e' ∈ front, ∃ data, A.events.encode codec e' = .ok data)
      (he : A.events.encode codec e = .error reason) :
      seeded.1 = .error (.codec (A.events.kind e) reason) := by
    rw [hseeded, hevents, encodedFrom_of_refused now ids root.version hfront he rest]
  rw [← exists_encodedFrom now ids root.version events]
  rcases encodedFrom_newEvents codec root A.kind root.id hstamps ids root.version events
    with ⟨batch, batch', hbatch, hbatch', hsame⟩ | ⟨e, hbatch, hbatch'⟩
  · have hlength := length_encodedFrom codec hbatch
    have hlength' := (NewEvent.length_of_anonymous hsame).symm.trans hlength
    rw [hbatch] at hseeded
    rw [hbatch'] at hsaved
    obtain ⟨⟨answer, hanswer⟩, hstore⟩ := hsaved
    simp only [hlength] at hseeded
    rw [hlength'] at hstore
    rw [hseeded]
    rw [hseeded] at hrefused
    refine ⟨⟨fun _ => ⟨batch, hbatch⟩, fun _ => rfl⟩, hrefused, ?_, fun hne => absurd rfl hne,
      fun _ => ⟨batch, batch', hsame, rfl, hstore⟩⟩
    exact (congrArg (Except.map fun _ => ()) hanswer).trans rfl
  · rw [hbatch] at hseeded
    rw [hbatch'] at hsaved
    obtain ⟨hanswer, hstore⟩ := hsaved
    rw [hseeded]
    rw [hseeded] at hrefused
    refine ⟨⟨nofun, fun ⟨batch, h⟩ => ?_⟩, hrefused, ?_, fun _ => ⟨rfl, hstore⟩, nofun⟩
    · rw [hbatch] at h
      cases h
    · exact (congrArg (Except.map fun _ => ()) hanswer).trans rfl

/-- **Seeding is authoring.**  Take any store that can be reached, any events, and a root that has
just been loaded, or created if there is nothing to load.  Seeding succeeds exactly if each event
can be encoded, and names the first one that cannot.  It has the answer of a save of the root with
the events recorded on it: both change nothing if an event cannot be encoded, and otherwise leave
the same store but for the identifiers and originators of the new events, also if there are no
events and if the aggregate is marked as deleted.  And take any root of the aggregate that has been
loaded, as it is or as it was at a version, or created: whatever its client and all others have done
since, once events have been seeded, and whatever they do then, the root is in conflict with what is
stored, as long as the aggregate is live and what is pending can be committed and encoded. -/
theorem seeding_is_authoring [Identifier.Unmistakable Id] (codec : Codec) (A : Aggregate Id)
    (id : Id) (ids : Nat → Uuid) (now : Instant) (events : List A.Event)
    (operations : List (Operation Id)) {τ : Type} (snapshots : Option (SnapshotBackend τ Id))
    (t t' : τ) (root : Root A) :
    let m := (Memory.empty : Memory Id).runAll operations
    let R := Repository.onMemory codec snapshots
    let loaded := (R.load A id (m, t)).1
    (loaded = .ok root ∨
        loaded = .error (.notFound A.kind id) ∧ Repository.create A id = .ok root →
      ∀ stamps : Nat → Stamp, (∀ i, (stamps i).time = now) →
        let seeded := seed R.store A ids now id events (m, t')
        let saved := R.save (root.applyAll stamps events) none (m, t')
        let record := root.recordAt (root.version + events.length)
        (seeded.1 = .ok () ↔ ∀ e ∈ events, ∃ data, A.events.encode codec e = .ok data) ∧
        (∀ front e rest reason, events = front ++ e :: rest →
          (∀ e' ∈ front, ∃ data, A.events.encode codec e' = .ok data) →
          A.events.encode codec e = .error reason →
          seeded.1 = .error (.codec (A.events.kind e) reason)) ∧
        saved.1.map (fun _ => ()) = seeded.1.mapError (SeedError.asSave A.kind id) ∧
        (seeded.1 ≠ .ok () → seeded.2.1 = m ∧ saved.2.1 = m) ∧
        (seeded.1 = .ok () → ∃ batch batch' : List NewEvent,
          batch.map NewEvent.anonymous = batch'.map NewEvent.anonymous ∧
          seeded.2.1 = m.extended A.kind record batch ∧
          saved.2.1 = m.extended A.kind record batch')) ∧
    (loaded = .ok root ∨ (∃ version, (R.loadAt A id version (m, t)).1 = .ok root) ∨
        Repository.create A id = .ok root →
      ∀ (earlier later : List (Holding.Step A)) (m' : Memory Id),
        let w := (Holding.mk m root).run earlier
        seed R.store A ids now id events (w.store, t') = (.ok (), (m', t')) → events ≠ [] →
        let w' := Holding.run { w with store := m' } later
        ∀ (codec' : Codec) (record : Record Id) (committed : List (Envelope Id A.Event))
          (batch : List NewEvent), w'.store.get A.kind id = .found record →
          w'.root.stage = .ok committed →
          EventSourcing.encodedFrom A codec' w'.root.version committed = .ok batch →
          w'.root.version < record.version ∧
          (Repository.onMemory codec' snapshots).save w'.root none (w'.store, t') =
            (.error (.conflict ⟨w'.root.version, record.version⟩), (w'.store, t'))) := by
  intro m R loaded
  obtain ⟨history, hkeeps⟩ := (Memory.keeps_empty A.kind id).runAll operations
  rw [List.nil_append] at hkeeps
  constructor
  · intro hroot stamps hstamps
    obtain ⟨rfl, hcurrent⟩ := Root.current_of_load hkeeps hroot
    exact seed_save hcurrent hkeeps snapshots t' hstamps ids events
  · intro hroot earlier later m' w hseed hevents w' codec' record committed batch hget hstage hbatch
    have hlags := ((Holding.lags_of_load hkeeps hroot).run earlier).seed hseed
    have hlead : 0 < 0 + events.length := by
      have hpos := List.length_pos_iff.mpr hevents
      omega
    exact (hlags.run later).conflict hlead hget hstage hbatch snapshots t'

open Sample

/-- A counter is created and seeded, and marked as deleted by another client; a root that was
created before and has been reset since is in conflict with it. -/
theorem seeding_is_authoring_counter :
    let ids : Nat → Uuid := fun _ => .nil
    let stamps : Nat → Stamp := fun _ => ⟨.nil, .epoch⟩
    let R := Repository.onMemory .json (none : Option (SnapshotBackend Unit String))
    let root : Root counter := .bare counter "c" 0 none
    let seeded := seed R.store counter ids .epoch "c" [CounterEvent.reset] (Memory.empty, ())
    let saved := R.save (root.applyAll stamps [CounterEvent.reset]) none (Memory.empty, ())
    let deletion : Holding.Step counter :=
      .elsewhere (.call (.save "counter" ⟨"c", 1, none, true, some .epoch⟩ 1 []))
    let w := (Holding.mk seeded.2.1 root).run [deletion, .change (.apply ⟨.nil, .epoch⟩ .reset)]
    seeded.1 = .ok () ∧
      saved.1.map (fun _ => ()) = .ok () ∧
      (∃ batch batch' : List NewEvent,
        batch.map NewEvent.anonymous = batch'.map NewEvent.anonymous ∧
        seeded.2.1 = Memory.empty.extended "counter" ⟨"c", 1, none, false, none⟩ batch ∧
        saved.2.1 = Memory.empty.extended "counter" ⟨"c", 1, none, false, none⟩ batch') ∧
      w.store.get "counter" "c" = .found ⟨"c", 1, none, true, some .epoch⟩ ∧
      R.save w.root none (w.store, ()) = (.error (.conflict ⟨0, 1⟩), (w.store, ())) := by
  intro ids stamps R root seeded saved deletion w
  have hseeded : seeded = (.ok (), (seeded.2.1, ())) := rfl
  have hget : w.store.get "counter" "c" = .found ⟨"c", 1, none, true, some .epoch⟩ := rfl
  obtain ⟨hauthored, hovertaken⟩ := seeding_is_authoring .json counter "c" ids .epoch
    [CounterEvent.reset] [] none () () root
  obtain ⟨-, -, hsame, -, hstores⟩ := hauthored (.inr ⟨rfl, rfl⟩) stamps fun _ => rfl
  have hstage : (root.apply ⟨.nil, .epoch⟩ CounterEvent.reset).stage =
      .ok [⟨.nil, "c", some 1, CounterEvent.reset, .epoch, .unknown⟩] := by
    simp only [root]
    rfl
  have hbatch : EventSourcing.encodedFrom counter .json w.root.version
      [⟨.nil, "c", some 1, CounterEvent.reset, .epoch, .unknown⟩] =
      .ok [⟨.nil, "reset", 1, [110, 117, 108, 108], .epoch, .unknown⟩] := rfl
  obtain ⟨-, hconflict⟩ := hovertaken (.inr (.inr rfl)) []
    [deletion, .change (.apply ⟨.nil, .epoch⟩ .reset)] seeded.2.1 hseeded nofun .json _ _ _ hget
    hstage hbatch
  exact ⟨rfl, hsame, hstores rfl, hget, hconflict⟩

/-- Seeding is refused if an event cannot be encoded, though there is nothing but an aggregate to be
created.  And a new root on which an event is recorded and committed by hand is saved, though an
event has been seeded since: it has met the version of a history that is not its own. -/
theorem seed_refused_or_unnoticed :
    let ids : Nat → Uuid := fun _ => .nil
    let R (codec : Codec) := Repository.onMemory codec (none : Option (SnapshotBackend Unit String))
    let root : Root counter := .bare counter "c" 0 none
    let seeded (codec : Codec) :=
      seed (R codec).store counter ids .epoch "c" [CounterEvent.reset] (Memory.empty, ())
    ((R (.failing "refused")).load counter "c" (Memory.empty, ())).1 =
        .error (.notFound "counter" "c") ∧
      (seeded (.failing "refused")).1 = .error (.codec "reset" "refused") ∧
      Repository.create counter "c" = .ok root ∧
      (seeded .json).1 = .ok () ∧
      ∃ committed flushed,
        (root.apply ⟨.nil, .epoch⟩ CounterEvent.reset).flush = .ok (committed, flushed) ∧
        (seeded .json).2.1.get "counter" "c" = .found ⟨"c", 1, none, false, none⟩ ∧
        ((R .json).save flushed none ((seeded .json).2.1, ())).1 = .ok ([], flushed) :=
  ⟨rfl, rfl, rfl, rfl, _, _, rfl, rfl, rfl⟩

end Seeding

end EventSourcing
