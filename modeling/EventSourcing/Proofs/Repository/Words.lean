import EventSourcing.Proofs.Repository.Replay
import EventSourcing.Proofs.Repository.Save
import EventSourcing.Proofs.Store.Acceptance
import EventSourcing.Proofs.Testing.Seeding

/-!
# Counting in words

A program counts versions in words, and behind the greatest one comes zero.  A history that is told
with numbers that have no end is that of the program as long as no version passes the greatest one:
then whatever is committed, replayed, saved, loaded and seeded is the same, with either way of
counting.

## Main Definitions

* `Memory.Within` — an aggregate whose history does not reach the greatest version.

## Main Statements

* `Root.stage_words`, `Root.rehydrate_words` — committing and replaying.
* `Memory.save_words` — saving a batch.
* `Repository.saveInPlace_words`, `Repository.load_words`, `Repository.loadAt_words` — repositories.
* `Seeding.seed_words`, `Seeding.seedRaw_words` — seeding.
-/

namespace EventSourcing

variable {Id : Type} {A : Aggregate Id}

/-! ### Roots -/

namespace Envelope

theorem committedFrom_words {Event : Type} {version : Nat} {es : List (Envelope Id Event)}
    (h : version + es.length ≤ Version.max) :
    @committedFrom Id Event .words version es = @committedFrom Id Event .exact version es := by
  induction es generalizing version with
  | nil => rfl
  | cons e rest ih =>
    obtain ⟨hnext, hrest⟩ := Counting.words_step h
    unfold committedFrom
    rw [hnext, ih hrest]

end Envelope

/-- The batch of events is the same. -/
theorem encodedFrom_words {codec : Codec} {version : Nat} {es : List (Envelope Id A.Event)}
    (h : version + es.length ≤ Version.max) :
    @encodedFrom .words Id A codec version es = @encodedFrom .exact Id A codec version es := by
  induction es generalizing version with
  | nil => rfl
  | cons e rest ih =>
    obtain ⟨hnext, hrest⟩ := Counting.words_step h
    unfold encodedFrom
    rw [hnext, ih hrest]

namespace Root

variable [Identifier Id]

theorem stage_words {root : Root A} (h : root.version + root.pending.length ≤ Version.max) :
    @stage Id A .words _ root = @stage Id A .exact _ root := by
  unfold stage
  rw [Envelope.committedFrom_words h]

omit [Identifier Id] in
theorem complete_words {root : Root A} {committed : List (Envelope Id A.Event)}
    (h : root.version + committed.length ≤ Version.max) :
    @complete Id A .words committed root = @complete Id A .exact committed root := by
  unfold complete
  rw [Counting.words_of_le h]

theorem prepared_words {codec : Codec} {expected : Option Nat} {root : Root A}
    (h : root.version + root.pending.length ≤ Version.max) :
    @prepared .words Id _ A codec expected root = @prepared .exact Id _ A codec expected root := by
  unfold prepared
  rw [stage_words h]
  cases hstage : @stage Id A .exact _ root with
  | error fault => rfl
  | ok committed =>
    have hlength : committed.length = root.pending.length := by
      rw [@stage_eq_ok _ _ _ .exact _ _ hstage, @Envelope.length_committedFrom _ _ .exact]
    have hbatch : @encodedFrom .words Id A codec root.version committed =
        @encodedFrom .exact Id A codec root.version committed := encodedFrom_words (hlength ▸ h)
    by_cases hpresented : expected.getD root.version = root.version
    · simp only [ne_eq, hpresented, not_true_eq_false, if_false]
      exact congrArg (fun encoded : Except (SaveError Id) (List NewEvent) => do
        let batch ← encoded
        return (committed, batch)) hbatch
    · simp only [ne_eq, hpresented, not_false_eq_true, if_true]
      rfl

/-- What follows a version below the greatest one is found in order alike. -/
theorem replayFault?_words {id : Id} {version : Nat} {history : List (Envelope Id A.Event)}
    (hversion : version < Version.max) (h : ∀ e ∈ history, e.version ≠ some Version.max) :
    @replayFault? Id A .words _ id version history =
      @replayFault? Id A .exact _ id version history := by
  induction history generalizing version with
  | nil => rfl
  | cons e rest ih =>
    obtain ⟨he, hrest⟩ := List.forall_mem_cons.mp h
    have hbound : version + 1 ≤ Version.max := hversion
    have hnext := Counting.words_of_le hbound
    unfold replayFault?
    rw [hnext]
    by_cases hfollows : e.version = some (Counting.exact.plus version 1)
    · have hbelow : Counting.exact.plus version 1 < Version.max := by
        refine Nat.lt_of_le_of_ne (Nat.succ_le_of_lt hversion) fun heq => he ?_
        rw [hfollows, heq]
      rw [ih hbelow hrest]
    · simp only [ne_eq, hfollows, not_false_eq_true, if_true]

/-- A history in order leads to a version that its last event has. -/
theorem lt_of_replayFault? {id : Id} {version : Nat} {history : List (Envelope Id A.Event)}
    (hversion : version < Version.max) (h : ∀ e ∈ history, e.version ≠ some Version.max)
    (hfault : @replayFault? Id A .exact _ id version history = none) :
    version + history.length < Version.max := by
  induction history generalizing version with
  | nil => exact hversion
  | cons e rest ih =>
    obtain ⟨he, hrest⟩ := List.forall_mem_cons.mp h
    unfold replayFault? at hfault
    split at hfault
    · cases hfault
    · split at hfault
      · cases hfault
      · next hfollows =>
        have hnext : e.version = some (version + 1) := Classical.not_not.mp hfollows
        have hbelow : version + 1 < Version.max :=
          Nat.lt_of_le_of_ne hversion fun heq => he (by rw [hnext, heq])
        have hlast := ih hbelow hrest hfault
        rw [List.length_cons]
        omega

/-- **A history is replayed alike** on a root below the greatest version, if no event is at it. -/
theorem rehydrate_words {root : Root A} {history : List (Envelope Id A.Event)}
    (hversion : root.version < Version.max) (h : ∀ e ∈ history, e.version ≠ some Version.max) :
    @rehydrate Id A .words _ history root = @rehydrate Id A .exact _ history root := by
  rw [@rehydrate_eq _ _ .words, @rehydrate_eq _ _ .exact, replayFault?_words hversion h]
  cases hfault : @replayFault? Id A .exact _ root.id root.version history with
  | some fault => rfl
  | none =>
    have hlast := Nat.le_of_lt (lt_of_replayFault? hversion h hfault)
    have hreplayed : @replayed Id A .words history root = @replayed Id A .exact history root := by
      unfold replayed
      rw [Counting.words_of_le hlast]
    simp only [hreplayed]

end Root

/-! ### Stores -/

namespace Memory

variable [Identifier Id]

theorem gap?_words {version : Nat} {events : List NewEvent}
    (h : version + events.length ≤ Version.max) :
    @gap? .words version events = @gap? .exact version events := by
  induction events generalizing version with
  | nil => rfl
  | cons e rest ih =>
    obtain ⟨hnext, hrest⟩ := Counting.words_step h
    unfold gap?
    rw [hnext, ih hrest]

/-- **A batch that does not pass the greatest version is saved alike.** -/
theorem save_words (kind : String) (record : Record Id) {expected : Nat} {events : List NewEvent}
    (h : expected + events.length ≤ Version.max) (m : Memory Id) :
    @save Id _ .words kind record expected events m =
      @save Id _ .exact kind record expected events m := by
  unfold save
  rw [gap?_words h, Counting.words_of_le h]

/-- No history of a store reaches the greatest version. -/
def Within (m : Memory Id) : Prop :=
  ∀ kind id stream, m.slot? kind id = some (.live stream) →
    stream.record.version < Version.max ∧ ∀ e ∈ stream.events, e.version ≠ Version.max

variable {m : Memory Id} {codec : Codec} {id : Id}

theorem Within.record (h : m.Within) {record : Record Id}
    (hrecord : m.recordOf A id = .ok record) : record.version < Version.max := by
  obtain ⟨stream, hslot, rfl⟩ := recordOf_eq_ok.mp hrecord
  exact (h A.kind id stream hslot).1

/-- Events that are read are as far from the greatest version as the stored ones. -/
theorem Within.decoded (h : m.Within) {window : Window} {history : List (Envelope Id A.Event)}
    (hdecoded : m.decoded codec A id window = .ok history) :
    ∀ e ∈ history, e.version ≠ some Version.max := by
  intro e he hversion
  obtain ⟨stored, hstored, henvelope⟩ := exists_of_mem_mapM (mapError_eq_ok.mp hdecoded) he
  obtain ⟨-, hcommitted, -⟩ := StoredEvent.envelope_eq_ok henvelope
  rw [loadEvents] at hstored
  split at hstored
  · next stream hstream =>
    have hmem := (List.mem_filter.mp hstored).1
    refine (h A.kind id stream (stream?_eq_some.mp hstream)).2 stored hmem ?_
    exact Option.some.inj (hcommitted.symm.trans hversion)
  · cases hstored

theorem replayed_words (h : m.Within) {root : Root A} (hversion : root.version < Version.max)
    (record : Record Id) :
    @replayed .words Id _ codec A root record m = @replayed .exact Id _ codec A root record m := by
  unfold replayed
  refine bind_congr_of_ok fun history hdecoded => ?_
  rw [Root.rehydrate_words hversion (h.decoded hdecoded)]

/-- Loading, whatever snapshot is used that is not ahead of the record. -/
theorem loaded_words (h : m.Within) {snapshot : Nat → Option (Snapshot A.State)}
    (hsnapshot : ∀ version s, snapshot version = some s → s.version ≤ version) :
    @loaded .words Id _ codec A id snapshot m = @loaded .exact Id _ codec A id snapshot m := by
  refine bind_congr_of_ok fun record hrecord => bind_congr_of_ok fun root hbase => ?_
  obtain ⟨-, -, -, -, hbegins⟩ := base_eq_ok hbase
  refine replayed_words h ?_ record
  refine Nat.lt_of_le_of_lt ?_ (h.record hrecord)
  rw [hbegins]
  cases hused : snapshot record.version with
  | none => exact Nat.zero_le _
  | some s => exact hsnapshot record.version s hused

theorem loadedAt_words (h : m.Within) (version : Nat) :
    @loadedAt .words Id _ codec A id version m = @loadedAt .exact Id _ codec A id version m := by
  refine bind_congr_of_ok fun record hrecord => ?_
  by_cases hlater : record.version < version
  · simp only [hlater, if_true]
    rfl
  simp only [hlater, if_false]
  refine bind_congr_of_ok fun root hshell => bind_congr_of_ok fun history hdecoded => ?_
  have hversion : root.version < Version.max := by
    obtain ⟨rfl, -⟩ := shell_eq_ok hshell
    exact Nat.lt_of_le_of_lt (Nat.zero_le _) (h.record hrecord)
  rw [Root.rehydrate_words hversion (h.decoded hdecoded)]

end Memory

/-! ### Repositories -/

namespace Repository

variable [Identifier Id] {τ : Type} (codec : Codec) (snapshots : Option (SnapshotBackend τ Id))
  {m : Memory Id} (t : τ)

theorem commitInPlace_words {root : Root A} (h : root.version + root.pending.length ≤ Version.max)
    (expected : Option Nat) :
    @commitInPlace .words _ _ _ _ (@onMemory .words τ Id _ codec snapshots) A expected
        (root, m, t) =
      @commitInPlace .exact _ _ _ _ (@onMemory .exact τ Id _ codec snapshots) A expected
        (root, m, t) := by
  rw [@run_commitInPlace .words, @run_commitInPlace .exact]
  have hcodec (c : Counting) : (@onMemory c τ Id _ codec snapshots).store.codec m = codec := rfl
  have hcall (c : Counting) (kind : String) (record : Record Id) (expected : Nat)
      (batch : List NewEvent) :
      (@onMemory c τ Id _ codec snapshots).store.save kind record expected batch m =
        @Memory.save Id _ c kind record expected batch m := rfl
  simp only [hcodec, hcall, Root.prepared_words h]
  cases hprepared : @Root.prepared .exact Id _ A codec expected root with
  | error e => rfl
  | ok prepared =>
    obtain ⟨committed, batch⟩ := prepared
    obtain ⟨hcommitted, hbatch⟩ := @Root.prepared_eq_ok _ _ _ _ .exact _ _ _ _ hprepared
    have hlength : root.version + committed.length ≤ Version.max := by
      rw [hcommitted, @Envelope.length_committedFrom _ _ .exact]
      exact h
    have hlength' : root.version + batch.length ≤ Version.max := by
      rw [@length_encodedFrom _ _ _ .exact _ _ _ hbatch]
      exact hlength
    simp only [Counting.words_of_le hlength, Memory.save_words _ _ hlength',
      Root.complete_words hlength]

/-- **A root is saved alike** if its pending events do not pass the greatest version. -/
theorem saveInPlace_words {root : Root A} (h : root.version + root.pending.length ≤ Version.max)
    (expected : Option Nat) :
    @saveInPlace .words _ _ _ _ (@onMemory .words τ Id _ codec snapshots) A expected
        (root, m, t) =
      @saveInPlace .exact _ _ _ _ (@onMemory .exact τ Id _ codec snapshots) A expected
        (root, m, t) := by
  rw [@run_saveInPlace .words, @run_saveInPlace .exact, commitInPlace_words codec snapshots t h]
  rfl

/-- **An aggregate is loaded alike** if no history in the store reaches the greatest version. -/
theorem load_words (h : m.Within) (A : Aggregate Id) (id : Id) :
    @load .words _ _ _ _ (@onMemory .words τ Id _ codec snapshots) A id (m, t) =
      @load .exact _ _ _ _ (@onMemory .exact τ Id _ codec snapshots) A id (m, t) := by
  cases hrecord : m.recordOf A id with
  | error e =>
    exact (@load_of_no_record _ _ _ .words codec snapshots A m t id e hrecord).trans
      (@load_of_no_record _ _ _ .exact codec snapshots A m t id e hrecord).symm
  | ok record =>
    obtain ⟨snapshot, t', hsnapshot, hload⟩ := exists_load_of_record codec snapshots A t id
    rw [@hload .words m record hrecord, @hload .exact m record hrecord,
      Memory.loaded_words h hsnapshot]

theorem loadAt_words (h : m.Within) (A : Aggregate Id) (id : Id) (version : Nat) :
    @loadAt .words _ _ _ _ (@onMemory .words τ Id _ codec snapshots) A id version (m, t) =
      @loadAt .exact _ _ _ _ (@onMemory .exact τ Id _ codec snapshots) A id version (m, t) := by
  rw [@loadAt_memory .words, @loadAt_memory .exact, Memory.loadedAt_words h]

end Repository

/-! ### Seeding -/

namespace Seeding

variable {codec : Codec}

theorem encodedFrom_words {now : Instant} {ids : Nat → Uuid} {version : Nat}
    {events : List A.Event} (h : version + events.length ≤ Version.max) :
    @encodedFrom .words Id A codec now ids version events =
      @encodedFrom .exact Id A codec now ids version events := by
  induction events generalizing ids version with
  | nil => rfl
  | cons e rest ih =>
    obtain ⟨hnext, hrest⟩ := Counting.words_step h
    unfold encodedFrom
    rw [hnext, ih hrest]

variable [Identifier Id] {m : Memory Id} {ids : Nat → Uuid} {now : Instant} {id : Id}
  {events : List A.Event}

/-- What is seeded is to stand on the stored version. -/
theorem expected_of_seedBatch [Counting] {record : Record Id} {expected : Nat}
    {batch : List NewEvent}
    (h : m.seedBatch codec A ids now id events = .ok (record, expected, batch)) :
    expected = m.versionOf A.kind id := by
  rw [Memory.seedBatch] at h
  rw [Memory.versionOf]
  cases hget : m.get A.kind id with
  | archived =>
    rw [hget] at h
    cases h
  | notFound | found =>
    rw [hget] at h
    obtain ⟨current, hcurrent, h⟩ := bind_eq_ok.mp h
    obtain ⟨batch', -, h⟩ := bind_eq_ok.mp h
    cases h
    cases hcurrent
    rfl

omit [Identifier Id] in
/-- A batch on a record, with the record behind it. -/
theorem batch_words (current : Option (Record Id))
    (h : versionOf current + events.length ≤ Version.max) :
    (do
      let batch ← @encodedFrom .words Id A codec now ids (versionOf current) events
      return (recordBehind id current (Counting.words.plus (versionOf current) batch.length),
        versionOf current, batch)) =
    (do
      let batch ← @encodedFrom .exact Id A codec now ids (versionOf current) events
      return (recordBehind id current (Counting.exact.plus (versionOf current) batch.length),
        versionOf current, batch)) := by
  rw [encodedFrom_words h]
  refine bind_congr_of_ok fun batch hbatch => ?_
  have hlength : batch.length = events.length :=
    @length_encodedFrom .exact Id codec A _ _ _ _ _ hbatch
  rw [Counting.words_of_le (hlength ▸ h)]

theorem seedBatch_words (h : m.versionOf A.kind id + events.length ≤ Version.max) :
    @Memory.seedBatch .words Id _ codec A ids now id events m =
      @Memory.seedBatch .exact Id _ codec A ids now id events m := by
  rw [Memory.versionOf] at h
  unfold Memory.seedBatch
  cases hget : m.get A.kind id with
  | archived => rfl
  | notFound =>
    rw [hget] at h
    exact batch_words none h
  | found record =>
    rw [hget] at h
    exact batch_words (some record) h

/-- **Events are seeded alike** if they do not pass the greatest version. -/
theorem seed_words {τ : Type} (t : τ)
    (h : m.versionOf A.kind id + events.length ≤ Version.max) :
    @seed .words _ τ Id (@Memory.backend .words Id _ codec) A ids now id events (m, t) =
      @seed .exact _ τ Id (@Memory.backend .exact Id _ codec) A ids now id events (m, t) := by
  rw [@seed_memory .words, @seed_memory .exact, seedBatch_words h]
  cases hbatch : @Memory.seedBatch .exact Id _ codec A ids now id events m with
  | error e => rfl
  | ok seeded =>
    obtain ⟨record, expected, batch⟩ := seeded
    have hexpected := @expected_of_seedBatch _ _ _ _ _ _ _ _ _ .exact _ _ _ hbatch
    obtain ⟨-, hlength⟩ := @seedBatch_eq_ok .exact _ _ _ _ _ _ _ _ _ _ _ _ hbatch
    have hbound : expected + batch.length ≤ Version.max := hlength ▸ hexpected ▸ h
    have hsave := Memory.save_words A.kind record hbound m
    simp only [hsave]

theorem expected_of_rawBatch [Counting] (kind : String) (eventId : Uuid) (now : Instant) (id : Id)
    (eventKind : String) (data : Bytes) (m : Memory Id) :
    (m.rawBatch kind eventId now id eventKind data).2.1 = m.versionOf kind id := by
  rw [Memory.versionOf, Memory.rawBatch]
  cases m.get kind id <;> rfl

theorem rawBatch_words {kind : String} (eventId : Uuid) (eventKind : String) (data : Bytes)
    (h : m.versionOf kind id + 1 ≤ Version.max) :
    @Memory.rawBatch .words Id _ kind eventId now id eventKind data m =
      @Memory.rawBatch .exact Id _ kind eventId now id eventKind data m := by
  rw [Memory.versionOf] at h
  unfold Memory.rawBatch
  cases hget : m.get kind id with
  | archived | notFound | found =>
    rw [hget] at h
    simp only [versionOf, Option.map_none, Option.map_some, Option.getD_none, Option.getD_some,
      Counting.words_of_le h]

theorem seedRaw_words {τ : Type} (t : τ) {kind : String} (eventId : Uuid) (eventKind : String)
    (data : Bytes) (h : m.versionOf kind id + 1 ≤ Version.max) :
    @seedRaw .words _ τ Id (@Memory.backend .words Id _ codec) kind eventId now id eventKind data
        (m, t) =
      @seedRaw .exact _ τ Id (@Memory.backend .exact Id _ codec) kind eventId now id eventKind data
        (m, t) := by
  have hexpected := @expected_of_rawBatch Id _ .exact kind eventId now id eventKind data m
  have hlength : (@Memory.rawBatch .exact Id _ kind eventId now id eventKind data m).2.2.length =
      1 := rfl
  rw [@seedRaw_memory .words, @seedRaw_memory .exact, rawBatch_words eventId eventKind data h]
  generalize @Memory.rawBatch .exact Id _ kind eventId now id eventKind data m = raw
    at hexpected hlength ⊢
  obtain ⟨record, expected, batch⟩ := raw
  have hbound : expected + batch.length ≤ Version.max := by
    rw [show expected = m.versionOf kind id from hexpected, show batch.length = 1 from hlength]
    exact h
  have hsave := Memory.save_words kind record hbound m
  simp only [hsave]

end Seeding

end EventSourcing
