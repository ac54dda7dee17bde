import EventSourcing.Proofs.Repository.Load
import EventSourcing.Proofs.Repository.Save
import EventSourcing.Proofs.Store.Cycles
import EventSourcing.Proofs.Store.Lifecycle
import EventSourcing.Proofs.Store.Reachable

/-!
# All answers agree on the lifecycle

Whatever has been done to a store, each aggregate is absent, live or archived, and all that the
store and a repository on it answer of the aggregate agrees on which of the three it is.  A mark of
deletion has no part in this.

An aggregate comes into being by a save with events, whoever makes it; it goes to the archive and
comes back from there by the two moves, and it is never absent again.

## Main Definitions

* `Memory.Absent`, `Memory.Live`, `Memory.Archived` — what is answered of an aggregate in each
  place.
* `Memory.Shows` — what is answered is what is answered in a given place.
* `Operation.Saves`, `Memory.Step` — the steps of an aggregate that an operation may cause.

## Main Statements

* `Memory.shows_iff` — all answers are those of the place where the aggregate is.
* `Memory.step_run` — what an operation does to the lifecycle.
* `Memory.lifecycle_of_saves`, `Memory.lifecycle_of_box`, `Memory.lifecycle_of_unbox` — the three
  steps are made whenever what causes them succeeds.
* `Memory.lifecycles` — all of this, for any store that can be reached.
-/

namespace EventSourcing

attribute [local instance] Counting.exact

variable {Id : Type} [Identifier Id]

/-- Whether a failure says that there is no live aggregate. -/
def LoadError.absence : LoadError Id → Bool
  | .notFound _ _ | .archived _ _ => true
  | .versionNotFound _ _ _ _ | .construction _ | .replay _ | .eventDecode _ | .inconsistent _ _ |
    .store _ => false

namespace Memory

/-! ### Answers -/

/-- However an aggregate is read through a repository, the answer is the failure, and nothing
changes. -/
def Unreadable (kind : String) (id : Id) (e : LoadError Id) (m : Memory Id) : Prop :=
  ∀ {τ : Type} (codec : Codec) (snapshots : Option (SnapshotBackend τ Id)) (t : τ)
    (A : Aggregate Id), A.kind = kind →
    let R := Repository.onMemory codec snapshots
    R.load A id (m, t) = (.error e, (m, t)) ∧
    (∀ version, R.loadAt A id version (m, t) = (.error e, (m, t))) ∧
    ∀ upTo, R.events A id upTo (m, t) = (.error e, (m, t))

/-- However an aggregate is read through a repository, a failure does not say that there is none. -/
def Readable (kind : String) (id : Id) (m : Memory Id) : Prop :=
  ∀ {τ : Type} (codec : Codec) (snapshots : Option (SnapshotBackend τ Id)) (t : τ)
    (A : Aggregate Id), A.kind = kind →
    let R := Repository.onMemory codec snapshots
    (∀ e, (R.load A id (m, t)).1 = .error e → e.absence = false) ∧
    (∀ version e, (R.loadAt A id version (m, t)).1 = .error e → e.absence = false) ∧
    ∀ upTo e, (R.events A id upTo (m, t)).1 = .error e → e.absence = false

/-- What is answered of an aggregate that is absent. -/
structure Absent (kind : String) (id : Id) (m : Memory Id) : Prop where
  get : m.get kind id = .notFound
  contains : m.contains kind id = false
  containsAt : ∀ version, m.containsAt kind id version = false
  loadEvents : ∀ window, m.loadEvents kind id window = []
  archiveEncoding : m.archiveEncoding? kind id = none
  box : ∀ encoding, m.box kind id encoding = (.error .notFound, m)
  unbox : ∀ encoding, m.unbox kind id encoding = (.error .notFound, m)
  unreadable : m.Unreadable kind id (.notFound kind id)

/-- What is answered of an aggregate that is live, whose record is given. -/
structure Live (kind : String) (id : Id) (record : Record Id) (m : Memory Id) : Prop where
  get : m.get kind id = .found record
  version : 1 ≤ record.version
  contains : m.contains kind id = true
  containsAt : ∀ version,
    m.containsAt kind id version = true ↔ 1 ≤ version ∧ version ≤ record.version
  loadEvents : ∀ version, (∃ e ∈ m.loadEvents kind id .all, e.version = version) ↔
    1 ≤ version ∧ version ≤ record.version
  archiveEncoding : m.archiveEncoding? kind id = none
  unbox : ∀ encoding, m.unbox kind id encoding = (.error .notArchived, m)
  readable : m.Readable kind id

/-- What is answered of an aggregate that is archived in an encoding. -/
structure Archived (kind : String) (id : Id) (encoding : Encoding) (m : Memory Id) : Prop where
  get : m.get kind id = .archived
  contains : m.contains kind id = false
  containsAt : ∀ version, m.containsAt kind id version = false
  loadEvents : ∀ window, m.loadEvents kind id window = []
  archiveEncoding : m.archiveEncoding? kind id = some encoding
  box : ∀ encoding, m.box kind id encoding = (.error .alreadyArchived, m)
  /-- Every batch that fits its record is refused as archived. -/
  save : ∀ (record : Record Id) expected events, record.aggregate = id →
    gap? expected events = none → record.version = expected + events.length →
    m.save kind record expected events = (.error .archived, m)
  /-- So is every root that could be saved at all. -/
  saveRoot : ∀ {τ : Type} (codec : Codec) (snapshots : Option (SnapshotBackend τ Id)) (t : τ)
    (A : Aggregate Id) (root : Root A) expected prepared, A.kind = kind → root.id = id →
    root.prepared codec expected = .ok prepared →
    (Repository.onMemory codec snapshots).save root expected (m, t) =
      (.error (.archived kind id), (m, t))
  unreadable : m.Unreadable kind id (.archived kind id)
  expired : ∀ cutoff, id ∉ m.expired kind cutoff

/-- All that is answered of an aggregate is what is answered in a given place. -/
def Shows (kind : String) (id : Id) (m : Memory Id) : Lifecycle → Prop
  | .absent => m.Absent kind id
  | .live => ∃ record, m.Live kind id record
  | .archived encoding => m.Archived kind id encoding

variable {kind : String} {id : Id} {m : Memory Id}

/-- Reading starts with the record, so it fails if there is none. -/
theorem unreadable_of_recordOf {e : LoadError Id}
    (h : ∀ A : Aggregate Id, A.kind = kind → m.recordOf A id = .error e) :
    m.Unreadable kind id e := by
  intro τ codec snapshots t A hkind R
  have hrecord : R.record A id (m, t) = (.error e, (m, t)) := by
    rw [Repository.record_memory, h A hkind]
  exact ⟨bind_of_error hrecord, fun version => bind_of_error hrecord,
    fun upTo => bind_of_error hrecord⟩

section Absence

variable {A : Aggregate Id} {codec : Codec} {e : LoadError Id} {record : Record Id}

theorem absence_of_decoded {window : Window} (h : m.decoded codec A id window = .error e) :
    e.absence = false := by
  obtain ⟨failure, -, rfl⟩ := mapError_eq_error.mp h
  rfl

theorem absence_of_shell {version : Nat}
    (h : (Repository.shell A record version : Except (LoadError Id) (Root A)) = .error e) :
    e.absence = false := by
  obtain ⟨failure, -, rfl⟩ := mapError_eq_error.mp h
  rfl

theorem absence_of_replayed {root : Root A} (h : m.replayed codec root record = .error e) :
    e.absence = false := by
  rcases bind_eq_error.mp h with hdecoded | ⟨history, -, h⟩
  · exact absence_of_decoded hdecoded
  rcases bind_eq_error.mp h with hfault | ⟨behind, -, h⟩
  · obtain ⟨fault, -, rfl⟩ := mapError_eq_error.mp hfault
    rfl
  by_cases hversion : behind.version = record.version
  · simp only [ne_eq, hversion, not_true_eq_false, if_false] at h
    cases h
  · simp only [ne_eq, hversion, not_false_eq_true, if_true] at h
    cases h
    rfl

/-- Once there is a record, loading fails for another reason than that there is no aggregate. -/
theorem absence_of_loaded (hrecord : m.recordOf A id = .ok record)
    {snapshot : Nat → Option (Snapshot A.State)} (h : m.loaded codec A id snapshot = .error e) :
    e.absence = false := by
  rcases bind_eq_error.mp h with hnone | ⟨_, -, h⟩
  · rw [hrecord] at hnone
    cases hnone
  rcases bind_eq_error.mp h with hbase | ⟨root, -, h⟩
  · rw [base_eq_shell] at hbase
    exact absence_of_shell (map_eq_error.mp hbase)
  · exact absence_of_replayed h

theorem absence_of_loadedAt (hrecord : m.recordOf A id = .ok record) {version : Nat}
    (h : m.loadedAt codec A id version = .error e) : e.absence = false := by
  rcases bind_eq_error.mp h with hnone | ⟨found, -, h⟩
  · rw [hrecord] at hnone
    cases hnone
  by_cases hlater : found.version < version
  · simp only [hlater, if_true] at h
    cases h
    rfl
  simp only [hlater, if_false] at h
  rcases bind_eq_error.mp h with hshell | ⟨root, -, h⟩
  · exact absence_of_shell hshell
  rcases bind_eq_error.mp h with hdecoded | ⟨history, -, h⟩
  · exact absence_of_decoded hdecoded
  rcases bind_eq_error.mp h with hfault | ⟨behind, -, h⟩
  · obtain ⟨fault, -, rfl⟩ := mapError_eq_error.mp hfault
    rfl
  by_cases hversion : behind.version = version
  · simp only [ne_eq, hversion, not_true_eq_false, if_false] at h
    cases h
  · simp only [ne_eq, hversion, not_false_eq_true, if_true] at h
    cases h
    rfl

end Absence

/-- Whatever is read of an aggregate that has a record, a failure does not say that there is no
aggregate. -/
theorem readable_of_recordOf
    (h : ∀ A : Aggregate Id, A.kind = kind → ∃ record, m.recordOf A id = .ok record) :
    m.Readable kind id := by
  intro τ codec snapshots t A hkind R
  obtain ⟨record, hrecord⟩ := h A hkind
  refine ⟨fun e hload => ?_, fun version e hload => ?_, fun upTo e hevents => ?_⟩
  · obtain ⟨snapshot, t', -, heq⟩ := Repository.exists_load_memory codec snapshots A m t id
    rw [heq] at hload
    exact absence_of_loaded hrecord hload
  · rw [Repository.loadAt_memory] at hload
    exact absence_of_loadedAt hrecord hload
  · rw [Repository.events_memory, hrecord] at hevents
    exact absence_of_decoded hevents

theorem absent_of_slot (hslot : m.slot? kind id = none) : m.Absent kind id where
  get := by rw [Memory.get, hslot]
  contains := by simp only [Memory.contains, stream?, hslot, Option.isSome_none]
  containsAt version := by simp only [Memory.containsAt, stream?, hslot, Option.any_none]
  loadEvents window := by simp only [Memory.loadEvents, stream?, hslot]
  archiveEncoding := by rw [archiveEncoding?, hslot]
  box encoding := by rw [Memory.box, hslot]
  unbox encoding := by rw [Memory.unbox, hslot]
  unreadable := by
    refine unreadable_of_recordOf ?_
    rintro A rfl
    rw [recordOf, Memory.get, hslot]

theorem live_of_slot {history : List (StoredEvent Id)} (hkeeps : m.Keeps kind id history)
    {stream : Stream Id} (hslot : m.slot? kind id = some (.live stream)) :
    m.Live kind id stream.record where
  get := by rw [Memory.get, hslot]
  version := by
    have hstream := (hkeeps.of_live hslot).2
    rw [hstream.version]
    exact hstream.nonempty
  contains := by simp only [Memory.contains, stream?, hslot, Option.isSome_some]
  containsAt version := (hkeeps.containsAt_iff hslot version).1
  loadEvents version := (hkeeps.containsAt_iff hslot version).2
  archiveEncoding := by rw [archiveEncoding?, hslot]
  unbox encoding := by rw [Memory.unbox, hslot]
  readable := by
    refine readable_of_recordOf ?_
    rintro A rfl
    exact ⟨_, recordOf_eq_ok.mpr ⟨stream, hslot, rfl⟩⟩

theorem archived_of_slot (hkeeps : ∀ id', ∃ history, m.Keeps kind id' history)
    {encoding : Encoding} {document : Bytes}
    (hslot : m.slot? kind id = some (.archived encoding document)) :
    m.Archived kind id encoding where
  get := by rw [Memory.get, hslot]
  contains := by simp only [Memory.contains, stream?, hslot, Option.isSome_none]
  containsAt version := by simp only [Memory.containsAt, stream?, hslot, Option.any_none]
  loadEvents window := by simp only [Memory.loadEvents, stream?, hslot]
  archiveEncoding := by rw [archiveEncoding?, hslot]
  box encoding := by rw [Memory.box, hslot]
  save record expected events haggregate hgap hversion :=
    save_of_archived (by rw [haggregate]; exact hslot) hgap hversion
  saveRoot := by
    rintro τ codec snapshots t A root expected ⟨committed, batch⟩ rfl rfl hprepared
    have hbatch := (Root.prepared_eq_ok hprepared).2
    have hversion : (root.recordAt (plus root.version committed.length)).version =
        root.version + batch.length := by
      rw [length_encodedFrom hbatch]
      rfl
    exact Repository.save_of_refused snapshots t hprepared
      (save_of_archived hslot (gap?_encodedFrom hbatch) hversion)
  unreadable := by
    refine unreadable_of_recordOf ?_
    rintro A rfl
    rw [recordOf, Memory.get, hslot]
  expired cutoff hexpired := by
    obtain ⟨id', stream, -, hslot', haggregate, -⟩ := mem_expired.mp hexpired
    obtain ⟨history, hkept⟩ := hkeeps id'
    have haggregate' := (hkept.of_live hslot').2.aggregate
    rw [← haggregate', haggregate, hslot] at hslot'
    cases hslot'

/-- Each place shows in what the store finds, and in the encoding. -/
theorem lifecycle_of_absent (h : m.Absent kind id) : m.lifecycle kind id = .absent := by
  have hget := h.get
  rw [Memory.get] at hget
  rw [lifecycle]
  split at hget
  · cases hget
  · cases hget
  · rename_i hslot
    rw [hslot]

theorem lifecycle_of_live {record : Record Id} (h : m.Live kind id record) :
    m.lifecycle kind id = .live := by
  obtain ⟨stream, hslot, -⟩ := get_eq_found h.get
  exact lifecycle_eq_live.mpr ⟨stream, hslot⟩

theorem lifecycle_of_archived {encoding : Encoding} (h : m.Archived kind id encoding) :
    m.lifecycle kind id = .archived encoding := by
  have hencoding := h.archiveEncoding
  rw [archiveEncoding?] at hencoding
  rw [lifecycle]
  split at hencoding
  · rename_i hslot
    rw [hslot, Option.some.inj hencoding]
  · cases hencoding

/-- **All answers are those of the place where the aggregate is**, and of no other. -/
theorem shows_iff (hkeeps : ∀ id', ∃ history, m.Keeps kind id' history) (s : Lifecycle) :
    m.Shows kind id s ↔ s = m.lifecycle kind id := by
  constructor
  · intro h
    cases s with
    | absent => exact (lifecycle_of_absent h).symm
    | live =>
      obtain ⟨record, h⟩ := h
      exact (lifecycle_of_live h).symm
    | archived encoding => exact (lifecycle_of_archived h).symm
  · rintro rfl
    obtain ⟨history, hkept⟩ := hkeeps id
    rw [lifecycle]
    cases hslot : m.slot? kind id with
    | none => exact absent_of_slot hslot
    | some slot =>
      cases slot with
      | live stream => exact ⟨_, live_of_slot hkept hslot⟩
      | archived encoding document => exact archived_of_slot hkeeps hslot

end Memory

/-! ### Operations -/

/-- A save of the aggregate with at least one event that is accepted, whoever makes it. -/
inductive Operation.Saves (kind : String) (id : Id) (m : Memory Id) : Operation Id → Prop where
  | call (record : Record Id) (expected : Nat) (events : List NewEvent) (version : Nat)
      (haggregate : record.aggregate = id) (hevents : events ≠ [])
      (hsave : (m.save kind record expected events).1 = .ok version) :
      Saves kind id m (.call (.save kind record expected events))
  | save {τ : Type} (codec : Codec) (snapshots : Option (SnapshotBackend τ Id)) (t : τ)
      {A : Aggregate Id} (root root' : Root A) (expected : Option Nat)
      (committed : List (Envelope Id A.Event)) (hkind : A.kind = kind) (hid : root.id = id)
      (hevents : committed ≠ [])
      (hsave : ((Repository.onMemory codec snapshots).save root expected (m, t)).1 =
        .ok (committed, root')) :
      Saves kind id m (.save codec snapshots t root expected)
  | seed (codec : Codec) (A : Aggregate Id) (ids : Nat → Uuid) (now : Instant)
      (events : List A.Event) (hkind : A.kind = kind) (hevents : events ≠ [])
      (hseed : (Seeding.seed (Memory.backend Id codec) A ids now id events (m, ())).1 = .ok ()) :
      Saves kind id m (.seed codec A ids now id events)
  | seedRaw (eventId : Uuid) (now : Instant) (eventKind : String) (data : Bytes)
      (hseed : (Seeding.seedRaw (Memory.backend Id .json) kind eventId now id eventKind data
        (m, ())).1 = .ok ()) :
      Saves kind id m (.seedRaw kind eventId now id eventKind data)

namespace Memory

/-- The steps of an aggregate that an operation may cause. -/
inductive Step (kind : String) (id : Id) (m : Memory Id) (operation : Operation Id) :
    Lifecycle → Lifecycle → Prop where
  | stay (s : Lifecycle) : Step kind id m operation s s
  | first (hsaves : operation.Saves kind id m) : Step kind id m operation .absent .live
  | boxed (encoding : Encoding) (hoperation : operation = .call (.box kind id encoding))
      (hbox : (m.box kind id encoding).1 = .ok ()) :
      Step kind id m operation .live (.archived encoding)
  | unboxed (encoding : Encoding) (record : Record Id)
      (hoperation : operation = .call (.unbox kind id encoding))
      (hunbox : (m.unbox kind id encoding).1 = .ok record) :
      Step kind id m operation (.archived encoding) .live

variable {kind : String} {id : Id} {m : Memory Id}

/-- An operation that is a save, perhaps of another aggregate. -/
theorem step_of_save {operation : Operation Id} {kind' : String} {record : Record Id}
    {expected version : Nat} {events : List NewEvent} {m' : Memory Id}
    (hsave : m.save kind' record expected events = (.ok version, m'))
    (hsaves : kind' = kind → record.aggregate = id → events ≠ [] → operation.Saves kind id m) :
    Step kind id m operation (m.lifecycle kind id) (m'.lifecycle kind id) := by
  have hturn := turn_after kind id m (.save kind' record expected events)
  rw [after, hsave] at hturn
  generalize m.lifecycle kind id = s at hturn ⊢
  generalize m'.lifecycle kind id = s' at hturn ⊢
  cases hturn with
  | stay => exact .stay _
  | first record' expected' events' version' hcall haggregate hevents _ =>
    cases hcall
    exact .first (hsaves rfl haggregate hevents)
  | boxed encoding hcall hbox => cases hcall
  | unboxed encoding record' hcall hunbox => cases hcall

/-- **What an operation does to the lifecycle of an aggregate.** -/
theorem step_run (kind : String) (id : Id) (m : Memory Id) (operation : Operation Id) :
    Step kind id m operation (m.lifecycle kind id) ((m.run operation).lifecycle kind id) := by
  cases operation with
  | call call =>
    have hturn := turn_after kind id m call
    rw [run]
    generalize m.lifecycle kind id = s at hturn ⊢
    generalize (m.after call).lifecycle kind id = s' at hturn ⊢
    cases hturn with
    | stay => exact .stay _
    | first record expected events version hcall haggregate hevents hsave =>
      subst hcall
      exact .first (.call record expected events version haggregate hevents hsave)
    | boxed encoding hcall hbox => exact .boxed encoding (congrArg Operation.call hcall) hbox
    | unboxed encoding record hcall hunbox =>
      exact .unboxed encoding record (congrArg Operation.call hcall) hunbox
  | @save τ codec snapshots t A root expected =>
    have hrun : m.run (.save codec snapshots t root expected) =
        ((Repository.onMemory codec snapshots).save root expected (m, t)).2.1 := rfl
    obtain ⟨result, hcommitted, hsave⟩ := Repository.committed_save codec m root expected
    rw [hrun, hsave]
    cases hcommitted with
    | unprepared | refused => exact .stay _
    | accepted committed batch version m' hprepared haccepted =>
      refine step_of_save haccepted fun hkind hid hevents => ?_
      refine .save codec snapshots t root (root.complete committed) expected committed hkind hid
        ?_ (by rw [hsave])
      rintro rfl
      have hlength := length_encodedFrom (Root.prepared_eq_ok hprepared).2
      exact hevents (List.length_eq_zero_iff.mp hlength)
  | seed codec A ids now id' events =>
    obtain ⟨result, hseeded, hseed⟩ := Seeding.seeded_seed codec m A ids now id' events
    rw [run, hseed]
    cases hseeded with
    | refused e => exact .stay _
    | accepted record expected batch version m' haggregate hlength hsave =>
      refine step_of_save hsave fun hkind hid hevents => ?_
      cases haggregate.symm.trans hid
      refine .seed codec A ids now events hkind ?_ (by rw [hseed])
      rintro rfl
      exact hevents (List.length_eq_zero_iff.mp hlength)
  | seedRaw kind' eventId now id' eventKind data =>
    obtain ⟨result, hseeded, hseed⟩ :=
      Seeding.seeded_seedRaw .json m kind' eventId now id' eventKind data
    rw [run, hseed]
    cases hseeded with
    | refused e => exact .stay _
    | accepted record expected batch version m' haggregate hlength hsave =>
      refine step_of_save hsave fun hkind hid hevents => ?_
      cases hkind
      cases haggregate.symm.trans hid
      exact .seedRaw eventId now eventKind data (by rw [hseed])

/-- A batch that is accepted leaves a live aggregate behind. -/
theorem lifecycle_of_save {record : Record Id} {expected version : Nat} {events : List NewEvent}
    {m' : Memory Id} (hsave : m.save kind record expected events = (.ok version, m'))
    (hevents : events ≠ []) : m'.lifecycle kind record.aggregate = .live := by
  have hsaved := saved_save kind record expected events m
  rw [hsave] at hsaved
  cases hsaved with
  | nothing hslot hexpected hnil hversion => exact absurd hnil hevents
  | first | behind => exact lifecycle_setSlot_live _

/-- **An aggregate that is saved with events is live.** -/
theorem lifecycle_of_saves {operation : Operation Id} (h : operation.Saves kind id m) :
    (m.run operation).lifecycle kind id = .live := by
  cases h with
  | call record expected events version haggregate hevents hsave =>
    subst haggregate
    exact lifecycle_of_save (Prod.ext hsave rfl) hevents
  | save codec snapshots t root root' expected committed hkind hid hevents hsave =>
    subst hkind hid
    have hrun : m.run (.save codec snapshots t root expected) =
        ((Repository.onMemory codec snapshots).save root expected (m, t)).2.1 := rfl
    obtain ⟨result, hcommitted, heq⟩ := Repository.committed_save codec m root expected
    rw [heq] at hsave
    rw [hrun, heq]
    cases hcommitted with
    | unprepared | refused => cases hsave
    | accepted committed' batch version m' hprepared haccepted =>
      cases hsave
      refine lifecycle_of_save haccepted fun hnil => hevents ?_
      have hlength := length_encodedFrom (Root.prepared_eq_ok hprepared).2
      rw [hnil] at hlength
      exact List.length_eq_zero_iff.mp hlength.symm
  | seed codec A ids now events hkind hevents hseed =>
    subst hkind
    obtain ⟨result, hseeded, heq⟩ := Seeding.seeded_seed codec m A ids now id events
    rw [heq] at hseed
    rw [run, heq]
    cases hseeded with
    | refused e => cases hseed
    | accepted record expected batch version m' haggregate hlength hsave =>
      subst haggregate
      refine lifecycle_of_save hsave fun hnil => hevents ?_
      rw [hnil] at hlength
      exact List.length_eq_zero_iff.mp hlength.symm
  | seedRaw eventId now eventKind data hseed =>
    obtain ⟨result, hseeded, heq⟩ :=
      Seeding.seeded_seedRaw .json m kind eventId now id eventKind data
    rw [heq] at hseed
    rw [run, heq]
    cases hseeded with
    | refused e => cases hseed
    | accepted record expected batch version m' haggregate hlength hsave =>
      subst haggregate
      refine lifecycle_of_save hsave ?_
      rintro rfl
      cases hlength

/-- **The archive is entered from life**, by a move that succeeds. -/
theorem lifecycle_of_box {encoding : Encoding} (h : (m.box kind id encoding).1 = .ok ()) :
    m.lifecycle kind id = .live ∧
      (m.run (.call (.box kind id encoding))).lifecycle kind id = .archived encoding := by
  have hboxed := boxed_box kind id encoding m
  rw [run, after]
  generalize m.box kind id encoding = result at h hboxed ⊢
  cases hboxed with
  | refused => cases h
  | moved stream document hslot harchive =>
    exact ⟨lifecycle_eq_live.mpr ⟨stream, hslot⟩, lifecycle_setSlot_archived encoding document⟩

/-- It is left for life. -/
theorem lifecycle_of_unbox {encoding : Encoding} {record : Record Id}
    (h : (m.unbox kind id encoding).1 = .ok record) :
    m.lifecycle kind id = .archived encoding ∧
      (m.run (.call (.unbox kind id encoding))).lifecycle kind id = .live := by
  have hunboxed := unboxed_unbox kind id encoding m
  rw [run, after]
  generalize m.unbox kind id encoding = result at h hunboxed ⊢
  cases hunboxed with
  | refused => cases h
  | moved stream document hslot hrestore =>
    exact ⟨lifecycle_eq_archived.mpr ⟨document, hslot⟩, lifecycle_setSlot_live stream⟩

/-- An aggregate that is there stays there. -/
theorem lifecycle_run_ne_absent (h : m.lifecycle kind id ≠ .absent) (operation : Operation Id) :
    (m.run operation).lifecycle kind id ≠ .absent := by
  have hstep := step_run kind id m operation
  generalize m.lifecycle kind id = s at h hstep
  generalize (m.run operation).lifecycle kind id = s' at hstep ⊢
  cases hstep with
  | stay => exact h
  | first => exact nofun
  | boxed => exact nofun
  | unboxed => exact nofun

theorem lifecycle_runAll_ne_absent (h : m.lifecycle kind id ≠ .absent)
    (operations : List (Operation Id)) : (m.runAll operations).lifecycle kind id ≠ .absent := by
  induction operations generalizing m with
  | nil => exact h
  | cons operation operations ih => exact ih (lifecycle_run_ne_absent h operation)

/-- A mark of deletion, or the removal of one, is saved without events. -/
theorem save_marks {history : List (StoredEvent Id)} (hkeeps : m.Keeps kind id history)
    {record : Record Id} (h : m.get kind id = .found record) (deleted : Bool)
    (deletedAt : Option Instant) :
    ∃ m', m.save kind { record with deleted := deleted, deletedAt := deletedAt } record.version
        [] = (.ok record.version, m') ∧
      m'.Live kind id { record with deleted := deleted, deletedAt := deletedAt } ∧
      ∀ window, m'.loadEvents kind id window = m.loadEvents kind id window := by
  obtain ⟨stream, hslot, rfl⟩ := get_eq_found h
  obtain ⟨rfl, hstream⟩ := hkeeps.of_live hslot
  -- The record that is saved is one of the same aggregate.
  obtain ⟨record, hrecord⟩ : ∃ record,
      record = { stream.record with deleted := deleted, deletedAt := deletedAt } := ⟨_, rfl⟩
  have haggregate : record.aggregate = id := by rw [hrecord, hstream.aggregate]
  have hversion : record.version = stream.record.version := by rw [hrecord]
  rw [← hrecord]
  subst haggregate
  have hgap : gap? stream.record.version [] = none := rfl
  have hsave : m.save kind record stream.record.version [] = (.ok stream.record.version,
      m.setSlot kind record.aggregate (.live ⟨record, stream.events⟩)) := by
    rw [save_of_live hslot hgap hversion, if_pos rfl, List.map_nil, List.append_nil]
    rfl
  have hslot' : (m.setSlot kind record.aggregate (.live ⟨record, stream.events⟩)).slot? kind
      record.aggregate = some (.live ⟨record, stream.events⟩) := by
    rw [slot?_setSlot_self]
  refine ⟨_, hsave, live_of_slot (hkeeps.save_ok hsave).2 hslot', fun window => ?_⟩
  rw [loadEvents_of_live hslot', loadEvents_of_live hslot]

/-- **All answers agree on where an aggregate is, and it only goes the ways that there are.**  In
any store that can be reached, an aggregate is in exactly one place, and every answer of the store
and of repositories on it is the one that is given in this place; a mark of deletion, or its
removal, changes the marks of the record and no other answer.  The only steps are from absence to
life by a save with events, whoever makes it, and from life to the archive and back by the two
moves; each of them leads there whenever it succeeds, and no sequence of operations leads back to
absence. -/
theorem lifecycles [Identifier.Unmistakable Id] (operations : List (Operation Id)) (kind : String)
    (id : Id) :
    let m := (empty : Memory Id).runAll operations
    (∀ s, m.Shows kind id s ↔ s = m.lifecycle kind id) ∧
    (∀ record deleted deletedAt, m.get kind id = .found record →
      ∃ m', m.save kind { record with deleted := deleted, deletedAt := deletedAt } record.version
          [] = (.ok record.version, m') ∧
        m'.Live kind id { record with deleted := deleted, deletedAt := deletedAt } ∧
        ∀ window, m'.loadEvents kind id window = m.loadEvents kind id window) ∧
    (∀ operation,
      Step kind id m operation (m.lifecycle kind id) ((m.run operation).lifecycle kind id)) ∧
    (∀ operation, operation.Saves kind id m → (m.run operation).lifecycle kind id = .live) ∧
    (∀ encoding, (m.box kind id encoding).1 = .ok () →
      (m.run (.call (.box kind id encoding))).lifecycle kind id = .archived encoding) ∧
    (∀ encoding record, (m.unbox kind id encoding).1 = .ok record →
      (m.run (.call (.unbox kind id encoding))).lifecycle kind id = .live) ∧
    (m.lifecycle kind id ≠ .absent → ∀ later, (m.runAll later).lifecycle kind id ≠ .absent) := by
  intro m
  have hkeeps (id' : Id) : ∃ history, m.Keeps kind id' history := by
    obtain ⟨history, hkept⟩ := (keeps_empty kind id').runAll operations
    exact ⟨_, hkept⟩
  obtain ⟨history, hkept⟩ := hkeeps id
  exact ⟨shows_iff hkeeps, fun record deleted deletedAt hget => save_marks hkept hget deleted
    deletedAt, step_run kind id m, fun operation => lifecycle_of_saves,
    fun encoding hbox => (lifecycle_of_box hbox).2,
    fun encoding record hunbox => (lifecycle_of_unbox hunbox).2, lifecycle_runAll_ne_absent⟩

/-- A counter that comes into being, goes to the archive and comes back. -/
theorem lifecycles_counter :
    let seed : Operation String :=
      .seedRaw "counter" .nil .epoch "c" "reset" [110, 117, 108, 108]
    let box : Operation String := .call (.box "counter" "c" .json)
    let unbox : Operation String := .call (.unbox "counter" "c" .json)
    let m (operations : List (Operation String)) := (empty : Memory String).runAll operations
    (m []).Shows "counter" "c" .absent ∧
    (m [seed]).Shows "counter" "c" .live ∧
    (m [seed, box]).Shows "counter" "c" (.archived .json) ∧
    (m [seed, box, unbox]).Shows "counter" "c" .live ∧
    ∀ later, ((m [seed, box, unbox]).runAll later).lifecycle "counter" "c" ≠ .absent := by
  intro seed box unbox m
  -- What comes back from the archive is what went there.
  obtain ⟨stream, hslot, -⟩ := get_eq_found
    (show (m [seed]).get "counter" "c" = .found ⟨"c", 1, none, false, none⟩ from rfl)
  obtain ⟨document, harchive⟩ := archive_of_box hslot
    (show ((m [seed]).box "counter" "c" .json).1 = .ok () from rfl)
  have hboxed : m [seed, box] = (m [seed]).setSlot "counter" "c" (.archived .json document) := by
    show ((m [seed]).box "counter" "c" .json).2 = _
    rw [box_of_live hslot harchive]
  have hback : m [seed, box, unbox] = m [seed] := by
    show ((m [seed, box]).unbox "counter" "c" .json).2 = _
    rw [hboxed, unbox_box hslot harchive]
  obtain ⟨habsent, -⟩ := lifecycles ([] : List (Operation String)) "counter" "c"
  obtain ⟨hlive, -, -, -, -, -, hlater⟩ := lifecycles [seed] "counter" "c"
  obtain ⟨harchived, -⟩ := lifecycles [seed, box] "counter" "c"
  rw [hback]
  refine ⟨(habsent .absent).mpr rfl, (hlive .live).mpr rfl, (harchived (.archived .json)).mpr ?_,
    (hlive .live).mpr rfl, hlater nofun⟩
  show _ = (m [seed, box]).lifecycle "counter" "c"
  rw [hboxed, lifecycle_setSlot_archived]

end Memory

end EventSourcing
