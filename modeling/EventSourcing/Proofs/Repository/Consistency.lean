import EventSourcing.Proofs.Repository.Replay
import EventSourcing.Proofs.Repository.Save
import EventSourcing.Proofs.Store.Reachable
import EventSourcing.Sample.Counter

/-!
# Stored histories are always in order

A repository looks at what it gets from a store once more: the events must belong to the aggregate
and follow each other, and the last of them must be at the version of the record.  A store looks at
batches in the same way.  On a store in memory all of these checks pass, whatever has been done to
the store and whatever a snapshot store answers; so an aggregate that is not loaded or not saved is
so for another reason.

## Main Definitions

* `LoadError.corrupt`, `SaveError.corrupt` — failures which say that something is not in order.

## Main Statements

* `Memory.loaded_eq_error`, `Memory.loadedAt_eq_error` — why an aggregate is not loaded.
* `Repository.Committed.of_error` — why it is not saved.
* `Repository.never_corrupt` — never because something is not in order.
-/

namespace EventSourcing

attribute [local instance] Counting.exact

/-- Whether a failure says that the store fails or that what it keeps is not in order. -/
def LoadError.corrupt {Id : Type} : LoadError Id → Bool
  | .replay _ | .inconsistent _ _ | .store _ => true
  | .notFound _ _ | .archived _ _ | .versionNotFound _ _ _ _ | .construction _ | .eventDecode _ =>
    false

/-- Whether a failure says that the store fails or that the batch is not in order. -/
def SaveError.corrupt {Id : Type} : SaveError Id → Bool
  | .invalidBatch _ _ | .store _ => true
  | .conflict _ | .flush _ | .codec _ _ | .archived _ _ => false

variable {Id : Type} [Identifier Id] {A : Aggregate Id} {codec : Codec}

/-! ### Loading -/

namespace Memory

variable {m : Memory Id} {id : Id} {history : List (StoredEvent Id)}

/-- There is no record of an aggregate that is not there or archived. -/
theorem recordOf_eq_error {e : LoadError Id} (h : m.recordOf A id = .error e) :
    e = .notFound A.kind id ∨ e = .archived A.kind id := by
  unfold recordOf at h
  split at h
  · cases h
  · cases h
    exact .inl rfl
  · cases h
    exact .inr rfl

theorem shell_eq_error {record : Record Id} {version : Nat} {e : LoadError Id}
    (h : (Repository.shell A record version : Except (LoadError Id) (Root A)) = .error e) :
    ∃ failure, e = .construction failure := by
  obtain ⟨failure, -, rfl⟩ := mapError_eq_error.mp h
  exact ⟨failure, rfl⟩

/-- **Why an aggregate is not loaded**, with a snapshot that is not ahead of the record. -/
theorem loaded_eq_error (hkeeps : m.Keeps A.kind id history)
    {snapshot : Nat → Option (Snapshot A.State)}
    (hsnapshot : ∀ version s, snapshot version = some s → s.version ≤ version) {e : LoadError Id}
    (h : m.loaded codec A id snapshot = .error e) : e.corrupt = false := by
  rcases bind_eq_error.mp h with hrecord | ⟨record, hrecord, h⟩
  · rcases recordOf_eq_error hrecord with rfl | rfl
    · rfl
    · rfl
  rcases bind_eq_error.mp h with hbase | ⟨root, hbase, h⟩
  · rw [base_eq_shell] at hbase
    obtain ⟨failure, rfl⟩ := shell_eq_error (map_eq_error.mp hbase)
    rfl
  -- What is replayed follows the root and leads to the record, with a snapshot or without.
  obtain ⟨hid, -, -, hpending, hversion⟩ := base_eq_ok hbase
  have hle : root.version ≤ record.version := by
    rw [hversion]
    cases hfound : snapshot record.version with
    | none => exact Nat.zero_le _
    | some s => exact hsnapshot record.version s hfound
  have haggregate : record.aggregate = id := (hkeeps.of_record hrecord).2.aggregate
  rw [replayed_eq hkeeps hrecord (hid.trans haggregate) hpending hle] at h
  obtain ⟨failure, -, rfl⟩ := mapError_eq_error.mp (map_eq_error.mp h)
  rfl

/-- **Why an earlier version of an aggregate is not loaded.** -/
theorem loadedAt_eq_error (hkeeps : m.Keeps A.kind id history) {version : Nat} {e : LoadError Id}
    (h : m.loadedAt codec A id version = .error e) : e.corrupt = false := by
  cases hrecord : m.recordOf A id with
  | error e' =>
    rw [loadedAt, hrecord] at h
    cases h
    rcases recordOf_eq_error hrecord with rfl | rfl
    · rfl
    · rfl
  | ok record =>
    rw [loadedAt_eq hkeeps hrecord] at h
    split at h
    · cases h
      rfl
    · rcases bind_eq_error.mp h with hshell | ⟨root, -, h⟩
      · obtain ⟨failure, rfl⟩ := shell_eq_error hshell
        rfl
      · obtain ⟨failure, -, rfl⟩ := mapError_eq_error.mp (map_eq_error.mp h)
        rfl

end Memory

/-! ### Saving -/

namespace Repository

/-- **Why a root is not saved**: the batch that the store gets is always one that fits the root. -/
theorem Committed.of_error {root : Root A} {expected : Option Nat} {m m' : Memory Id}
    {e : SaveError Id} (h : Committed codec root expected m (.error e, m')) :
    e.corrupt = false := by
  cases h with
  | unprepared _ hprepared =>
    rcases Root.prepared_eq_error hprepared with ⟨conflict, rfl⟩ | ⟨fault, -, rfl⟩ |
      ⟨kind, reason, rfl⟩
    · rfl
    · rfl
    · rfl
  | refused committed batch refusal hprepared hsave =>
    obtain ⟨-, hbatch⟩ := Root.prepared_eq_ok hprepared
    have hgap : Memory.gap? root.version batch = none := gap?_encodedFrom hbatch
    have hversion : (root.recordAt (plus root.version committed.length)).version =
        root.version + batch.length := by
      rw [length_encodedFrom hbatch]
      rfl
    rcases Memory.save_eq_error hgap hversion hsave with rfl | ⟨conflict, rfl⟩
    · rfl
    · rfl

/-! ### Repositories -/

/-- **Nothing is ever found to be out of order.**  Whatever has been done to a store in memory by
its own calls, by repositories and by seeding, and whatever a snapshot store answers: no aggregate
fails to be loaded, at present or as it was at any version, because its history cannot be replayed
or does not end where it should, and no root fails to be saved because its batch does not fit; nor
does the store ever fail by itself. -/
theorem never_corrupt [Identifier.Unmistakable Id] {τ : Type} (operations : List (Operation Id))
    (codec : Codec) (snapshots : Option (SnapshotBackend τ Id)) (t : τ) (A : Aggregate Id) :
    let s := ((Memory.empty : Memory Id).runAll operations, t)
    let R := onMemory codec snapshots
    (∀ id e, (R.load A id s).1 = .error e → e.corrupt = false) ∧
    (∀ id version e, (R.loadAt A id version s).1 = .error e → e.corrupt = false) ∧
    ∀ (root : Root A) expected e, (R.save root expected s).1 = .error e → e.corrupt = false := by
  intro s R
  have hkept (id : Id) : ∃ history, s.1.Keeps A.kind id history := by
    obtain ⟨history, hkeeps⟩ := (Memory.keeps_empty A.kind id).runAll operations
    exact ⟨_, hkeeps⟩
  refine ⟨fun id e h => ?_, fun id version e h => ?_, fun root expected e h => ?_⟩
  · obtain ⟨history, hkeeps⟩ := hkept id
    obtain ⟨snapshot, t', hsnapshot, hload⟩ := exists_load_memory codec snapshots A s.1 t id
    rw [hload] at h
    exact Memory.loaded_eq_error hkeeps hsnapshot h
  · obtain ⟨history, hkeeps⟩ := hkept id
    rw [loadAt_memory] at h
    exact Memory.loadedAt_eq_error hkeeps h
  · obtain ⟨⟨answer, m'⟩, hcommitted, hsave⟩ := committed_save codec s.1 root expected
    have hanswer : answer = .error e := by
      rw [← h]
      exact (congrArg Prod.fst (hsave τ snapshots t)).symm
    rw [hanswer] at hcommitted
    exact hcommitted.of_error

/-- A counter with an event that no counter knows, and a snapshot of a version that it has not
reached. -/
theorem never_corrupt_counter :
    let operations : List (Operation String) :=
      [.seedRaw "counter" .nil .epoch "c" "forgotten" []]
    let t := (SnapshotMemory.empty .always).put "counter" "c"
      ⟨7, .obj [("resets", .int 1), ("value", .int 0)]⟩
    let s := ((Memory.empty : Memory String).runAll operations, t)
    let R := onMemory .json (some (SnapshotMemory.backend String))
    let root := (Root.bare Sample.counter "c" 0 none).apply ⟨.nil, .epoch⟩ Sample.CounterEvent.reset
    ∃ e e' e'', (R.load Sample.counter "c" s).1 = .error e ∧ e.corrupt = false ∧
      (R.loadAt Sample.counter "c" 2 s).1 = .error e' ∧ e'.corrupt = false ∧
      (R.save root none s).1 = .error e'' ∧ e''.corrupt = false := by
  intro operations t s R root
  obtain ⟨hload, hloadAt, hsave⟩ := never_corrupt operations .json
    (some (SnapshotMemory.backend String)) t Sample.counter
  have hfailed : (R.load Sample.counter "c" s).1 =
      .error (.eventDecode (.unknownKind "forgotten" ["value-added", "reset"])) := rfl
  have hlater : (R.loadAt Sample.counter "c" 2 s).1 =
      .error (.versionNotFound "counter" "c" 2 1) := rfl
  have hrefused : (R.save root none s).1 = .error (.conflict ⟨0, 1⟩) := rfl
  exact ⟨_, _, _, hfailed, hload "c" _ hfailed, hlater, hloadAt "c" 2 _ hlater, hrefused,
    hsave root none _ hrefused⟩

end Repository

end EventSourcing
