import EventSourcing.Proofs.Repository.InPlace
import EventSourcing.Proofs.Store.Calls

/-!
# Repositories on stores in memory

A store in memory never fails to answer, so what a repository on it does can be said without
actions: loading is a function of the store and of a snapshot, and saving is a check of the root
followed by one call of the store.

## Main Definitions

* `Memory.recordOf`, `Memory.decoded`, `Memory.replayed`, `Memory.loaded` — loading as functions.
* `Repository.Committed` — what a commit can do.

## Main Statements

* `Repository.load_memory`, `Repository.loadAt_memory`, `Repository.events_memory` — loading.
* `Repository.committed_save` — saving.
* `Repository.save_of_unprepared`, `Repository.save_of_refused`, `Repository.save_of_accepted` —
  saving, given whether there is a batch and what the store does with it.
-/

namespace EventSourcing

variable [Counting] {τ Id : Type} [Identifier Id]

/-! ### Loading -/

namespace Memory

variable (codec : Codec) (A : Aggregate Id)

/-- The record of a live aggregate. -/
def recordOf (id : Id) (m : Memory Id) : Except (LoadError Id) (Record Id) :=
  match m.get A.kind id with
  | .found record => .ok record
  | .notFound => .error (.notFound A.kind id)
  | .archived => .error (.archived A.kind id)

/-- The events of an aggregate within a window of versions. -/
def decoded (id : Id) (window : Window) (m : Memory Id) :
    Except (LoadError Id) (List (Envelope Id A.Event)) :=
  ((m.loadEvents A.kind id window).mapM (StoredEvent.envelope A codec)).mapError .eventDecode

variable {A} in
/-- A root with the stored events behind its version. -/
def replayed (root : Root A) (record : Record Id) (m : Memory Id) :
    Except (LoadError Id) (Root A) := do
  let history ← m.decoded codec A root.id (.since root.version)
  let root ← (root.rehydrate history).mapError .replay
  if root.version ≠ record.version then
    throw (.inconsistent record.version root.version)
  return { root with deleted := record.deleted, deletedAt := record.deletedAt }

variable {A} in
/-- What an answer of a snapshot store gives for an aggregate at a version. -/
def usable (answer : Except SnapshotError (Option (Snapshot A.State))) (version : Nat) :
    Option (Snapshot A.State) :=
  match answer with
  | .ok (some snapshot) => if snapshot.version ≤ version then some snapshot else none
  | _ => none

/-- The root of an aggregate, given the snapshot to start from. -/
def loaded (id : Id) (snapshot : Nat → Option (Snapshot A.State)) (m : Memory Id) :
    Except (LoadError Id) (Root A) := do
  let record ← m.recordOf A id
  let root ← Repository.base A record (snapshot record.version)
  m.replayed codec root record

/-- The root as it was at a version. -/
def loadedAt (id : Id) (version : Nat) (m : Memory Id) : Except (LoadError Id) (Root A) := do
  let record ← m.recordOf A id
  if record.version < version then
    throw (.versionNotFound A.kind id version record.version)
  let root ← Repository.shell A record 0
  let history ← m.decoded codec A id (.through version)
  let root ← (root.rehydrate history).mapError .replay
  if root.version ≠ version then
    throw (.inconsistent version root.version)
  return root

end Memory

namespace Repository

variable (codec : Codec) (snapshots : Option (SnapshotBackend τ Id)) (A : Aggregate Id)
  (m : Memory Id) (t : τ)

/-- A repository on a store in memory. -/
def onMemory : Repository (Memory Id) τ Id := ⟨Memory.backend Id codec, snapshots⟩

theorem record_memory (id : Id) :
    (onMemory codec snapshots).record A id (m, t) = (m.recordOf A id, (m, t)) := by
  have hget : (Action.onStore LoadError.store ((onMemory codec snapshots).store.get A.kind id) :
      Action (Memory Id) τ (LoadError Id) (Lookup Id)) (m, t) =
      (.ok (m.get A.kind id), (m, t)) := rfl
  refine (bind_of_ok hget).trans ?_
  rw [Memory.recordOf]
  cases m.get A.kind id <;> rfl

theorem decodedEvents_memory (id : Id) (window : Window) :
    (onMemory codec snapshots).decodedEvents A id window (m, t) =
      (m.decoded codec A id window, (m, t)) := rfl

variable {A} in
theorem replayTail_memory (root : Root A) (record : Record Id) :
    (onMemory codec snapshots).replayTail root record (m, t) =
      (m.replayed codec root record, (m, t)) := by
  refine bind_of_looks (decodedEvents_memory codec snapshots A m t _ _) fun history => ?_
  refine bind_of_looks rfl fun root => ?_
  by_cases hversion : root.version = record.version
  · simp only [ne_eq, hversion, not_true_eq_false, if_false]
    rfl
  · simp only [ne_eq, hversion, not_false_eq_true, if_true]
    rfl

theorem events_memory (id : Id) (upTo : Option Nat) :
    (onMemory codec snapshots).events A id upTo (m, t) =
      (do let _ ← m.recordOf A id
          m.decoded codec A id ⟨none, upTo⟩, (m, t)) :=
  bind_of_looks (record_memory codec snapshots A m t id) fun _ => rfl

theorem usableSnapshot?_memory (backend : SnapshotBackend τ Id) (id : Id) (version : Nat) :
    (onMemory codec (some backend)).usableSnapshot? A id version (m, t) =
      (.ok (Memory.usable (backend.load A.form A.kind id t).1 version),
        (m, (backend.load A.form A.kind id t).2)) := by
  have hload : (Action.onSnapshots (backend.load A.form A.kind id) :
      Action (Memory Id) τ (LoadError Id) _) (m, t) =
      (.ok (backend.load A.form A.kind id t).1, (m, (backend.load A.form A.kind id t).2)) := rfl
  refine (bind_of_ok hload).trans ?_
  unfold Memory.usable
  rcases (backend.load A.form A.kind id t).1 with _ | _ | snapshot <;> rfl

/-- Loading asks the snapshot store at most for a snapshot. -/
theorem load_memory (id : Id) (snapshot : Nat → Option (Snapshot A.State))
    (h : ∀ version, (onMemory codec snapshots).usableSnapshot? A id version (m, t) =
      (.ok (snapshot version), (m, t))) :
    (onMemory codec snapshots).load A id (m, t) = (m.loaded codec A id snapshot, (m, t)) := by
  refine bind_of_looks (record_memory codec snapshots A m t id) fun record => ?_
  refine (bind_of_ok (h record.version)).trans ?_
  exact bind_of_looks rfl fun root => replayTail_memory codec snapshots m t root record

theorem loadAt_memory (id : Id) (version : Nat) :
    (onMemory codec snapshots).loadAt A id version (m, t) =
      (m.loadedAt codec A id version, (m, t)) := by
  refine bind_of_looks (record_memory codec snapshots A m t id) fun record => ?_
  by_cases hlater : record.version < version
  · simp only [hlater, if_true]
    rfl
  simp only [hlater, if_false]
  refine bind_of_looks rfl fun root => ?_
  refine bind_of_looks (decodedEvents_memory codec snapshots A m t _ _) fun history => ?_
  refine bind_of_looks rfl fun root => ?_
  by_cases hversion : root.version = version
  · simp only [ne_eq, hversion, not_true_eq_false, if_false]
    rfl
  · simp only [ne_eq, hversion, not_false_eq_true, if_true]
    rfl

end Repository

/-! ### Saving -/

namespace Repository

variable (codec : Codec) (snapshots : Option (SnapshotBackend τ Id)) {A : Aggregate Id}
  (m : Memory Id) (t : τ)

/-- What committing a root can do: a check of the root, and then one call of the store. -/
inductive Committed (codec : Codec) (root : Root A) (expected : Option Nat) (m : Memory Id) :
    Except (SaveError Id) (List (Envelope Id A.Event) × Root A) × Memory Id → Prop where
  /-- There is no batch. -/
  | unprepared (e : SaveError Id) (hprepared : root.prepared codec expected = .error e) :
      Committed codec root expected m (.error e, m)
  /-- The store refuses the batch. -/
  | refused (committed : List (Envelope Id A.Event)) (batch : List NewEvent) (e : StoreSaveError)
      (hprepared : root.prepared codec expected = .ok (committed, batch))
      (hsave : m.save A.kind (root.recordAt (plus root.version committed.length)) root.version
        batch = (.error e, m)) :
      Committed codec root expected m (.error (.ofStore A.kind root.id e), m)
  /-- The store accepts the batch. -/
  | accepted (committed : List (Envelope Id A.Event)) (batch : List NewEvent) (version : Nat)
      (m' : Memory Id) (hprepared : root.prepared codec expected = .ok (committed, batch))
      (hsave : m.save A.kind (root.recordAt (plus root.version committed.length)) root.version
        batch = (.ok version, m')) :
      Committed codec root expected m (.ok (committed, root.complete committed), m')

/-- **A save on a store in memory is a commit**, whatever snapshots there are; behind one that
passes they have been made an offer. -/
theorem committed_save (codec : Codec) (m : Memory Id) (root : Root A) (expected : Option Nat) :
    ∃ result, Committed codec root expected m result ∧
      ∀ (τ : Type) (snapshots : Option (SnapshotBackend τ Id)) (t : τ),
        (onMemory codec snapshots).save root expected (m, t) =
          (result.1, (result.2,
            match result.1 with
            | .ok (committed, saved) => offered snapshots saved root.version committed.length t
            | .error _ => t)) := by
  cases hprepared : root.prepared codec expected with
  | error e =>
    refine ⟨_, .unprepared e hprepared, fun τ snapshots t => ?_⟩
    have hcodec : (onMemory codec snapshots).store.codec m = codec := rfl
    rw [save, ActionOn.passed, run_saveInPlace, run_commitInPlace, hcodec, hprepared]
  | ok prepared =>
    obtain ⟨committed, batch⟩ := prepared
    -- A save that is refused leaves the store as it is.
    have hsaved := Memory.saved_save A.kind (root.recordAt (plus root.version committed.length))
      root.version batch m
    obtain ⟨answer, m', hsave⟩ : ∃ answer m', m.save A.kind
        (root.recordAt (plus root.version committed.length)) root.version batch = (answer, m') :=
      ⟨_, _, rfl⟩
    have hcodec (τ : Type) (snapshots : Option (SnapshotBackend τ Id)) :
        (onMemory codec snapshots).store.codec m = codec := rfl
    have hcall (τ : Type) (snapshots : Option (SnapshotBackend τ Id)) :
        (onMemory codec snapshots).store.save A.kind
          (root.recordAt (plus root.version committed.length)) root.version batch m =
          (answer, m') := hsave
    cases answer with
    | error e =>
      rw [hsave] at hsaved
      cases hsaved
      refine ⟨_, .refused committed batch e hprepared hsave, fun τ snapshots t => ?_⟩
      rw [save, ActionOn.passed, run_saveInPlace, run_commitInPlace, hcodec, hprepared]
      simp only [hcall]
    | ok version =>
      refine ⟨_, .accepted committed batch version m' hprepared hsave, fun τ snapshots t => ?_⟩
      rw [save, ActionOn.passed, run_saveInPlace, run_commitInPlace, hcodec, hprepared]
      simp only [hcall]
      rfl

section Prepared

variable {codec : Codec} {m m' : Memory Id} {root : Root A} {expected : Option Nat}
  {committed : List (Envelope Id A.Event)} {batch : List NewEvent}

/-- No batch. -/
theorem save_of_unprepared {e : SaveError Id}
    (hprepared : root.prepared codec expected = .error e) :
    (onMemory codec snapshots).save root expected (m, t) = (.error e, (m, t)) := by
  obtain ⟨result, hcommitted, heq⟩ := committed_save codec m root expected
  rw [heq]
  cases hcommitted with
  | unprepared e' hprepared' =>
    rw [hprepared] at hprepared'
    cases hprepared'
    rfl
  | refused committed batch e' hprepared' | accepted committed batch version m' hprepared' =>
    rw [hprepared] at hprepared'
    cases hprepared'

/-- A batch that the store refuses. -/
theorem save_of_refused {e : StoreSaveError}
    (hprepared : root.prepared codec expected = .ok (committed, batch))
    (hsave : m.save A.kind (root.recordAt (plus root.version committed.length)) root.version batch =
      (.error e, m)) :
    (onMemory codec snapshots).save root expected (m, t) =
      (.error (.ofStore A.kind root.id e), (m, t)) := by
  obtain ⟨result, hcommitted, heq⟩ := committed_save codec m root expected
  rw [heq]
  cases hcommitted with
  | unprepared e' hprepared' =>
    rw [hprepared] at hprepared'
    cases hprepared'
  | refused committed' batch' e' hprepared' hsave' =>
    rw [hprepared] at hprepared'
    cases hprepared'
    rw [hsave] at hsave'
    cases hsave'
    rfl
  | accepted committed' batch' version m' hprepared' hsave' =>
    rw [hprepared] at hprepared'
    cases hprepared'
    rw [hsave] at hsave'
    cases hsave'

/-- A batch that the store accepts. -/
theorem save_of_accepted {version : Nat}
    (hprepared : root.prepared codec expected = .ok (committed, batch))
    (hsave : m.save A.kind (root.recordAt (plus root.version committed.length)) root.version batch =
      (.ok version, m')) :
    (onMemory codec snapshots).save root expected (m, t) =
      (.ok (committed, root.complete committed), (m', offered snapshots (root.complete committed)
        root.version committed.length t)) := by
  obtain ⟨result, hcommitted, heq⟩ := committed_save codec m root expected
  rw [heq]
  cases hcommitted with
  | unprepared e hprepared' =>
    rw [hprepared] at hprepared'
    cases hprepared'
  | refused committed' batch' e hprepared' hsave' =>
    rw [hprepared] at hprepared'
    cases hprepared'
    rw [hsave] at hsave'
    cases hsave'
  | accepted committed' batch' version' m'' hprepared' hsave' =>
    rw [hprepared] at hprepared'
    cases hprepared'
    rw [hsave] at hsave'
    cases hsave'
    rfl

end Prepared

end Repository

end EventSourcing
