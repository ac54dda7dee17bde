import EventSourcing.Proofs.Repository.EarlierVersions

/-!
# Loading while others save

Loading takes two looks at the store, at the record and at the events, and others may act in
between.  The events are read without a bound.  So if others have committed events in the meantime,
these are replayed as well, the root is ahead of the record, and loading fails: it says that the
history is inconsistent, which it is neither before nor after.  A root of an earlier version is read
up to that version and is the same whatever others do.

## Main Definitions

* `Memory.interrupted` — a store on which others act between the two looks.

## Main Statements

* `Repository.load_interrupted`, `Repository.loadAt_interrupted` — loading on such a store.
* `Repository.load_overlap` — the same for any store that can be reached.
* `Repository.load_overlap_inconsistent` — a failure to load a counter that another client saves.
-/

namespace EventSourcing

attribute [local instance] Counting.exact

variable {Id : Type} [Identifier Id] {A : Aggregate Id} {codec : Codec}

/-- A store in memory on which others act whenever someone has looked at a record. -/
def Memory.interrupted (codec : Codec) (others : Memory Id → Memory Id) : Backend (Memory Id) Id :=
  { Memory.backend Id codec with get := fun kind id m => (.ok (m.get kind id), others m) }

namespace Memory

variable {m : Memory Id} {id : Id} {history : List (StoredEvent Id)} {record : Record Id}
  {payloads : List A.Event}

/-- **Replaying a whole history against a record from another time** fails exactly if the record is
of another version than the present one. -/
theorem replayed_against (hkeeps : m.Keeps A.kind id history)
    (hrecord : m.recordOf A id = .ok record)
    (hread : history.mapM (fun e => A.events.decode codec e.kind e.data) = .ok payloads)
    (tenant : Option String) (earlier : Record Id) :
    m.replayed codec (Root.bare A id 0 tenant) earlier =
      if record.version = earlier.version then
        .ok { Root.behind A id tenant payloads with
          deleted := earlier.deleted
          deletedAt := earlier.deletedAt }
      else .error (.inconsistent earlier.version record.version) := by
  obtain ⟨hload, hstream⟩ := hkeeps.of_record hrecord
  obtain ⟨es, hes, hpayloads⟩ := mapM_envelope hread
  have hdecoded : m.decoded codec A id (.since 0) = .ok es := by
    rw [decoded, hload, filter_since hstream.versions 0 (Nat.zero_le 0)]
    show Except.mapError _ (history.mapM _) = _
    rw [hes]
    rfl
  have hrehydrate : (Root.bare A id 0 tenant).rehydrate es =
      .ok (Root.behind A id tenant payloads) := by
    have hfault : Root.replayFault? id 0 es = none :=
      Root.replayFault?_eq_none hstream.versions (fun e he => (hstream.events e he).2) hes
    refine Root.rehydrate_eq_ok.mpr ⟨rfl, hfault, ?_⟩
    rw [← hpayloads]
    exact Root.replayed_behind id tenant [] es
  have hend : payloads.length = record.version :=
    (length_of_mapM hread).trans hstream.version.symm
  show (m.decoded codec A id (.since 0) >>= _) = _
  rw [hdecoded]
  show (Except.mapError LoadError.replay (Root.rehydrate es _) >>= _) = _
  rw [hrehydrate]
  show (if payloads.length ≠ earlier.version then _ else _ : Except (LoadError Id) (Root A)) = _
  rw [hend]
  by_cases hversion : record.version = earlier.version
  · rw [if_neg (not_not_intro hversion), if_pos hversion]
    rfl
  · rw [if_pos hversion, if_neg hversion]
    show Except.error (LoadError.inconsistent earlier.version payloads.length) = _
    rw [hend]

end Memory

namespace Repository

variable {τ : Type} {others : Memory Id → Memory Id} {m m' : Memory Id} {id : Id}
  {history' : List (StoredEvent Id)} {record record' : Record Id} {payloads : List A.Event}

/-- A repository without snapshots on a store on which others act. -/
def onInterrupted (τ : Type) (codec : Codec) (others : Memory Id → Memory Id) :
    Repository (Memory Id) τ Id := ⟨Memory.interrupted codec others, none⟩

/-- The record is looked at first. -/
theorem record_interrupted (t : τ) (hrecord : m.recordOf A id = .ok record) :
    (onInterrupted τ codec others).record A id (m, t) = (.ok record, (others m, t)) := by
  have hget : (Action.onStore LoadError.store
      ((onInterrupted τ codec others).store.get A.kind id) :
      Action (Memory Id) τ (LoadError Id) (Lookup Id)) (m, t) =
      (.ok (m.get A.kind id), (others m, t)) := rfl
  obtain ⟨stream, hslot, rfl⟩ := Memory.recordOf_eq_ok.mp hrecord
  refine (bind_of_ok hget).trans ?_
  rw [Memory.get, hslot]
  rfl

theorem load_interrupted (t : τ) (hrecord : m.recordOf A id = .ok record) :
    (onInterrupted τ codec others).load A id (m, t) =
      (do
        let root ← shell A record 0
        (others m).replayed codec root record, (others m, t)) := by
  refine (bind_of_ok (record_interrupted t hrecord)).trans ?_
  refine (bind_of_ok (a := none) rfl).trans ?_
  refine bind_of_looks rfl fun root => ?_
  exact replayTail_memory codec none (others m) t root record

theorem loadAt_interrupted (t : τ) (hrecord : m.recordOf A id = .ok record) {version : Nat}
    (hle : version ≤ record.version) :
    (onInterrupted τ codec others).loadAt A id version (m, t) =
      (do
        let root ← shell A record 0
        let history ← (others m).decoded codec A id (.through version)
        let root ← (root.rehydrate history).mapError .replay
        if root.version ≠ version then
          throw (.inconsistent version root.version)
        return root, (others m, t)) := by
  refine (bind_of_ok (record_interrupted t hrecord)).trans ?_
  simp only [Nat.not_lt.mpr hle, if_false]
  refine bind_of_looks rfl fun root => ?_
  refine bind_of_looks
    (decodedEvents_memory codec none A (others m) t id (.through version)) fun history => ?_
  refine bind_of_looks rfl fun root => ?_
  by_cases hversion : root.version = version
  · simp only [ne_eq, hversion, not_true_eq_false, if_false]
    rfl
  · simp only [ne_eq, hversion, not_false_eq_true, if_true]
    rfl

section Fits

variable (others) {history : List (StoredEvent Id)} (hfits : m.Fits A id record)
  (hkeeps : m.Keeps A.kind id history) (hkeeps' : (others m).Keeps A.kind id history')
  (hrecord' : (others m).recordOf A id = .ok record')
  (hread : history'.mapM (fun e => A.events.decode codec e.kind e.data) = .ok payloads)
include hfits hkeeps hkeeps' hrecord' hread

/-- **Loading fails if others have committed events between the two looks**, and only then. -/
theorem load_of_overlap (t : τ) :
    ((onInterrupted τ codec others).load A id (m, t)).1 =
      if record'.version = record.version then
        .ok { Root.behind A id record.tenant payloads with
          deleted := record.deleted
          deletedAt := record.deletedAt }
      else .error (.inconsistent record.version record'.version) := by
  have hrecord := Memory.recordOf_of_found hfits.found
  obtain ⟨root, hshell⟩ := hfits.shell hkeeps
  obtain ⟨rfl, -⟩ := Memory.shell_eq_ok hshell
  rw [load_interrupted t hrecord, hshell, (hkeeps.of_record hrecord).2.aggregate]
  exact Memory.replayed_against hkeeps' hrecord' hread record.tenant record

/-- **A root of an earlier version is loaded whatever others commit** between the two looks. -/
theorem loadAt_of_overlap (t : τ) {version : Nat} (hle : version ≤ record.version)
    (hgrown : record.version ≤ record'.version) :
    ((onInterrupted τ codec others).loadAt A id version (m, t)).1 =
      .ok (Root.behind A id record.tenant (payloads.take version)) := by
  have hrecord := Memory.recordOf_of_found hfits.found
  obtain ⟨root, hshell⟩ := hfits.shell hkeeps
  obtain ⟨rfl, -⟩ := Memory.shell_eq_ok hshell
  have hend : (payloads.take version).length = version := by
    have hlength : record'.version = history'.length := (hkeeps'.of_record hrecord').2.version
    rw [List.length_take, length_of_mapM hread]
    omega
  rw [loadAt_interrupted t hrecord hle, hshell, (hkeeps.of_record hrecord).2.aggregate]
  show ((others m).decoded codec A id (.through version) >>= fun history =>
    ((Root.bare A id 0 record.tenant).rehydrate history).mapError .replay >>= fun root =>
      if root.version ≠ version then .error (.inconsistent version root.version)
      else .ok root) = _
  rw [← bind_assoc, Memory.rehydrated_through hkeeps' hrecord', mapM_take hread]
  show (if (payloads.take version).length ≠ version then _ else _ :
    Except (LoadError Id) (Root A)) = _
  rw [if_neg (not_not_intro hend)]

end Fits

/-- **Loading while others act.**  Take any store that can be reached with a live aggregate for
which a root can be built, and anything that others do between the look at the record and that at
the events, so that the aggregate is live still and its events can be read.  If they have committed
no event, loading gives the root behind the history, with the mark of deletion of the record.  If
they have, loading fails: it says that the history is inconsistent with the record.  A root of an
earlier version is loaded in either case, and is the one behind as many events as its version says.
-/
theorem load_overlap [Identifier.Unmistakable Id] (operations later : List (Operation Id))
    (codec : Codec) (τ : Type) (t : τ) (A : Aggregate Id) (id : Id) (record record' : Record Id)
    (payloads : List A.Event) :
    let m := (Memory.empty : Memory Id).runAll operations
    let m' := m.runAll later
    let R := onInterrupted τ codec fun m => m.runAll later
    m.Fits A id record → m'.get A.kind id = .found record' →
      (m'.loadEvents A.kind id .all).mapM (fun e => A.events.decode codec e.kind e.data) =
        .ok payloads →
      record.version ≤ record'.version ∧
      (record'.version = record.version → (R.load A id (m, t)).1 =
        .ok { Root.behind A id record.tenant payloads with
          deleted := record.deleted
          deletedAt := record.deletedAt }) ∧
      (record'.version ≠ record.version → (R.load A id (m, t)).1 =
        .error (.inconsistent record.version record'.version)) ∧
      ∀ version, version ≤ record.version → (R.loadAt A id version (m, t)).1 =
        .ok (Root.behind A id record.tenant (payloads.take version)) := by
  intro m m' R hfits hfound hread
  obtain ⟨history, hkeeps⟩ := (Memory.keeps_empty A.kind id).runAll operations
  rw [List.nil_append] at hkeeps
  obtain ⟨more, hkeeps'⟩ := hkeeps.runAll later
  have hrecord' := Memory.recordOf_of_found hfound
  have hversion := hkeeps.version_of_found hfits.found
  have hversion' := hkeeps'.version_of_found hfound
  have hgrown : record.version ≤ record'.version := by
    rw [List.length_append] at hversion'
    omega
  rw [hkeeps'.loadEvents_all hrecord'] at hread
  refine ⟨hgrown, fun heq => ?_, fun hne => ?_, fun version hle =>
    loadAt_of_overlap _ hfits hkeeps hkeeps' hrecord' hread t hle hgrown⟩
  · exact (load_of_overlap _ hfits hkeeps hkeeps' hrecord' hread t).trans (if_pos heq)
  · exact (load_of_overlap _ hfits hkeeps hkeeps' hrecord' hread t).trans (if_neg hne)

/-! ### A counter -/

open Sample

/-- What is done to a counter before it is loaded. -/
def resetBefore : List (Operation String) :=
  [.seedRaw "counter" .nil .epoch "c" "reset" [110, 117, 108, 108]]

/-- A root of that counter on which it is reset once more. -/
def resetAgain : Root counter :=
  (Root.behind counter "c" none [CounterEvent.reset]).apply ⟨.nil, .epoch⟩ CounterEvent.reset

/-- What another client does to it. -/
def resetMeanwhile : List (Operation String) :=
  [.save .json (none : Option (SnapshotBackend Unit String)) () resetAgain none]

/-- The counter can be read before and after. -/
theorem read_resets :
    let m := (Memory.empty : Memory String).runAll resetBefore
    (m.loadEvents "counter" "c" .all).mapM (fun e => counter.events.decode .json e.kind e.data) =
        .ok [CounterEvent.reset] ∧
      ((m.runAll resetMeanwhile).loadEvents "counter" "c" .all).mapM
          (fun e => counter.events.decode .json e.kind e.data) =
        .ok [CounterEvent.reset, CounterEvent.reset] := by
  intro m
  have hdecode := CounterEvent.roundTrips .reset [110, 117, 108, 108] rfl
  exact ⟨mapM_cons_eq_ok.mpr ⟨_, hdecode, [], rfl, rfl⟩, mapM_cons_eq_ok.mpr ⟨_, hdecode, _,
    mapM_cons_eq_ok.mpr ⟨_, hdecode, [], rfl, rfl⟩, rfl⟩⟩

/-- A counter is reset by another client while it is loaded. -/
theorem load_overlap_counter :
    let m := (Memory.empty : Memory String).runAll resetBefore
    let R := onInterrupted Unit .json fun m => m.runAll resetMeanwhile
    m.Fits counter "c" ⟨"c", 1, none, false, none⟩ ∧
      (m.runAll resetMeanwhile).get "counter" "c" = .found ⟨"c", 2, none, false, none⟩ ∧
      (R.load counter "c" (m, ())).1 = .error (.inconsistent 1 2) ∧
      (R.loadAt counter "c" 1 (m, ())).1 =
        .ok (Root.behind counter "c" none [CounterEvent.reset]) := by
  intro m R
  have hfits : m.Fits counter "c" ⟨"c", 1, none, false, none⟩ := ⟨rfl, rfl, rfl⟩
  have hfound : (m.runAll resetMeanwhile).get "counter" "c" = .found ⟨"c", 2, none, false, none⟩ :=
    rfl
  obtain ⟨-, -, hload, hloadAt⟩ := load_overlap resetBefore resetMeanwhile .json Unit () counter "c"
    _ _ _ hfits hfound read_resets.2
  exact ⟨hfits, hfound, hload (by decide), hloadAt 1 (by decide)⟩

/-- A counter is loaded, another client that has loaded it saves it, and it is loaded again; but a
load during the save says that the history is inconsistent. -/
theorem load_overlap_inconsistent :
    let m := (Memory.empty : Memory String).runAll resetBefore
    let R := onMemory .json (none : Option (SnapshotBackend Unit String))
    let others (m : Memory String) := (R.save resetAgain none (m, ())).2.1
    (R.load counter "c" (m, ())).1 = .ok (Root.behind counter "c" none [CounterEvent.reset]) ∧
      (∃ answer, (R.save resetAgain none (m, ())).1 = .ok answer) ∧
      (R.load counter "c" (others m, ())).1 =
        .ok (Root.behind counter "c" none [CounterEvent.reset, CounterEvent.reset]) ∧
      ((onInterrupted Unit .json others).load counter "c" (m, ())).1 =
        .error (.inconsistent 1 2) := by
  intro m R others
  obtain ⟨history, hkeeps⟩ := (Memory.keeps_empty "counter" "c").runAll resetBefore
  obtain ⟨more, hkeeps'⟩ := hkeeps.runAll resetMeanwhile
  have hfits : m.Fits counter "c" ⟨"c", 1, none, false, none⟩ := ⟨rfl, rfl, rfl⟩
  have hfits' : (others m).Fits counter "c" ⟨"c", 2, none, false, none⟩ := ⟨rfl, rfl, rfl⟩
  have hrecord := Memory.recordOf_of_found hfits.found
  have hrecord' := Memory.recordOf_of_found hfits'.found
  have hhistory : m.loadEvents "counter" "c" .all = _ :=
    hkeeps.loadEvents_all (A := counter) hrecord
  have hhistory' : (m.runAll resetMeanwhile).loadEvents "counter" "c" .all = _ :=
    hkeeps'.loadEvents_all (A := counter) hrecord'
  obtain ⟨hread, hread'⟩ := read_resets
  rw [hhistory] at hread
  rw [hhistory'] at hread'
  have hquiet (m : Memory String) :
      R.load counter "c" (m, ()) =
        (onInterrupted Unit .json fun m => m).load counter "c" (m, ()) := rfl
  rw [hquiet, hquiet]
  exact ⟨load_of_overlap (fun m => m) hfits hkeeps hkeeps hrecord hread (), ⟨_, rfl⟩,
    load_of_overlap (fun m => m) hfits' hkeeps' hkeeps' hrecord' hread' (),
    load_of_overlap others hfits hkeeps hkeeps' hrecord' hread' ()⟩

end Repository

end EventSourcing
