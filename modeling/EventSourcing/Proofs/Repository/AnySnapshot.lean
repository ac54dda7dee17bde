import EventSourcing.Proofs.Repository.Replay
import EventSourcing.Proofs.Sample.Counter
import EventSourcing.Proofs.Store.Reachable

/-!
# Loading with any snapshot

A snapshot store may keep anything: no snapshot of an aggregate, one that cannot be read, one that
is ahead of the aggregate, or one that has nothing to do with its history.  Loading takes a snapshot
that can be read and is not ahead at its word, and folds onto its data the events behind its
version; with any other one it does what it does without snapshots.  In no case does it fail because
of the snapshot, and events that are not behind the snapshot need not be readable.

## Main Definitions

* `SnapshotMemory.Useless`, `SnapshotMemory.Useful` — whether the snapshot of an aggregate is used
  to load it.
* `Root.beyond` — the root behind a snapshot and further events.

## Main Statements

* `SnapshotMemory.useless_or_useful` — a snapshot is either.
* `Repository.load_of_useless` — loading with a snapshot that is of no use.
* `Memory.loaded_of_snapshot` — loading with any other one.
* `Repository.load_any_snapshot` — both, for any store that can be reached and any snapshot store.
-/

namespace EventSourcing

attribute [local instance] Counting.exact

variable {Id : Type} [Identifier Id] {A : Aggregate Id} {codec : Codec} {id : Id} {m : Memory Id}
  {t : SnapshotMemory Id}

/-! ### Snapshots that are used -/

namespace SnapshotMemory

/-- Why no snapshot is used to load an aggregate. -/
inductive Useless (t : SnapshotMemory Id) (A : Aggregate Id) (id : Id) (m : Memory Id) : Prop where
  | notFound (hget : m.get A.kind id = .notFound)
  | archived (hget : m.get A.kind id = .archived)
  | absent (hkept : t.find? A.kind id = none)
  | unreadable (s : Snapshot Json) (hkept : t.find? A.kind id = some s) (failure : Json.Failure)
      (hread : A.form.read s.data = .error failure)
  | ahead (s : Snapshot Json) (hkept : t.find? A.kind id = some s) (record : Record Id)
      (hfound : m.get A.kind id = .found record) (hahead : record.version < s.version)

/-- The snapshot with which an aggregate is loaded, what is read of it, and the record. -/
structure Useful (t : SnapshotMemory Id) (A : Aggregate Id) (id : Id) (m : Memory Id)
    (record : Record Id) (s : Snapshot Json) (data : A.State) : Prop where
  found : m.get A.kind id = .found record
  kept : t.find? A.kind id = some s
  read : A.form.read s.data = .ok data
  version : s.version ≤ record.version

/-- Either no snapshot is used or there is one that is. -/
theorem useless_or_useful (t : SnapshotMemory Id) (A : Aggregate Id) (id : Id) (m : Memory Id) :
    t.Useless A id m ∨ ∃ record s data, t.Useful A id m record s data := by
  cases hget : m.get A.kind id with
  | notFound => exact .inl (.notFound hget)
  | archived => exact .inl (.archived hget)
  | found record =>
    cases hkept : t.find? A.kind id with
    | none => exact .inl (.absent hkept)
    | some s =>
      cases hread : A.form.read s.data with
      | error failure => exact .inl (.unreadable s hkept failure hread)
      | ok data =>
        rcases Nat.lt_or_ge record.version s.version with hahead | hversion
        · exact .inl (.ahead s hkept record hget hahead)
        · exact .inr ⟨record, s, data, hget, hkept, hread, hversion⟩

/-- What a repository gets of a snapshot that is of no use. -/
theorem usable_of_useless (h : t.Useless A id m) {record : Record Id}
    (hfound : m.get A.kind id = .found record) :
    Memory.usable (t.load A.form A.kind id) record.version = none := by
  cases h with
  | notFound hget | archived hget =>
    rw [hfound] at hget
    cases hget
  | absent hkept => simp only [load, hkept, Memory.usable]
  | unreadable s hkept failure hread =>
    simp only [load, hkept, hread, Memory.usable]
  | ahead s hkept record' hfound' hahead =>
    rw [hfound] at hfound'
    cases hfound'
    simp only [load, hkept]
    cases A.form.read s.data with
    | error failure => rfl
    | ok data => exact if_neg (Nat.not_le_of_gt hahead)

/-- What it gets of one that is used. -/
theorem Useful.usable_eq {record : Record Id} {s : Snapshot Json} {data : A.State}
    (h : t.Useful A id m record s data) :
    Memory.usable (t.load A.form A.kind id) record.version = some ⟨s.version, data⟩ := by
  simp only [load, h.kept, h.read]
  exact if_pos h.version

end SnapshotMemory

/-! ### Loading -/

/-- The root behind a snapshot and the events with the given payloads. -/
def Root.beyond (A : Aggregate Id) (id : Id) (tenant : Option String) (s : Snapshot A.State)
    (payloads : List A.Event) : Root A :=
  { Root.bare A id (s.version + payloads.length) tenant with
    state := some (A.fold s.data payloads) }

omit [Identifier Id] in
theorem Root.replayed_beyond (id : Id) (tenant : Option String) (s : Snapshot A.State)
    (es : List (Envelope Id A.Event)) :
    (Root.beyond A id tenant s []).replayed es =
      Root.beyond A id tenant s (es.map Envelope.payload) := by
  cases es with
  | nil => rfl
  | cons e rest =>
    rw [beyond, beyond, List.map_cons, List.length_cons, List.length_map]
    rfl

namespace Memory

variable {history : List (StoredEvent Id)} {record : Record Id}

/-- The events behind a version up to that of the record are the rest of the history. -/
theorem Keeps.filter_behind (hkeeps : m.Keeps A.kind id history)
    (hrecord : m.recordOf A id = .ok record) (version : Nat) :
    ((m.loadEvents A.kind id .all).filter fun e =>
      version < e.version ∧ e.version ≤ record.version) = history.drop version := by
  have hstream := (hkeeps.of_record hrecord).2
  -- The upper bound leaves out no event, since the record is at the last one.
  have hlast (e : StoredEvent Id) (he : e ∈ history) : e.version ≤ record.version := by
    have hmem := List.mem_map_of_mem (f := StoredEvent.version) he
    rw [hstream.versions, List.mem_range'_1] at hmem
    have hrecordVersion : record.version = history.length := hstream.version
    have hlength : (Stream.mk record history).events.length = history.length := rfl
    omega
  have hsince := filter_since hstream.versions version (Nat.zero_le _)
  rw [hkeeps.loadEvents_all hrecord, ← Nat.sub_zero version, ← hsince]
  refine List.filter_congr fun e he => ?_
  rw [Window.contains_since]
  simp [hlast e he]

/-- Of a snapshot only what it is at the version of the record matters. -/
theorem loaded_congr (hrecord : m.recordOf A id = .ok record)
    {snapshot snapshot' : Nat → Option (Snapshot A.State)}
    (h : snapshot record.version = snapshot' record.version) :
    m.loaded codec A id snapshot = m.loaded codec A id snapshot' := by
  rw [loaded, loaded, hrecord]
  show (Repository.base A record (snapshot record.version) >>= _) = _
  rw [h]
  rfl

/-- One starts from the snapshot if a root can be built at all. -/
theorem base_of_snapshot (record : Record Id) (s : Snapshot A.State) :
    (Repository.base A record (some s) : Except (LoadError Id) (Root A)) =
      (Repository.shell A record 0).map fun _ =>
        Root.beyond A record.aggregate record.tenant s [] := by
  show (Repository.shell A record s.version).map _ = _
  rw [shell_eq]
  cases (Repository.shell A record 0 : Except (LoadError Id) (Root A)) <;> rfl

/-- **The root that is loaded with a snapshot** is the one behind the snapshot and the rest of the
history. -/
theorem loaded_of_snapshot (hkeeps : m.Keeps A.kind id history)
    (hrecord : m.recordOf A id = .ok record) {snapshot : Nat → Option (Snapshot A.State)}
    {s : Snapshot A.State} (hsnapshot : snapshot record.version = some s)
    (hversion : s.version ≤ record.version) :
    m.loaded codec A id snapshot = (do
      let _ ← (Repository.shell A record 0 : Except (LoadError Id) (Root A))
      (((history.drop s.version).mapM fun e => A.events.decode codec e.kind e.data).mapError
        .eventDecode).map fun payloads =>
          { Root.beyond A id record.tenant s payloads with
            deleted := record.deleted
            deletedAt := record.deletedAt }) := by
  have haggregate : record.aggregate = id := (hkeeps.of_record hrecord).2.aggregate
  rw [loaded, hrecord]
  show (Repository.base A record (snapshot record.version) >>= _) = _
  rw [hsnapshot, base_of_snapshot, haggregate]
  cases (Repository.shell A record 0 : Except (LoadError Id) (Root A)) with
  | error failure => rfl
  | ok shell =>
    show m.replayed codec (Root.beyond A id record.tenant s []) record = Except.map _ _
    rw [replayed_eq hkeeps hrecord rfl rfl hversion, ← map_payload_mapM_envelope]
    show (Except.mapError _ ((history.drop s.version).mapM _)).map _ = _
    cases (history.drop s.version).mapM (StoredEvent.envelope A codec) with
    | error failure => rfl
    | ok es =>
      show Except.ok { (Root.beyond A id record.tenant s []).replayed es with
        deleted := record.deleted, deletedAt := record.deletedAt } = _
      rw [Root.replayed_beyond]
      rfl

/-- When a root is loaded with a snapshot, and which one. -/
theorem loaded_of_snapshot_eq_ok (hkeeps : m.Keeps A.kind id history)
    (hrecord : m.recordOf A id = .ok record) {snapshot : Nat → Option (Snapshot A.State)}
    {s : Snapshot A.State} (hsnapshot : snapshot record.version = some s)
    (hversion : s.version ≤ record.version) {root : Root A} :
    m.loaded codec A id snapshot = .ok root ↔
      record.tenant.isSome = A.tenantScoped ∧ Identifier.isEmpty id = false ∧
        ∃ payloads, (history.drop s.version).mapM
            (fun e => A.events.decode codec e.kind e.data) = .ok payloads ∧
          root =
            { Root.bare A id record.version record.tenant with
              state := some (A.fold s.data payloads)
              deleted := record.deleted
              deletedAt := record.deletedAt } := by
  have hstream := (hkeeps.of_record hrecord).2
  have haggregate : record.aggregate = id := hstream.aggregate
  have hend {payloads : List A.Event} (h : (history.drop s.version).mapM
      (fun e => A.events.decode codec e.kind e.data) = .ok payloads) :
      record.version = s.version + payloads.length := by
    have hlength := length_of_mapM h
    have hrecordVersion : record.version = history.length := hstream.version
    rw [List.length_drop] at hlength
    omega
  rw [loaded_of_snapshot hkeeps hrecord hsnapshot hversion, bind_eq_ok]
  constructor
  · rintro ⟨shell, hshell, h⟩
    obtain ⟨htenant, hidentified, -⟩ := Root.shell_eq_ok.mp (mapError_eq_ok.mp hshell)
    rw [haggregate] at hidentified
    obtain ⟨payloads, hpayloads, rfl⟩ := map_eq_ok.mp h
    have hpayloads := mapError_eq_ok.mp hpayloads
    exact ⟨htenant, hidentified, payloads, hpayloads, by rw [hend hpayloads]; rfl⟩
  · rintro ⟨htenant, hidentified, payloads, hpayloads, rfl⟩
    rw [← haggregate] at hidentified
    have hshell : (Repository.shell A record 0 : Except (LoadError Id) (Root A)) =
        .ok (Root.bare A record.aggregate 0 record.tenant) :=
      mapError_eq_ok.mpr (Root.shell_eq_ok.mpr ⟨htenant, hidentified, rfl⟩)
    exact ⟨_, hshell, map_eq_ok.mpr ⟨payloads, mapError_eq_ok.mpr hpayloads, by
      rw [hend hpayloads]; rfl⟩⟩

end Memory

namespace Repository

/-- Loading with a snapshot store in memory changes neither store. -/
theorem load_withSnapshots (codec : Codec) (A : Aggregate Id) (m : Memory Id)
    (t : SnapshotMemory Id) (id : Id) :
    (onMemory codec (some (SnapshotMemory.backend Id))).load A id (m, t) =
      (m.loaded codec A id (Memory.usable (t.load A.form A.kind id)), (m, t)) :=
  load_memory codec _ A m t id _ fun version =>
    usableSnapshot?_memory codec A m t (SnapshotMemory.backend Id) id version

/-- **With a snapshot that is of no use**, loading does what it does without snapshots. -/
theorem load_of_useless (codec : Codec) (h : t.Useless A id m) :
    (onMemory codec (some (SnapshotMemory.backend Id))).load A id (m, t) =
      (onMemory codec none).load A id (m, t) := by
  have hplain := load_memory codec (none : Option (SnapshotBackend (SnapshotMemory Id) Id)) A m t id
    (fun _ => none) fun _ => rfl
  have hnone {e : LoadError Id} (h : m.recordOf A id = .error e) :
      (onMemory codec (some (SnapshotMemory.backend Id))).load A id (m, t) =
        (onMemory codec none).load A id (m, t) := by
    rw [load_of_no_record codec _ t h, load_of_no_record codec _ t h]
  cases hget : m.get A.kind id with
  | notFound => exact hnone (by rw [Memory.recordOf, hget])
  | archived => exact hnone (by rw [Memory.recordOf, hget])
  | found record =>
    have hloaded : m.loaded codec A id (Memory.usable (t.load A.form A.kind id)) =
        m.loaded codec A id fun _ => none :=
      Memory.loaded_congr (Memory.recordOf_of_found hget) (SnapshotMemory.usable_of_useless h hget)
    rw [load_withSnapshots, hplain, hloaded]

variable [Identifier.Unmistakable Id]

/-- **Loading copes with any snapshot.**  Let a store be reached in any way, and let a snapshot
store keep whatever it likes.  Loading changes neither of them.  If no snapshot is used, because
there is no live aggregate, no snapshot, none that can be read, or one that is ahead of the record,
loading does what it does without snapshots.  Otherwise it succeeds just if the record has a tenant
as the kind asks for, the aggregate has an identifier, and the events behind the version of the
snapshot up to that of the record can be read; and then the root is at the version of the record,
nothing is pending on it, the tenant and the mark of deletion are those of the record, and the state
is what these events make of the data of the snapshot. -/
theorem load_any_snapshot (operations : List (Operation Id)) (codec : Codec) (A : Aggregate Id)
    (id : Id) (t : SnapshotMemory Id) :
    let m := (Memory.empty : Memory Id).runAll operations
    let cached := (onMemory codec (some (SnapshotMemory.backend Id))).load A id (m, t)
    cached.2 = (m, t) ∧
      (t.Useless A id m ∨ ∃ record s data, t.Useful A id m record s data) ∧
      (t.Useless A id m → cached = (onMemory codec none).load A id (m, t)) ∧
      ∀ record s data, t.Useful A id m record s data → ∀ root,
        cached.1 = .ok root ↔
          record.tenant.isSome = A.tenantScoped ∧ Identifier.isEmpty id = false ∧
            ∃ payloads, ((m.loadEvents A.kind id .all).filter fun e =>
                s.version < e.version ∧ e.version ≤ record.version).mapM
                  (fun e => A.events.decode codec e.kind e.data) = .ok payloads ∧
              root =
                { Root.bare A id record.version record.tenant with
                  state := some (A.fold data payloads)
                  deleted := record.deleted
                  deletedAt := record.deletedAt } := by
  intro m cached
  obtain ⟨history, hkeeps⟩ := (Memory.keeps_empty A.kind id).runAll operations
  have hcached : cached = _ := load_withSnapshots codec A m t id
  refine ⟨by rw [hcached], t.useless_or_useful A id m, load_of_useless codec, ?_⟩
  intro record s data huseful root
  have hrecord := Memory.recordOf_of_found huseful.found
  rw [hkeeps.filter_behind hrecord, hcached]
  exact Memory.loaded_of_snapshot_eq_ok hkeeps hrecord huseful.usable_eq huseful.version

open Sample in
/-- A counter whose first event cannot be read.  With a snapshot behind it the counter is loaded all
the same; with one that is ahead of the counter it is not, as without snapshots. -/
theorem load_any_snapshot_counter :
    let garbled : Operation String := .call (.save "counter" ⟨"c", 2, none, false, none⟩ 0
      [⟨.nil, "reset", 1, [], .epoch, .unknown⟩,
        ⟨.nil, "reset", 2, [110, 117, 108, 108], .epoch, .unknown⟩])
    let m := (Memory.empty : Memory String).runAll [garbled]
    let s (version : Nat) : Snapshot Json := ⟨version, .obj [("resets", .int 4), ("value", .int 7)]⟩
    let t (version : Nat) := (SnapshotMemory.empty .never).put "counter" "c" (s version)
    let R := onMemory .json (some (SnapshotMemory.backend String))
    (t 1).Useful counter "c" m ⟨"c", 2, none, false, none⟩ (s 1) ⟨7, 4⟩ ∧
      (R.load counter "c" (m, t 1)).1 =
        .ok { Root.bare counter "c" 2 none with state := some (⟨0, 5⟩ : Counter) } ∧
      (t 3).Useless counter "c" m ∧
      R.load counter "c" (m, t 3) = (onMemory .json none).load counter "c" (m, t 3) := by
  intro garbled m s t R
  have hdecode := CounterEvent.roundTrips .reset [110, 117, 108, 108] rfl
  have hkept (version : Nat) : (t version).find? "counter" "c" = some (s version) := by
    rw [SnapshotMemory.find?_put, if_pos rfl]
  have huseful : (t 1).Useful counter "c" m ⟨"c", 2, none, false, none⟩ (s 1) ⟨7, 4⟩ :=
    ⟨rfl, hkept 1, rfl, by decide⟩
  have huseless : (t 3).Useless counter "c" m := .ahead (s 3) (hkept 3) _ rfl (by decide)
  obtain ⟨-, -, -, hload⟩ := load_any_snapshot [garbled] .json counter "c" (t 1)
  obtain ⟨-, -, hplain, -⟩ := load_any_snapshot [garbled] .json counter "c" (t 3)
  refine ⟨huseful, (hload _ _ _ huseful _).mpr ⟨rfl, by decide, [CounterEvent.reset], ?_, rfl⟩,
    huseless, hplain huseless⟩
  exact mapM_cons_eq_ok.mpr ⟨_, hdecode, [], rfl, rfl⟩

end Repository

end EventSourcing
