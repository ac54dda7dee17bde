import EventSourcing.Proofs.Aggregate.Replay
import EventSourcing.Proofs.Repository.OnMemory

/-!
# Loaded roots

## Main Statements

* `Repository.exists_load_memory` — with any snapshot store, loading is a function of the store and
  of what the snapshot store answers.
* `Memory.shell_of_identified` — whether a root can be built for a record.
* `Memory.loaded_eq_ok` — a root that is loaded is at the version of the record.
-/

namespace EventSourcing

variable {τ Id : Type} [Identifier Id]

omit [Identifier Id] in
/-- A snapshot that is used is not ahead of the version for which one is wanted. -/
theorem Memory.version_le_of_usable {A : Aggregate Id}
    {answer : Except SnapshotError (Option (Snapshot A.State))} {version : Nat}
    {snapshot : Snapshot A.State} (h : Memory.usable answer version = some snapshot) :
    snapshot.version ≤ version := by
  unfold Memory.usable at h
  split at h
  · split at h
    · cases h
      assumption
    · cases h
  · cases h

namespace Repository

/-- Without a record, loading has nothing more to look at. -/
theorem load_of_no_record [Counting] (codec : Codec) (snapshots : Option (SnapshotBackend τ Id))
    {A : Aggregate Id} {m : Memory Id} (t : τ) {id : Id} {e : LoadError Id}
    (h : m.recordOf A id = .error e) : (onMemory codec snapshots).load A id (m, t) =
      (.error e, (m, t)) := by
  have hrecord := record_memory codec snapshots A m t id
  rw [h] at hrecord
  exact bind_of_error hrecord

/-- With a record, loading asks the snapshot store, whatever that answers; what it asks does not
depend on the store nor on how versions are counted, and a snapshot that is used is not ahead of the
record. -/
theorem exists_load_of_record (codec : Codec) (snapshots : Option (SnapshotBackend τ Id))
    (A : Aggregate Id) (t : τ) (id : Id) :
    ∃ (snapshot : Nat → Option (Snapshot A.State)) (t' : τ),
      (∀ version s, snapshot version = some s → s.version ≤ version) ∧
      ∀ [Counting] (m : Memory Id) (record : Record Id), m.recordOf A id = .ok record →
        (onMemory codec snapshots).load A id (m, t) = (m.loaded codec A id snapshot, (m, t')) := by
  obtain ⟨snapshot, t', hversion, husable⟩ :
      ∃ (snapshot : Nat → Option (Snapshot A.State)) (t' : τ),
        (∀ version s, snapshot version = some s → s.version ≤ version) ∧
        ∀ [Counting] (m : Memory Id) version,
          (onMemory codec snapshots).usableSnapshot? A id version (m, t) =
            (.ok (snapshot version), (m, t')) := by
    cases snapshots with
    | none => exact ⟨fun _ => none, t, nofun, fun m version => rfl⟩
    | some backend =>
      exact ⟨_, _, fun _ _ => Memory.version_le_of_usable,
        fun m => usableSnapshot?_memory codec A m t backend id⟩
  refine ⟨snapshot, t', hversion, fun m record hfound => ?_⟩
  have hrecord := record_memory codec snapshots A m t id
  rw [hfound] at hrecord
  rw [Memory.loaded, hfound]
  refine (bind_of_ok hrecord).trans ((bind_of_ok (husable m record.version)).trans ?_)
  exact bind_of_looks rfl fun root => replayTail_memory codec snapshots m t' root record

/-- Loading looks at the store and may ask the snapshot store, whatever that answers; a snapshot
that is used is not ahead of the record. -/
theorem exists_load_memory [Counting] (codec : Codec) (snapshots : Option (SnapshotBackend τ Id))
    (A : Aggregate Id) (m : Memory Id) (t : τ) (id : Id) :
    ∃ (snapshot : Nat → Option (Snapshot A.State)) (t' : τ),
      (∀ version s, snapshot version = some s → s.version ≤ version) ∧
      (onMemory codec snapshots).load A id (m, t) = (m.loaded codec A id snapshot, (m, t')) := by
  cases hrecord : m.recordOf A id with
  | error e =>
    refine ⟨fun _ => none, t, nofun, (load_of_no_record codec snapshots t hrecord).trans ?_⟩
    rw [Memory.loaded, hrecord]
    rfl
  | ok record =>
    obtain ⟨snapshot, t', hversion, hload⟩ := exists_load_of_record codec snapshots A t id
    exact ⟨snapshot, t', hversion, hload m record hrecord⟩

end Repository

attribute [local instance] Counting.exact

namespace Memory

variable {codec : Codec} {A : Aggregate Id} {id : Id} {m : Memory Id}

theorem recordOf_eq_ok {record : Record Id} :
    m.recordOf A id = .ok record ↔
      ∃ stream, m.slot? A.kind id = some (.live stream) ∧ stream.record = record := by
  rw [recordOf, get]
  cases m.slot? A.kind id with
  | none => simp
  | some slot =>
    cases slot with
    | live stream => simp
    | archived encoding document => simp

theorem recordOf_of_found {record : Record Id} (h : m.get A.kind id = .found record) :
    m.recordOf A id = .ok record := by
  rw [recordOf, h]

/-- A save that is accepted leaves its record behind, unless there is no such aggregate. -/
theorem recordOf_save_ok {record : Record Id} {expected version : Nat} {events : List NewEvent}
    {m' : Memory Id} (hsave : m.save A.kind record expected events = (.ok version, m')) :
    m'.recordOf A record.aggregate = .ok record ∨
      m' = m ∧ m.slot? A.kind record.aggregate = none := by
  have hsaved := saved_save A.kind record expected events m
  rw [hsave] at hsaved
  cases hsaved with
  | nothing hslot _ _ _ => exact .inr ⟨rfl, hslot⟩
  | first => exact .inl (recordOf_eq_ok.mpr ⟨_, by rw [slot?_setSlot_self], rfl⟩)
  | behind => exact .inl (recordOf_eq_ok.mpr ⟨_, by rw [slot?_setSlot_self], rfl⟩)

theorem shell_eq_ok {record : Record Id} {version : Nat} {root : Root A}
    (h : Repository.shell A record version = .ok root) :
    root = Root.bare A record.aggregate version record.tenant ∧
      Identifier.isEmpty record.aggregate = false := by
  obtain ⟨-, hidentified, rfl⟩ := Root.shell_eq_ok.mp (mapError_eq_ok.mp h)
  exact ⟨rfl, hidentified⟩

/-- Whether a root can be built does not depend on its version. -/
theorem shell_eq (record : Record Id) (version : Nat) :
    (Repository.shell A record version : Except (LoadError Id) (Root A)) =
      (Repository.shell A record 0).map fun _ =>
        Root.bare A record.aggregate version record.tenant := by
  simp only [Repository.shell, Root.shell, Option.isSome_some]
  by_cases hfits : (ShellShape.mk true record.tenant.isSome).fits A.tenantScoped = true
  · by_cases hempty : Identifier.isEmpty record.aggregate = true
    · simp only [hfits, hempty, if_true]
      rfl
    · simp only [hfits, hempty, if_true]
      rfl
  · simp only [hfits]
    rfl

/-- Whether a root can be built for a record whose aggregate has an identifier. -/
theorem shell_of_identified {record : Record Id}
    (h : Identifier.isEmpty record.aggregate = false) :
    (Repository.shell A record 0 : Except (LoadError Id) (Root A)) =
      if record.tenant.isSome = A.tenantScoped then
        .ok (Root.bare A record.aggregate 0 record.tenant)
      else .error (.construction (.missingConstructor A.kind ⟨true, record.tenant.isSome⟩)) := by
  rw [Repository.shell, Root.shell]
  by_cases htenant : record.tenant.isSome = A.tenantScoped
  · have hfits : (ShellShape.mk true record.tenant.isSome).fits A.tenantScoped = true := by
      rw [ShellShape.fits, htenant, beq_self_eq_true]
    rw [if_pos htenant]
    simp only [Option.isSome_some, hfits, h, if_true]
    rfl
  · have hfits : (ShellShape.mk true record.tenant.isSome).fits A.tenantScoped = false :=
      beq_eq_false_iff_ne.mpr htenant
    rw [if_neg htenant]
    simp only [Option.isSome_some, hfits]
    rfl

/-- What is replayed on a root changes its state and version, and replaces its mark of deletion. -/
theorem replayed_eq_ok {root root' : Root A} {record : Record Id}
    (h : m.replayed codec root record = .ok root') :
    root.pending = [] ∧ root'.version = record.version ∧ root'.id = root.id ∧
      root'.tenant = root.tenant ∧ root'.pending = [] ∧ root'.deleted = record.deleted ∧
      root'.deletedAt = record.deletedAt := by
  obtain ⟨history, -, h⟩ := bind_eq_ok.mp h
  obtain ⟨behind, hbehind, h⟩ := bind_eq_ok.mp h
  obtain ⟨hpending, -, rfl⟩ := Root.rehydrate_eq_ok.mp (mapError_eq_ok.mp hbehind)
  by_cases hversion : (root.replayed history).version = record.version
  · simp only [ne_eq, hversion, not_true_eq_false, if_false] at h
    cases h
    exact ⟨hpending, rfl, root.id_replayed history, root.tenant_replayed history,
      (root.pending_replayed history).trans hpending, rfl, rfl⟩
  · simp only [ne_eq, hversion, not_false_eq_true, if_true] at h
    cases h

/-- Nothing is pending on a root of an earlier version. -/
theorem pending_of_loadedAt {version : Nat} {root : Root A}
    (h : m.loadedAt codec A id version = .ok root) : root.pending = [] := by
  obtain ⟨record, -, h⟩ := bind_eq_ok.mp h
  by_cases hlater : record.version < version
  · simp only [hlater, if_true] at h
    cases h
  simp only [hlater, if_false] at h
  obtain ⟨base, -, h⟩ := bind_eq_ok.mp h
  obtain ⟨history, -, h⟩ := bind_eq_ok.mp h
  obtain ⟨root', hroot', h⟩ := bind_eq_ok.mp h
  obtain ⟨hpending, -, rfl⟩ := Root.rehydrate_eq_ok.mp (mapError_eq_ok.mp hroot')
  by_cases hversion : (base.replayed history).version = version
  · simp only [ne_eq, hversion, not_true_eq_false, if_false] at h
    cases h
    exact (base.pending_replayed history).trans hpending
  · simp only [ne_eq, hversion, not_false_eq_true, if_true] at h
    cases h

/-- With a snapshot or without, one starts from a shell for the record. -/
theorem base_eq_shell (record : Record Id) (snapshot : Option (Snapshot A.State)) :
    (Repository.base A record snapshot : Except (LoadError Id) (Root A)) =
      (Repository.shell A record ((snapshot.map Snapshot.version).getD 0)).map fun root =>
        { root with state := snapshot.map Snapshot.data } := by
  cases snapshot with
  | some snapshot => rfl
  | none =>
    show (Repository.shell A record 0 : Except (LoadError Id) (Root A)) =
      (Repository.shell A record 0).map fun root => { root with state := none }
    cases hshell : (Repository.shell A record 0 : Except (LoadError Id) (Root A)) with
    | error e => rfl
    | ok root =>
      obtain ⟨rfl, -⟩ := shell_eq_ok hshell
      rfl

theorem base_eq_ok {record : Record Id} {snapshot : Option (Snapshot A.State)} {root : Root A}
    (h : Repository.base A record snapshot = .ok root) :
    root.id = record.aggregate ∧ root.tenant = record.tenant ∧
      Identifier.isEmpty record.aggregate = false ∧ root.pending = [] ∧
      root.version = (snapshot.map Snapshot.version).getD 0 := by
  rw [base_eq_shell] at h
  obtain ⟨shell, hshell, rfl⟩ := map_eq_ok.mp h
  obtain ⟨rfl, hidentified⟩ := shell_eq_ok hshell
  exact ⟨rfl, rfl, hidentified, rfl, rfl⟩

/-- **A root that is loaded is at the version of the record**, and nothing is pending. -/
theorem loaded_eq_ok {snapshot : Nat → Option (Snapshot A.State)} {root : Root A}
    (h : m.loaded codec A id snapshot = .ok root) :
    ∃ record, m.recordOf A id = .ok record ∧ root.id = record.aggregate ∧
      Identifier.isEmpty record.aggregate = false ∧ root.version = record.version ∧
      root.tenant = record.tenant ∧ root.pending = [] := by
  obtain ⟨record, hrecord, h⟩ := bind_eq_ok.mp h
  obtain ⟨base, hbase, h⟩ := bind_eq_ok.mp h
  obtain ⟨hid, htenant, hidentified, -⟩ := base_eq_ok hbase
  obtain ⟨-, hversion, hid', htenant', hpending, -⟩ := replayed_eq_ok h
  exact ⟨record, hrecord, hid'.trans hid, hidentified, hversion, htenant'.trans htenant, hpending⟩

end Memory

end EventSourcing
