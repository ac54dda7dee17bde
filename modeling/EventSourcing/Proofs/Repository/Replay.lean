import EventSourcing.Proofs.Aggregate.Replay
import EventSourcing.Proofs.Repository.Load

/-!
# Reading a history

What a repository reads of a history is counted from one without a gap and belongs to the aggregate,
so it can always be replayed; loading fails only because an event cannot be read or no root can be
built.  The window of versions that is read is a part of the history: what is behind a version, or
what leads up to it.

## Main Definitions

* `Aggregate.Begins` — a history begins with events that can be read.

## Main Statements

* `Memory.replayed_eq` — replaying the rest of a history on a root.
* `Memory.replayed_behind` — the same on a root that is behind the front of that history.
* `Memory.loaded_eq`, `Memory.loadedAt_eq` — the present root and that of an earlier version.
-/

namespace EventSourcing

attribute [local instance] Counting.exact

variable {Id : Type} {A : Aggregate Id} {codec : Codec}

/-! ### Histories -/

/-- A history begins with events that can be read, and these are their payloads. -/
def Aggregate.Begins (A : Aggregate Id) (codec : Codec) (history : List (StoredEvent Id))
    (payloads : List A.Event) : Prop :=
  (history.take payloads.length).mapM (fun e => A.events.decode codec e.kind e.data) = .ok payloads

namespace Aggregate.Begins

variable {history history' : List (StoredEvent Id)} {payloads : List A.Event}

theorem nil (history : List (StoredEvent Id)) : A.Begins codec history [] := rfl

theorem length_le (h : A.Begins codec history payloads) : payloads.length ≤ history.length := by
  have hlength := length_of_mapM h
  rw [List.length_take] at hlength
  omega

/-- A history that has grown begins as before. -/
theorem mono (h : A.Begins codec history payloads) (hgrow : history <+: history') :
    A.Begins codec history' payloads := by
  obtain ⟨more, rfl⟩ := hgrow
  rw [Begins, List.take_append_of_le_length h.length_le]
  exact h

theorem of_whole
    (h : history.mapM (fun e => A.events.decode codec e.kind e.data) = .ok payloads) :
    A.Begins codec history payloads := by
  rw [Begins, List.take_of_length_le (Nat.le_of_eq (length_of_mapM h).symm)]
  exact h

/-- If all of a history can be read, then so can it with a batch behind it that can be read. -/
theorem append (h : A.Begins codec history payloads) (hlength : payloads.length = history.length)
    {batch : List (StoredEvent Id)} {more : List A.Event}
    (hbatch : batch.mapM (fun e => A.events.decode codec e.kind e.data) = .ok more) :
    A.Begins codec (history ++ batch) (payloads ++ more) := by
  have hmore := length_of_mapM hbatch
  rw [Begins, List.take_of_length_le (by simp only [List.length_append]; omega)]
  rw [Begins, List.take_of_length_le (Nat.le_of_eq hlength.symm)] at h
  rw [mapM_append_of_ok h, hbatch]
  rfl

end Aggregate.Begins

/-- The event of a stored one has its payload and its circumstances. -/
theorem StoredEvent.envelope_eq_ok {e : StoredEvent Id} {e' : Envelope Id A.Event}
    (h : e.envelope A codec = .ok e') :
    A.events.decode codec e.kind e.data = .ok e'.payload ∧ e'.version = some e.version ∧
      e'.aggregate = e.aggregate := by
  obtain ⟨payload, hpayload, h⟩ := bind_eq_ok.mp h
  cases h
  exact ⟨hpayload, rfl, rfl⟩

/-- The payloads of the events that are read are those that are read of the stored events. -/
theorem map_payload_mapM_envelope (stored : List (StoredEvent Id)) :
    (stored.mapM (StoredEvent.envelope A codec)).map (List.map Envelope.payload) =
      stored.mapM fun e => A.events.decode codec e.kind e.data := by
  induction stored with
  | nil => rfl
  | cons e rest ih =>
    rw [List.mapM_cons, List.mapM_cons, ← ih, StoredEvent.envelope]
    cases A.events.decode codec e.kind e.data with
    | error failure => rfl
    | ok payload =>
      cases rest.mapM (StoredEvent.envelope A codec) with
      | error failure => rfl
      | ok es => rfl

/-- Stored events are read as events exactly if their payloads can be read. -/
theorem mapM_envelope {stored : List (StoredEvent Id)} {payloads : List A.Event}
    (h : stored.mapM (fun e => A.events.decode codec e.kind e.data) = .ok payloads) :
    ∃ es, stored.mapM (StoredEvent.envelope A codec) = .ok es ∧
      es.map Envelope.payload = payloads := by
  rw [← map_payload_mapM_envelope] at h
  cases hes : stored.mapM (StoredEvent.envelope A codec) with
  | error failure =>
    rw [hes] at h
    cases h
  | ok es =>
    rw [hes] at h
    exact ⟨es, rfl, Except.ok.inj h⟩

theorem payload_of_mapM_envelope {stored : List (StoredEvent Id)} {es : List (Envelope Id A.Event)}
    (h : stored.mapM (StoredEvent.envelope A codec) = .ok es) :
    stored.mapM (fun e => A.events.decode codec e.kind e.data) = .ok (es.map Envelope.payload) := by
  rw [← map_payload_mapM_envelope, h]
  rfl

/-- Stored events of an aggregate that are counted on from a version can be replayed behind it. -/
theorem Root.replayFault?_eq_none [Identifier Id] {id : Id} {version : Nat}
    {stored : List (StoredEvent Id)} {es : List (Envelope Id A.Event)}
    (hversions : stored.map StoredEvent.version = List.range' (version + 1) stored.length)
    (haggregates : ∀ e ∈ stored, e.aggregate = id)
    (h : stored.mapM (StoredEvent.envelope A codec) = .ok es) :
    Root.replayFault? id version es = none := by
  induction stored generalizing version es with
  | nil =>
    cases h
    rfl
  | cons e rest ih =>
    obtain ⟨e', he, es', hrest, rfl⟩ := mapM_cons_eq_ok.mp h
    obtain ⟨-, hversion, haggregate⟩ := StoredEvent.envelope_eq_ok he
    rw [List.length_cons, List.range'_succ, List.map_cons, List.cons.injEq] at hversions
    rw [replayFault?, haggregate, hversion, hversions.1,
      if_neg (not_not_intro (haggregates e List.mem_cons_self)), Counting.plus_exact,
      if_neg (not_not_intro rfl)]
    exact ih hversions.2 (fun e he => haggregates e (List.mem_cons_of_mem _ he)) hrest

/-! ### Windows -/

section Windows

variable {events : List (StoredEvent Id)} {first : Nat}

/-- The events after a version are those behind the ones up to it. -/
theorem filter_since (h : events.map StoredEvent.version = List.range' (first + 1) events.length)
    (version : Nat) (hfirst : first ≤ version) :
    events.filter (fun e => (Window.since version).contains e.version) =
      events.drop (version - first) := by
  induction events generalizing first with
  | nil => simp
  | cons e rest ih =>
    rw [List.map_cons, List.length_cons, List.range'_succ, List.cons.injEq] at h
    rw [List.filter_cons, Window.contains_since, h.1]
    by_cases hversion : version = first
    · have hrest : rest.filter (fun e => (Window.since version).contains e.version) = rest := by
        rw [List.filter_eq_self]
        intro e' he'
        have hmem := List.mem_map_of_mem (f := StoredEvent.version) he'
        rw [h.2, List.mem_range'_1] at hmem
        rw [Window.contains_since, decide_eq_true_eq]
        omega
      rw [hrest, hversion, Nat.sub_self]
      simp
    · have hsub : version - first = version - (first + 1) + 1 := by omega
      rw [if_neg (by simp; omega), ih h.2 (by omega), hsub, List.drop_succ_cons]

/-- The events up to a version are as many as it says. -/
theorem filter_through (h : events.map StoredEvent.version = List.range' (first + 1) events.length)
    (version : Nat) :
    events.filter (fun e => (Window.through version).contains e.version) =
      events.take (version - first) := by
  induction events generalizing first with
  | nil => simp
  | cons e rest ih =>
    rw [List.map_cons, List.length_cons, List.range'_succ, List.cons.injEq] at h
    rw [List.filter_cons, Window.contains_through, h.1, ih h.2]
    by_cases hversion : first + 1 ≤ version
    · have hsub : version - first = version - (first + 1) + 1 := by omega
      rw [if_pos (by simpa using hversion), hsub, List.take_succ_cons]
    · have hsub : version - first = 0 := by omega
      have hsub' : version - (first + 1) = 0 := by omega
      rw [if_neg (by simpa using hversion), hsub, hsub', List.take_zero, List.take_zero]

/-- The events behind the first ones are counted on from these. -/
theorem versions_drop (h : events.map StoredEvent.version = List.range' 1 events.length)
    (count : Nat) : (events.drop count).map StoredEvent.version =
      List.range' (count + 1) (events.drop count).length := by
  rw [List.map_drop, h, List.drop_range', List.length_drop, Nat.mul_one, Nat.add_comm]

/-- The first events are counted from one. -/
theorem versions_take (h : events.map StoredEvent.version = List.range' 1 events.length)
    (count : Nat) : (events.take count).map StoredEvent.version =
      List.range' 1 (events.take count).length := by
  rw [List.map_take, h, List.length_take]
  rcases Nat.le_total count events.length with hle | hle
  · rw [List.take_range'_of_length_ge hle, Nat.min_eq_left hle]
  · rw [List.take_range'_of_length_le hle, Nat.min_eq_right hle]

end Windows

/-! ### Replaying -/

namespace Memory

variable [Identifier Id] {m : Memory Id} {id : Id} {history : List (StoredEvent Id)}
  {record : Record Id}

/-- The record of a live aggregate is at the end of a well-formed history. -/
theorem Keeps.of_record (h : m.Keeps A.kind id history) (hrecord : m.recordOf A id = .ok record) :
    (∀ window : Window, m.loadEvents A.kind id window =
        history.filter fun e => window.contains e.version) ∧
      (Stream.mk record history).WellFormed A.kind id := by
  obtain ⟨stream, hslot, rfl⟩ := recordOf_eq_ok.mp hrecord
  obtain ⟨rfl, hstream⟩ := h.of_live hslot
  exact ⟨loadEvents_of_live hslot, hstream⟩

/-- All events of a live aggregate are those of its history. -/
theorem Keeps.loadEvents_all (h : m.Keeps A.kind id history)
    (hrecord : m.recordOf A id = .ok record) : m.loadEvents A.kind id .all = history := by
  rw [(h.of_record hrecord).1]
  simp

/-- **Replaying what a store has behind the version of a root** fails only if an event cannot be
read: the events follow the root, and the last of them is at the version of the record. -/
theorem replayed_eq (hkeeps : m.Keeps A.kind id history) (hrecord : m.recordOf A id = .ok record)
    {root : Root A} (hid : root.id = id) (hpending : root.pending = [])
    (hversion : root.version ≤ record.version) :
    m.replayed codec root record =
      (((history.drop root.version).mapM (StoredEvent.envelope A codec)).mapError
        .eventDecode).map fun es =>
          { root.replayed es with deleted := record.deleted, deletedAt := record.deletedAt } := by
  obtain ⟨hload, hstream⟩ := hkeeps.of_record hrecord
  have htail : m.loadEvents A.kind root.id (.since root.version) = history.drop root.version := by
    rw [hid, hload, filter_since hstream.versions root.version (Nat.zero_le _)]
    rfl
  show (m.decoded codec A root.id (.since root.version) >>= _) = _
  rw [decoded, htail]
  cases hrest : (history.drop root.version).mapM (StoredEvent.envelope A codec) with
  | error failure => rfl
  | ok es =>
    have hfault : Root.replayFault? root.id root.version es = none := by
      refine Root.replayFault?_eq_none (versions_drop hstream.versions root.version) ?_ hrest
      intro e he
      rw [hid]
      exact (hstream.events e (List.mem_of_mem_drop he)).2
    have hrehydrate : root.rehydrate es = .ok (root.replayed es) :=
      Root.rehydrate_eq_ok.mpr ⟨hpending, hfault, rfl⟩
    have hend : (root.replayed es).version = record.version := by
      have hlength := length_of_mapM hrest
      have hrecordVersion : record.version = history.length := hstream.version
      rw [List.length_drop] at hlength
      rw [Root.version_replayed, hlength, Counting.plus_exact]
      omega
    show (Except.mapError LoadError.replay (root.rehydrate es) >>= _) = _
    rw [hrehydrate]
    show (if (root.replayed es).version ≠ record.version then _ else _ :
      Except (LoadError Id) (Root A)) = _
    rw [if_neg (not_not_intro hend)]
    rfl

/-- **Replaying the rest of a history** from wherever one stands on it fails if the whole of it
cannot be read, and leads to the root behind the whole of it otherwise. -/
theorem replayed_behind (hkeeps : m.Keeps A.kind id history)
    (hrecord : m.recordOf A id = .ok record) {payloads : List A.Event}
    (hbegins : A.Begins codec history payloads) :
    m.replayed codec (Root.behind A id record.tenant payloads) record =
      ((history.mapM fun e => A.events.decode codec e.kind e.data).mapError .eventDecode).map
        fun all =>
          { Root.behind A id record.tenant all with
            deleted := record.deleted
            deletedAt := record.deletedAt } := by
  have hversion : payloads.length ≤ record.version := by
    have hle := hbegins.length_le
    have hrecordVersion : record.version = history.length := (hkeeps.of_record hrecord).2.version
    omega
  have hwhole := mapM_append_of_ok hbegins (history.drop payloads.length)
  rw [List.take_append_drop, ← map_payload_mapM_envelope (history.drop payloads.length)] at hwhole
  rw [replayed_eq hkeeps hrecord rfl rfl hversion, hwhole]
  -- The front can be read, so the whole fails only where the rest does.
  show (Except.mapError _ ((history.drop payloads.length).mapM _)).map _ = _
  cases (history.drop payloads.length).mapM (StoredEvent.envelope A codec) with
  | error failure => rfl
  | ok es =>
    show Except.ok { (Root.behind A id record.tenant payloads).replayed es with
      deleted := record.deleted, deletedAt := record.deletedAt } = _
    rw [Root.replayed_behind]
    rfl

/-- **The root that is loaded** without a snapshot is the one behind the whole history. -/
theorem loaded_eq (hkeeps : m.Keeps A.kind id history) (hrecord : m.recordOf A id = .ok record) :
    m.loaded codec A id (fun _ => none) = (do
      let _ ← (Repository.shell A record 0 : Except (LoadError Id) (Root A))
      ((history.mapM fun e => A.events.decode codec e.kind e.data).mapError .eventDecode).map
        fun all =>
          { Root.behind A id record.tenant all with
            deleted := record.deleted
            deletedAt := record.deletedAt }) := by
  rw [loaded, hrecord]
  show (Repository.shell A record 0 >>= _) = _
  cases hshell : (Repository.shell A record 0 : Except (LoadError Id) (Root A)) with
  | error failure => rfl
  | ok root =>
    obtain ⟨rfl, -⟩ := shell_eq_ok hshell
    rw [(hkeeps.of_record hrecord).2.aggregate]
    exact replayed_behind hkeeps hrecord (.nil history)

/-- What is read of a history up to a version is what its first events are read as. -/
theorem Keeps.decoded_through (h : m.Keeps A.kind id history)
    (hrecord : m.recordOf A id = .ok record) (version : Nat) :
    m.decoded codec A id (.through version) =
      ((history.take version).mapM (StoredEvent.envelope A codec)).mapError .eventDecode := by
  obtain ⟨hload, hstream⟩ := h.of_record hrecord
  rw [decoded, hload, filter_through hstream.versions]
  rfl

/-- Replaying the front of a history on a root without events leads to the root behind it, unless an
event of it cannot be read. -/
theorem rehydrated_through (hkeeps : m.Keeps A.kind id history)
    (hrecord : m.recordOf A id = .ok record) (version : Nat) (tenant : Option String) :
    (do
      let history ← m.decoded codec A id (.through version)
      ((Root.bare A id 0 tenant).rehydrate history).mapError .replay) =
      (((history.take version).mapM fun e => A.events.decode codec e.kind e.data).mapError
        .eventDecode).map (Root.behind A id tenant) := by
  have hstream := (hkeeps.of_record hrecord).2
  rw [hkeeps.decoded_through hrecord, ← map_payload_mapM_envelope]
  cases hes : (history.take version).mapM (StoredEvent.envelope A codec) with
  | error failure => rfl
  | ok es =>
    have hfault : Root.replayFault? id 0 es = none :=
      Root.replayFault?_eq_none (versions_take hstream.versions version)
        (fun e he => (hstream.events e (List.mem_of_mem_take he)).2) hes
    have hrehydrate : (Root.bare A id 0 tenant).rehydrate es =
        .ok (Root.behind A id tenant (es.map Envelope.payload)) :=
      Root.rehydrate_eq_ok.mpr ⟨rfl, hfault, Root.replayed_behind id tenant [] es⟩
    show Except.mapError LoadError.replay (Root.rehydrate es _) = _
    rw [hrehydrate]
    rfl

/-- **The root of an earlier version** is the one behind the events up to it, whatever follows them;
it cannot be had if one of these cannot be read. -/
theorem loadedAt_eq (hkeeps : m.Keeps A.kind id history) (hrecord : m.recordOf A id = .ok record)
    (version : Nat) :
    m.loadedAt codec A id version =
      if record.version < version then
        .error (.versionNotFound A.kind id version record.version)
      else (do
        let _ ← (Repository.shell A record 0 : Except (LoadError Id) (Root A))
        (((history.take version).mapM fun e => A.events.decode codec e.kind e.data).mapError
          .eventDecode).map (Root.behind A id record.tenant)) := by
  have hstream := (hkeeps.of_record hrecord).2
  have haggregate : record.aggregate = id := hstream.aggregate
  rw [loadedAt, hrecord]
  show (if record.version < version then _ else _ : Except (LoadError Id) (Root A)) = _
  by_cases hlater : record.version < version
  · rw [if_pos hlater, if_pos hlater]
    rfl
  rw [if_neg hlater, if_neg hlater]
  show (Repository.shell A record 0 >>= _) = _
  cases hshell : (Repository.shell A record 0 : Except (LoadError Id) (Root A)) with
  | error failure => rfl
  | ok root =>
    obtain ⟨rfl, -⟩ := shell_eq_ok hshell
    rw [haggregate]
    show (m.decoded codec A id (.through version) >>= fun history =>
      ((Root.bare A id 0 record.tenant).rehydrate history).mapError .replay >>= fun root =>
        if root.version ≠ version then .error (.inconsistent version root.version)
        else .ok root) = Except.map _ _
    rw [← bind_assoc, rehydrated_through hkeeps hrecord]
    cases hread : (history.take version).mapM fun e => A.events.decode codec e.kind e.data with
    | error failure => rfl
    | ok payloads =>
      have hend : payloads.length = version := by
        have hrecordVersion : record.version = history.length := hstream.version
        rw [length_of_mapM hread, List.length_take]
        omega
      show (if payloads.length ≠ version then _ else _ : Except (LoadError Id) (Root A)) = _
      rw [if_neg (not_not_intro hend)]
      rfl

end Memory

end EventSourcing
