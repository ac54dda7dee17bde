import EventSourcing.Proofs.Repository.Replay
import EventSourcing.Proofs.Sample.Counter
import EventSourcing.Proofs.Store.History
import EventSourcing.Proofs.Store.Reachable

/-!
# Windows of a history

The versions of a history are counted from one without a gap, so an event can be told by its place,
and the events of a window stand next to each other: they are the first ones, up to the upper bound,
without the first ones of these, up to the lower bound.  A bound behind the end of the history, and
a window without versions, need no rule of their own.

## Main Statements

* `filter_window` — the events of a window.
* `Memory.Keeps.loadEvents_window`, `Memory.Keeps.loadEvents_cut` — what a store has within a
  window, and on the two sides of a version.
* `Repository.windows_are_slices` — windows in any store that can be reached.
-/

namespace EventSourcing

attribute [local instance] Counting.exact

variable {Id : Type}

/-- **The events of a window** are those up to its upper bound without those up to its lower
bound. -/
theorem filter_window {events : List (StoredEvent Id)}
    (h : events.map StoredEvent.version = List.range' 1 events.length) (window : Window) :
    events.filter (fun e => window.contains e.version) =
      (events.take (window.upTo.getD events.length)).drop (window.after.getD 0) := by
  obtain ⟨after, upTo⟩ := window
  have hupper : events.filter (fun e => (Window.mk none upTo).contains e.version) =
      events.take (upTo.getD events.length) := by
    cases upTo with
    | none =>
      rw [Option.getD_none, List.take_length, List.filter_eq_self]
      intro e _
      rfl
    | some upTo => exact filter_through h upTo
  have hboth : (fun e : StoredEvent Id => (Window.mk after upTo).contains e.version) = fun e =>
      (Window.mk after none).contains e.version && (Window.mk none upTo).contains e.version := by
    funext e
    simp [Window.contains]
  rw [hboth, ← List.filter_filter, hupper]
  -- The events up to the upper bound are counted from one as well.
  cases after with
  | none =>
    rw [Option.getD_none, List.drop_zero, List.filter_eq_self]
    intro e _
    rfl
  | some after => exact filter_since (versions_take h _) after (Nat.zero_le _)

/-- The versions of the events of a window, one after the other. -/
theorem versions_window {events : List (StoredEvent Id)}
    (h : events.map StoredEvent.version = List.range' 1 events.length) (upTo after : Nat) :
    ((events.take upTo).drop after).map StoredEvent.version =
      List.range' (after + 1) (min upTo events.length - after) := by
  rw [versions_drop (versions_take h upTo) after, List.length_drop, List.length_take]

namespace Memory

variable [Identifier Id] {A : Aggregate Id} {m : Memory Id} {id : Id}
  {history : List (StoredEvent Id)} {record : Record Id}

/-- What a store has within a window of versions. -/
theorem Keeps.loadEvents_window (h : m.Keeps A.kind id history)
    (hrecord : m.recordOf A id = .ok record) (window : Window) :
    m.loadEvents A.kind id window =
      (history.take (window.upTo.getD history.length)).drop (window.after.getD 0) := by
  obtain ⟨hload, hstream⟩ := h.of_record hrecord
  rw [hload, filter_window hstream.versions]

/-- At every version a history is cut in two. -/
theorem Keeps.loadEvents_cut (h : m.Keeps A.kind id history)
    (hrecord : m.recordOf A id = .ok record) (version : Nat) :
    m.loadEvents A.kind id (.through version) ++ m.loadEvents A.kind id (.since version) =
      history := by
  rw [h.loadEvents_window hrecord, h.loadEvents_window hrecord]
  show history.take version ++ (history.take history.length).drop version = history
  rw [List.take_length, List.take_append_drop]

end Memory

/-- Stored events are read unless the payload of one of them cannot be. -/
theorem mapM_envelope_fails_iff {A : Aggregate Id} {codec : Codec}
    (stored : List (StoredEvent Id)) :
    (∃ failure, stored.mapM (StoredEvent.envelope A codec) = .error failure) ↔
      ∃ e ∈ stored, ∀ payload, A.events.decode codec e.kind e.data ≠ .ok payload := by
  have hread : (∃ es, stored.mapM (StoredEvent.envelope A codec) = .ok es) ↔
      ∀ e ∈ stored, ∃ payload, A.events.decode codec e.kind e.data = .ok payload := by
    rw [← exists_mapM_iff]
    constructor
    · rintro ⟨es, hes⟩
      exact ⟨_, payload_of_mapM_envelope hes⟩
    · rintro ⟨payloads, hpayloads⟩
      obtain ⟨es, hes, -⟩ := mapM_envelope hpayloads
      exact ⟨es, hes⟩
  rw [exists_error_iff, hread]
  simp only [Classical.not_forall, not_exists, exists_prop]

namespace Repository

variable [Identifier Id]

/-- **Windows of versions are exact slices of a history.**  Take any store that can be reached, and
the stream of any live aggregate: its events are as many as the version of its record says, and they
have the versions from one on.  The store gives all of them.  The events within a window are those
from the first version behind its lower bound to its upper bound, or to the end of the history, in
order and each of them once; at every version the history is cut into the events up to it and the
ones after it.  What a repository reads are the events of the stream, one by one; what it reads of
the history up to a version are the first of these; and this fails exactly if one of these first
events cannot be read. -/
theorem windows_are_slices [Identifier.Unmistakable Id] {τ : Type}
    (operations : List (Operation Id)) (codec : Codec)
    (snapshots : Option (SnapshotBackend τ Id)) (t : τ) (A : Aggregate Id) (id : Id)
    (stream : Stream Id)
    (hlive : ((Memory.empty : Memory Id).runAll operations).slot? A.kind id =
      some (.live stream)) :
    let m := (Memory.empty : Memory Id).runAll operations
    let n := stream.record.version
    let events (upTo : Option Nat) := ((onMemory codec snapshots).events A id upTo (m, t)).1
    stream.events.length = n ∧ stream.events.map StoredEvent.version = List.range' 1 n ∧
    m.loadEvents A.kind id .all = stream.events ∧
    (∀ window : Window,
      let first := window.after.getD 0
      let last := min (window.upTo.getD n) n
      m.loadEvents A.kind id window = (stream.events.take last).drop first ∧
        (m.loadEvents A.kind id window).map StoredEvent.version =
          List.range' (first + 1) (last - first)) ∧
    (∀ version, m.loadEvents A.kind id .all =
      m.loadEvents A.kind id (.through version) ++ m.loadEvents A.kind id (.since version)) ∧
    ∀ version,
      (∀ es, events none = .ok es →
        stream.events.mapM (StoredEvent.envelope A codec) = .ok es ∧
          events (some version) = .ok (es.take version) ∧
          (es.take version).length = min version n) ∧
      ((∃ failure, events (some version) = .error failure) ↔
        ∃ e ∈ stream.events.take version,
          ∀ payload, A.events.decode codec e.kind e.data ≠ .ok payload) := by
  intro m n events
  have hrecord : m.recordOf A id = .ok stream.record :=
    Memory.recordOf_eq_ok.mpr ⟨stream, hlive, rfl⟩
  have hkeeps : m.Keeps A.kind id stream.events := by
    obtain ⟨kept, hkeeps⟩ := (Memory.keeps_empty A.kind id).runAll operations
    obtain ⟨hkept, -⟩ := hkeeps.of_live hlive
    rw [← hkept]
    exact hkeeps
  obtain ⟨-, hstream⟩ := hkeeps.of_record hrecord
  have hlength : stream.events.length = n := hstream.version.symm
  have hversions : stream.events.map StoredEvent.version = List.range' 1 stream.events.length :=
    hstream.versions
  have hevents (upTo : Option Nat) : events upTo = m.decoded codec A id ⟨none, upTo⟩ := by
    show ((onMemory codec snapshots).events A id upTo (m, t)).1 = _
    rw [events_memory, hrecord]
    rfl
  refine ⟨hlength, hlength ▸ hversions, hkeeps.loadEvents_all hrecord, fun window => ?_,
    fun version => ?_, fun version => ⟨fun es hes => ?_, ?_⟩⟩
  · intro first last
    -- An upper bound behind the end of the history is as good as the end.
    have hlast : stream.events.take (window.upTo.getD stream.events.length) =
        stream.events.take last := by
      simp only [List.take_eq_take_iff, last, hlength, Nat.min_assoc, Nat.min_self]
    have hwithin : last ≤ stream.events.length := by
      rw [hlength]
      exact Nat.min_le_right _ _
    rw [hkeeps.loadEvents_window hrecord, hlast, versions_window hversions,
      Nat.min_eq_left hwithin]
    exact ⟨rfl, rfl⟩
  · rw [hkeeps.loadEvents_all hrecord, hkeeps.loadEvents_cut hrecord version]
  · rw [hevents] at hes ⊢
    have hread : m.decoded codec A id ⟨none, none⟩ =
        (stream.events.mapM (StoredEvent.envelope A codec)).mapError .eventDecode := by
      rw [Memory.decoded, ← hkeeps.loadEvents_all hrecord]
      rfl
    have hall : stream.events.mapM (StoredEvent.envelope A codec) = .ok es :=
      mapError_eq_ok.mp (hread.symm.trans hes)
    refine ⟨hall, ?_, ?_⟩
    · exact (hkeeps.decoded_through hrecord version).trans
        (mapError_eq_ok.mpr (mapM_take hall version))
    · rw [List.length_take, length_of_mapM hall, hlength]
  · rw [hevents, ← mapM_envelope_fails_iff]
    have hread : m.decoded codec A id (.through version) = _ :=
      hkeeps.decoded_through hrecord version
    constructor
    · rintro ⟨failure, hfailure⟩
      obtain ⟨e, he, -⟩ := mapError_eq_error.mp (hread.symm.trans hfailure)
      exact ⟨e, he⟩
    · rintro ⟨e, he⟩
      exact ⟨_, hread.trans (mapError_eq_error.mpr ⟨e, he, rfl⟩)⟩

/-- A counter with three events, of which the second one is of a kind that no counter knows. -/
theorem windows_are_slices_counter :
    let seed (kind : String) (data : Bytes) : Operation String :=
      .seedRaw "counter" .nil .epoch "c" kind data
    let operations := [seed "reset" [110, 117, 108, 108], seed "forgotten" [],
      seed "reset" [110, 117, 108, 108]]
    let m := (Memory.empty : Memory String).runAll operations
    let R := onMemory .json (none : Option (SnapshotBackend Unit String))
    let events (upTo : Option Nat) := (R.events Sample.counter "c" upTo (m, ())).1
    let stored (kind : String) (version : Nat) (data : Bytes) : StoredEvent String :=
      ⟨"counter", "c", .nil, kind, version, data, .epoch, Seeding.originator⟩
    let stream : Stream String := ⟨⟨"c", 3, none, false, none⟩,
      [stored "reset" 1 [110, 117, 108, 108], stored "forgotten" 2 [],
        stored "reset" 3 [110, 117, 108, 108]]⟩
    m.slot? "counter" "c" = some (.live stream) ∧
      m.loadEvents "counter" "c" .all = stream.events ∧
      m.loadEvents "counter" "c" ⟨some 1, some 7⟩ = stream.events.tail ∧
      (m.loadEvents "counter" "c" ⟨some 2, some 1⟩).map StoredEvent.version = [] ∧
      m.loadEvents "counter" "c" .all =
        m.loadEvents "counter" "c" (.through 2) ++ m.loadEvents "counter" "c" (.since 2) ∧
      (¬ ∃ failure, events (some 1) = .error failure) ∧
      ∃ failure, events (some 2) = .error failure := by
  intro seed operations m R events stored stream
  have hlive : m.slot? "counter" "c" = some (.live stream) := rfl
  obtain ⟨-, -, hall, hwindow, hcut, hread⟩ := windows_are_slices operations .json
    (none : Option (SnapshotBackend Unit String)) () Sample.counter "c" stream hlive
  obtain ⟨hmiddle, -⟩ := hwindow ⟨some 1, some 7⟩
  obtain ⟨-, hnothing⟩ := hwindow ⟨some 2, some 1⟩
  obtain ⟨-, hone⟩ := hread 1
  obtain ⟨-, htwo⟩ := hread 2
  refine ⟨hlive, hall, hmiddle, hnothing, hcut 2, ?_, htwo.mpr ?_⟩
  · rw [hone]
    rintro ⟨e, he, hunreadable⟩
    obtain rfl := List.mem_singleton.mp he
    exact hunreadable _ (Sample.CounterEvent.roundTrips .reset [110, 117, 108, 108] rfl)
  · exact ⟨_, List.mem_cons_of_mem _ List.mem_cons_self, nofun⟩

end Repository

end EventSourcing
