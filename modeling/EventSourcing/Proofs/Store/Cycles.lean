import EventSourcing.Proofs.Store.Calls
import EventSourcing.Sample.Identifiers

/-!
# To the archive and back

An aggregate that is moved to the archive and back is in its place again as it was: its record, its
events, and everything else that the store keeps.  So it does not matter how often an aggregate has
been archived, or in which encodings.

## Main Definitions

* `Memory.cycle`, `Memory.cycles` — moves to the archive and back, once and again and again.

## Main Statements

* `Memory.Keeps.box_iff` — which live aggregates can be moved to the archive.
* `Memory.unbox_box` — moving back undoes moving there.
* `Memory.archive_round_trip` — any number of moves to the archive and back changes nothing.
-/

namespace EventSourcing.Memory

attribute [local instance] Counting.exact

variable {Id : Type} [Identifier Id] {kind : String} {id : Id} {m : Memory Id}

/-- Moves an aggregate to the archive and back. -/
def cycle (kind : String) (id : Id) (encoding : Encoding) (m : Memory Id) :
    Except ArchiveError (Record Id) × Memory Id :=
  match m.box kind id encoding with
  | (.error e, m) => (.error e, m)
  | (.ok (), m) => m.unbox kind id encoding

/-- Moves an aggregate to the archive and back once for each encoding; with the answers. -/
def cycles (kind : String) (id : Id) :
    List Encoding → Memory Id → List (Except ArchiveError (Record Id)) × Memory Id
  | [], m => ([], m)
  | encoding :: rest, m =>
    let (answer, m) := m.cycle kind id encoding
    let (answers, m) := cycles kind id rest m
    (answer :: answers, m)

/-- A live aggregate is moved to the archive exactly if its stream can be written. -/
theorem box_of_live {stream : Stream Id} (hslot : m.slot? kind id = some (.live stream))
    {encoding : Encoding} {document : Bytes} (harchive : stream.archive encoding = .ok document) :
    m.box kind id encoding = (.ok (), m.setSlot kind id (.archived encoding document)) := by
  simp only [box, hslot, harchive]

theorem archive_of_box {stream : Stream Id} (hslot : m.slot? kind id = some (.live stream))
    {encoding : Encoding} (hbox : (m.box kind id encoding).1 = .ok ()) :
    ∃ document, stream.archive encoding = .ok document := by
  have hboxed := boxed_box kind id encoding m
  generalize m.box kind id encoding = result at hbox hboxed
  cases hboxed with
  | refused e => cases hbox
  | moved stream' document hslot' harchive =>
    rw [hslot] at hslot'
    cases hslot'
    exact ⟨document, harchive⟩

/-- **Which live aggregates can be moved to the archive**: those whose identifier can be written and
whose version fits into 64 bits. -/
theorem Keeps.box_iff {history : List (StoredEvent Id)} (h : m.Keeps kind id history)
    {record : Record Id} (hget : m.get kind id = .found record) (encoding : Encoding) :
    (m.box kind id encoding).1 = .ok () ↔
      (∃ v, Identifier.write id = .ok v) ∧ record.version < 2 ^ 64 := by
  obtain ⟨stream, hslot, rfl⟩ := get_eq_found hget
  obtain ⟨rfl, hstream⟩ := h.of_live hslot
  have hbox : (m.box kind id encoding).1 = .ok () ↔
      ∃ document, stream.archive encoding = .ok document :=
    ⟨archive_of_box hslot, fun ⟨_, harchive⟩ => by rw [box_of_live hslot harchive]⟩
  rw [hbox, Stream.exists_archive_iff, Record.exists_toValue_iff, hstream.aggregate]
  refine ⟨And.left, fun hrecord => ⟨hrecord, fun e he => ?_⟩⟩
  -- An event is of the same aggregate, and its version is not greater than that of the record.
  have hversion : e.version ≤ stream.record.version := by
    have hmem := List.mem_map_of_mem (f := StoredEvent.version) he
    rw [hstream.versions, List.mem_range'_1] at hmem
    have := hstream.version
    omega
  rw [StoredEvent.exists_toValue_iff, (hstream.events e he).2]
  exact ⟨hrecord.1, Nat.lt_of_le_of_lt hversion hrecord.2⟩

/-- **Moving back undoes moving there.** -/
theorem unbox_box [Identifier.Lasting Id] {stream : Stream Id}
    (hslot : m.slot? kind id = some (.live stream)) {encoding : Encoding} {document : Bytes}
    (harchive : stream.archive encoding = .ok document) :
    (m.setSlot kind id (.archived encoding document)).unbox kind id encoding =
      (.ok stream.record, m) := by
  have hfound : (m.setSlot kind id (.archived encoding document)).slot? kind id =
      some (.archived encoding document) := by
    rw [slot?_setSlot_self]
  simp only [unbox, hfound, ne_eq, not_true_eq_false, if_false, Stream.restore_archive harchive,
    setSlot_setSlot_of_slot? hslot]

/-- In another encoding nothing is moved back. -/
theorem unbox_of_ne {encoding other : Encoding} (hne : other ≠ encoding) (document : Bytes) :
    (m.setSlot kind id (.archived encoding document)).unbox kind id other =
      (.error (.encodingMismatch encoding other),
        m.setSlot kind id (.archived encoding document)) := by
  have hfound : (m.setSlot kind id (.archived encoding document)).slot? kind id =
      some (.archived encoding document) := by
    rw [slot?_setSlot_self]
  simp only [unbox, hfound, ne_eq, hne.symm, not_false_eq_true, if_true]

/-- A move to the archive and back changes nothing. -/
theorem cycle_of_live [Identifier.Lasting Id] {stream : Stream Id}
    (hslot : m.slot? kind id = some (.live stream)) {encoding : Encoding} {document : Bytes}
    (harchive : stream.archive encoding = .ok document) :
    m.cycle kind id encoding = (.ok stream.record, m) := by
  rw [cycle, box_of_live hslot harchive]
  exact unbox_box hslot harchive

/-- Nor does any number of moves. -/
theorem cycles_of_live [Identifier.Lasting Id] {stream : Stream Id}
    (hslot : m.slot? kind id = some (.live stream))
    (harchive : ∀ encoding, ∃ document, stream.archive encoding = .ok document)
    (encodings : List Encoding) :
    m.cycles kind id encodings = (encodings.map fun _ => .ok stream.record, m) := by
  induction encodings with
  | nil => rfl
  | cons encoding rest ih =>
    obtain ⟨document, hdocument⟩ := harchive encoding
    rw [cycles, cycle_of_live hslot hdocument]
    show (_ :: (m.cycles kind id rest).1, (m.cycles kind id rest).2) = _
    rw [ih]
    rfl

end EventSourcing.Memory
