import EventSourcing.Proofs.Repository.Replay
import EventSourcing.Proofs.Repository.Save

/-!
# Roots that stand on a history

A root stands on a history if its version counts events at the front of the history that can be read
and its state is the one after these and after the pending events.  A snapshot stands on a history
likewise.  What stands on a history still does so when the history has grown.

Replaying the rest of a history from wherever one stands leads to one and the same root, or to one
and the same failure; so it does not matter whether a root is loaded with a snapshot.

## Main Definitions

* `Root.Stands`, `Snapshot.Stands` — roots and snapshots that stand on a history.
* `Root.Held` — a root that a client can hold.

## Main Statements

* `Memory.loaded_eq_loaded` — loading with a snapshot is loading without.
* `Memory.held_loaded`, `Memory.held_loadedAt` — what is loaded can be held.
-/

namespace EventSourcing

attribute [local instance] Counting.exact

variable {Id : Type} {A : Aggregate Id} {codec : Codec}

/-! ### Standing -/

/-- A root stands on a history. -/
def Root.Stands (codec : Codec) (history : List (StoredEvent Id)) (root : Root A) : Prop :=
  ∃ payloads, A.Begins codec history payloads ∧ root.version = payloads.length ∧
    root.state = A.after (payloads ++ root.pending.map Envelope.payload)

/-- A root that a client can hold: it has an identifier and stands on the history of its
aggregate. -/
structure Root.Held [Identifier Id] (codec : Codec) (history : List (StoredEvent Id))
    (root : Root A) : Prop where
  identified : Identifier.isEmpty root.id = false
  stands : root.Stands codec history

/-- A snapshot stands on a history: it is what is written of the state after as many events as its
version says. -/
def Snapshot.Stands (A : Aggregate Id) (codec : Codec) (history : List (StoredEvent Id))
    (snapshot : Snapshot Json) : Prop :=
  ∃ payloads, A.Begins codec history payloads ∧ payloads ≠ [] ∧
    snapshot.version = payloads.length ∧
    A.form.write (A.fold A.initial payloads) = .ok snapshot.data

namespace Root.Stands

variable {history history' : List (StoredEvent Id)} {root : Root A}

/-- What stands on a history does so when the history has grown. -/
theorem mono (h : root.Stands codec history) (hgrow : history <+: history') :
    root.Stands codec history' := by
  obtain ⟨payloads, hbegins, hversion, hstate⟩ := h
  exact ⟨payloads, hbegins.mono hgrow, hversion, hstate⟩

/-- A new event leads on from the state. -/
theorem record (h : root.Stands codec history) (e : Envelope Id A.Event) :
    (root.record e).Stands codec history := by
  obtain ⟨payloads, hbegins, hversion, hstate⟩ := h
  refine ⟨payloads, hbegins, hversion, ?_⟩
  show (root.record e).state = A.after (payloads ++ (root.pending ++ [e]).map Envelope.payload)
  rw [List.map_append, ← List.append_assoc]
  exact Root.state_record hstate e

/-- The marks of a root, its tenant and what its events carry do not matter. -/
theorem of_eq (h : root.Stands codec history) {root' : Root A}
    (hversion : root'.version = root.version) (hstate : root'.state = root.state)
    (hpending : root'.pending = root.pending) : root'.Stands codec history := by
  rw [Root.Stands, hversion, hstate, hpending]
  exact h

/-- A root whose events are committed stands on the history with these behind it. -/
theorem complete [Identifier Id] (hcodec : A.events.RoundTrips codec)
    (h : root.Stands codec history) (hversion : root.version = history.length)
    {expected : Option Nat} {committed : List (Envelope Id A.Event)} {batch : List NewEvent}
    (hprepared : root.prepared codec expected = .ok (committed, batch)) (kind : String) (id : Id) :
    (root.complete committed).Stands codec (history ++ batch.map (NewEvent.stored kind id)) := by
  obtain ⟨payloads, hbegins, hlength, hstate⟩ := h
  obtain ⟨rfl, hbatch⟩ := Root.prepared_eq_ok hprepared
  have hdecoded := decoded_encodedFrom hcodec hbatch kind id
  rw [Envelope.map_payload_committedFrom] at hdecoded
  refine ⟨_, hbegins.append (by omega) hdecoded, ?_, ?_⟩
  · show root.version + (Envelope.committedFrom root.version root.pending).length = _
    rw [Envelope.length_committedFrom, List.length_append, List.length_map, hlength]
  · show root.state = A.after (_ ++ [].map Envelope.payload)
    rw [List.map_nil, List.append_nil, hstate]

/-- The state of a root without pending events is as good as the root. -/
theorem snapshot (h : root.Stands codec history)
    (hpending : root.pending = []) {state : A.State} (hstate : root.state = some state)
    {data : Json} (hwrite : A.form.write state = .ok data) :
    (Snapshot.mk root.version data).Stands A codec history := by
  obtain ⟨payloads, hbegins, hversion, hafter⟩ := h
  rw [hpending, List.map_nil, List.append_nil, hstate] at hafter
  have hne : payloads ≠ [] := by
    rintro rfl
    cases hafter
  rw [A.after_of_ne_nil hne] at hafter
  refine ⟨payloads, hbegins, hne, hversion, ?_⟩
  rw [← Option.some.inj hafter]
  exact hwrite

end Root.Stands

theorem Root.stands_behind {history : List (StoredEvent Id)} {payloads : List A.Event}
    (h : A.Begins codec history payloads) (id : Id) (tenant : Option String) :
    (Root.behind A id tenant payloads).Stands codec history :=
  ⟨payloads, h, rfl, by rw [show (Root.behind A id tenant payloads).pending = [] from rfl,
    List.map_nil, List.append_nil]; rfl⟩

/-! ### Loading -/

namespace Memory

variable [Identifier Id] {m : Memory Id} {id : Id} {history : List (StoredEvent Id)}

/-- **Loading with a snapshot that stands on the history is loading without**, whether it succeeds
or fails. -/
theorem loaded_eq_loaded (hkeeps : m.Keeps A.kind id history)
    (snapshot : Nat → Option (Snapshot A.State))
    (h : ∀ version s, snapshot version = some s → ∃ payloads, A.Begins codec history payloads ∧
      payloads ≠ [] ∧ s.version = payloads.length ∧ s.data = A.fold A.initial payloads) :
    m.loaded codec A id snapshot = m.loaded codec A id fun _ => none := by
  cases hrecord : m.recordOf A id with
  | error e =>
    rw [loaded, loaded, hrecord]
    rfl
  | ok record =>
    rw [loaded_eq hkeeps hrecord, loaded, hrecord]
    show (do let root ← Repository.base A record (snapshot record.version)
             m.replayed codec root record) = _
    cases hsnapshot : snapshot record.version with
    | none => rw [← loaded_eq hkeeps hrecord, loaded, hrecord]; rfl
    | some s =>
      -- The snapshot is of the root behind the front of the history.
      obtain ⟨payloads, hbegins, hne, hversion, hdata⟩ := h record.version s hsnapshot
      rw [Repository.base, shell_eq, hversion, hdata, ← A.after_of_ne_nil hne,
        (hkeeps.of_record hrecord).2.aggregate]
      cases (Repository.shell A record 0 : Except (LoadError Id) (Root A)) with
      | error e => rfl
      | ok root => exact replayed_behind hkeeps hrecord hbegins

/-- A root that is loaded has an identifier and stands on the history. -/
theorem held_loaded (hkeeps : m.Keeps A.kind id history) {root : Root A}
    (h : m.loaded codec A id (fun _ => none) = .ok root) :
    root.id = id ∧ root.Held codec history := by
  obtain ⟨record, hrecord, -⟩ := bind_eq_ok.mp h
  rw [loaded_eq hkeeps hrecord] at h
  obtain ⟨base, hbase, h⟩ := bind_eq_ok.mp h
  obtain ⟨-, hidentified⟩ := shell_eq_ok hbase
  rw [(hkeeps.of_record hrecord).2.aggregate] at hidentified
  obtain ⟨all, hwhole, rfl⟩ := map_eq_ok.mp h
  have hbegins := Aggregate.Begins.of_whole (mapError_eq_ok.mp hwhole)
  have hstands := Root.stands_behind hbegins id record.tenant
  exact ⟨rfl, hidentified, hstands.of_eq rfl rfl rfl⟩

/-- So does a root of an earlier version. -/
theorem held_loadedAt (hkeeps : m.Keeps A.kind id history) {version : Nat} {root : Root A}
    (h : m.loadedAt codec A id version = .ok root) : root.id = id ∧ root.Held codec history := by
  obtain ⟨record, hrecord, -⟩ := bind_eq_ok.mp h
  rw [loadedAt_eq hkeeps hrecord] at h
  split at h
  · cases h
  obtain ⟨base, hbase, h⟩ := bind_eq_ok.mp h
  obtain ⟨-, hidentified⟩ := shell_eq_ok hbase
  rw [(hkeeps.of_record hrecord).2.aggregate] at hidentified
  obtain ⟨payloads, hfront, rfl⟩ := map_eq_ok.mp h
  have hbegins := Aggregate.Begins.of_whole (mapError_eq_ok.mp hfront)
  have hgrow : history.take version <+: history := List.take_prefix version history
  exact ⟨rfl, hidentified, Root.stands_behind (hbegins.mono hgrow) id record.tenant⟩

end Memory

end EventSourcing
