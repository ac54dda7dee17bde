import EventSourcing.Proofs.Store.Archive
import EventSourcing.Store.Memory

/-!
# What a store does when it is called

Three calls may change a store in memory.  This module says once what each of them can do; all that
is said of stores elsewhere follows from that.

The history of an aggregate is what it has committed, whether it is live or archived.  A call either
leaves every history as it is, or it is a save that is accepted: then it presented the length of the
history, and its batch is behind that history afterwards.

## Main Definitions

* `Follows` — batches that follow each other.
* `Memory.Saved`, `Memory.Boxed`, `Memory.Unboxed` — what the three calls can do.
* `Stream.WellFormed`, `Slot.Keeps`, `Memory.Keeps` — a store that keeps a given history.
* `Call`, `Memory.after`, `Memory.committed` — a call, the store behind it and what it commits.

## Main Statements

* `Memory.saved_save`, `Memory.boxed_box`, `Memory.unboxed_unbox` — what the three calls do.
* `Memory.Keeps.after` — what a call does to the histories.
-/

namespace EventSourcing

/-! ### Batches -/

/-- The batches follow each other: each presents the number of events in front of it. -/
def Follows {α : Type} : Nat → List (Nat × List α) → Prop
  | _, [] => True
  | version, batch :: rest => batch.1 = version ∧ Follows (version + batch.2.length) rest

theorem Follows.append {α : Type} {version : Nat} {batches more : List (Nat × List α)}
    (h : Follows version batches)
    (hmore : Follows (version + (batches.flatMap Prod.snd).length) more) :
    Follows version (batches ++ more) := by
  induction batches generalizing version with
  | nil => simpa using hmore
  | cons batch batches ih =>
    refine ⟨h.1, ih h.2 ?_⟩
    rwa [List.flatMap_cons, List.length_append, ← Nat.add_assoc] at hmore

/-- Batches that follow each other present no version below the first one. -/
theorem Follows.le {α : Type} {version : Nat} {batches : List (Nat × List α)}
    (h : Follows version batches) : ∀ batch ∈ batches, version ≤ batch.1 := by
  induction batches generalizing version with
  | nil => exact nofun
  | cons batch batches ih =>
    intro other hother
    rcases List.mem_cons.mp hother with rfl | hother
    · exact Nat.le_of_eq h.1.symm
    · have := ih h.2 other hother
      omega

/-- Of batches that follow each other only one presents a given version and has events. -/
theorem Follows.unique {α : Type} {version : Nat} {batches : List (Nat × List α)}
    (h : Follows version batches) (presented : Nat) :
    (batches.filter fun batch => batch.1 = presented ∧ batch.2.length ≠ 0).length ≤ 1 := by
  induction batches generalizing version with
  | nil => simp
  | cons batch batches ih =>
    rw [List.filter_cons]
    split
    · rename_i hbatch
      simp only [ne_eq, decide_eq_true_eq] at hbatch
      -- This batch has events, so that all later ones present more.
      have hnone : (batches.filter fun batch => batch.1 = presented ∧ batch.2.length ≠ 0) = [] := by
        rw [List.filter_eq_nil_iff]
        intro other hother
        have hle := h.2.le other hother
        have hversion := h.1
        simp only [ne_eq, decide_eq_true_eq, not_and, Decidable.not_not]
        omega
      rw [hnone]
      exact Nat.le_refl 1
    · exact ih h.2

/-! ### Single calls -/

variable {Id : Type} [Identifier Id]

namespace Memory

section Saving

variable [Counting]

/-- What a save can do. -/
inductive Saved (kind : String) (record : Record Id) (expected : Nat) (events : List NewEvent)
    (m : Memory Id) : Except StoreSaveError Nat × Memory Id → Prop where
  /-- It is refused. -/
  | refused (e : StoreSaveError) : Saved kind record expected events m (.error e, m)
  /-- There is no such aggregate, and no event from which it could come into being. -/
  | nothing (hslot : m.slot? kind record.aggregate = none) (hexpected : expected = 0)
      (hevents : events = []) (hversion : record.version = 0) :
      Saved kind record expected events m (.ok 0, m)
  /-- The aggregate comes into being. -/
  | first (hslot : m.slot? kind record.aggregate = none) (hexpected : expected = 0)
      (hevents : events ≠ []) (hgap : gap? 0 events = none)
      (hversion : record.version = plus 0 events.length) :
      Saved kind record expected events m (.ok (plus 0 events.length),
        m.setSlot kind record.aggregate
          (.live ⟨record, events.map (NewEvent.stored kind record.aggregate)⟩))
  /-- The events are put behind those that the aggregate has. -/
  | behind (stream : Stream Id) (hslot : m.slot? kind record.aggregate = some (.live stream))
      (hexpected : stream.record.version = expected) (hgap : gap? expected events = none)
      (hversion : record.version = plus expected events.length) :
      Saved kind record expected events m (.ok (plus expected events.length),
        m.setSlot kind record.aggregate
          (.live ⟨record, stream.events ++ events.map (NewEvent.stored kind record.aggregate)⟩))

/-- **A save is refused and changes nothing, or does what it should.** -/
theorem saved_save (kind : String) (record : Record Id) (expected : Nat) (events : List NewEvent)
    (m : Memory Id) :
    Saved kind record expected events m (m.save kind record expected events) := by
  -- The checks in the order in which a save makes them.
  simp only [save]
  cases hgap : gap? expected events with
  | some found => exact .refused _
  | none =>
    by_cases hversion : record.version = plus expected events.length
    · rw [if_neg (not_not_intro hversion)]
      cases hslot : m.slot? kind record.aggregate with
      | none =>
        by_cases hexpected : expected = 0
        · subst hexpected
          by_cases hevents : events = []
          · subst hevents
            rw [List.length_nil, Counting.plus_zero] at hversion ⊢
            exact .nothing hslot rfl rfl hversion
          · simp only [ne_eq, not_true_eq_false, if_false, if_neg hevents]
            exact .first hslot rfl hevents hgap hversion
        · simp only [ne_eq, hexpected, not_false_eq_true, if_true]
          exact .refused _
      | some slot =>
        cases slot with
        | archived encoding document => exact .refused _
        | live stream =>
          by_cases hexpected : stream.record.version = expected
          · simp only [hexpected, if_true]
            exact .behind stream hslot hexpected hgap hversion
          · simp only [hexpected, if_false]
            exact .refused _
    · rw [if_pos hversion]
      exact .refused _

/-- A batch that fits a live aggregate is accepted if its version is the one presented, and is a
conflict otherwise. -/
theorem save_of_live {kind : String} {record : Record Id} {expected : Nat} {events : List NewEvent}
    {m : Memory Id} {stream : Stream Id}
    (hslot : m.slot? kind record.aggregate = some (.live stream))
    (hgap : gap? expected events = none)
    (hversion : record.version = plus expected events.length) :
    m.save kind record expected events =
      if stream.record.version = expected then
        (.ok (plus expected events.length), m.setSlot kind record.aggregate
          (.live ⟨record, stream.events ++ events.map (NewEvent.stored kind record.aggregate)⟩))
      else (.error (.conflict ⟨expected, stream.record.version⟩), m) := by
  simp only [save, hgap, hversion, ne_eq, not_true_eq_false, if_false, hslot]

/-- A batch that leaves no gap up to the version of the record is refused only if the aggregate is
archived or at another version than the one presented. -/
theorem save_eq_error {kind : String} {record : Record Id} {expected : Nat}
    {events : List NewEvent} {m m' : Memory Id} {e : StoreSaveError}
    (hgap : gap? expected events = none)
    (hversion : record.version = plus expected events.length)
    (h : m.save kind record expected events = (.error e, m')) :
    e = .archived ∨ ∃ conflict, e = .conflict conflict := by
  unfold save at h
  simp only [hgap, hversion, ne_eq, not_true_eq_false, if_false] at h
  split at h
  · cases h
    exact .inl rfl
  · split at h
    · cases h
    · cases h
      exact .inr ⟨_, rfl⟩
  · split at h
    · cases h
      exact .inr ⟨_, rfl⟩
    · split at h
      · cases h
      · cases h

/-- Where a batch leaves a gap depends on its versions only. -/
theorem gap?_congr {events events' : List NewEvent}
    (h : events.map NewEvent.version = events'.map NewEvent.version) (version : Nat) :
    gap? version events = gap? version events' := by
  induction events generalizing events' version with
  | nil =>
    cases events' with
    | nil => rfl
    | cons e' rest' => cases h
  | cons e rest ih =>
    cases events' with
    | nil => cases h
    | cons e' rest' =>
      obtain ⟨hfirst, hrest⟩ := List.cons.inj h
      rw [gap?, gap?, hfirst, ih hrest]

/-- What a save answers depends on the versions of its batch only. -/
theorem save_congr {events events' : List NewEvent}
    (h : events.map NewEvent.version = events'.map NewEvent.version) (kind : String)
    (record : Record Id) (expected : Nat) (m : Memory Id) :
    (m.save kind record expected events).1 = (m.save kind record expected events').1 := by
  have hlength : events.length = events'.length := by
    rw [← List.length_map (f := NewEvent.version), h, List.length_map]
  have hnil : events = [] ↔ events' = [] := by
    rw [← List.length_eq_zero_iff, hlength, List.length_eq_zero_iff]
  simp only [save, gap?_congr h, hlength, hnil]
  cases gap? expected events' with
  | some found => rfl
  | none =>
    by_cases hversion : record.version = plus expected events'.length
    · simp only [ne_eq, hversion, not_true_eq_false, if_false]
      cases m.slot? kind record.aggregate with
      | none => simp only [apply_ite Prod.fst]
      | some slot =>
        cases slot with
        | archived encoding document => rfl
        | live stream => simp only [apply_ite Prod.fst]
    · simp only [ne_eq, hversion, not_false_eq_true, if_true]

/-- A save that is refused changes nothing. -/
theorem save_of_error {kind : String} {record : Record Id} {expected : Nat}
    {events : List NewEvent} {m : Memory Id} {e : StoreSaveError}
    (h : (m.save kind record expected events).1 = .error e) :
    m.save kind record expected events = (.error e, m) := by
  have hsaved := saved_save kind record expected events m
  generalize m.save kind record expected events = result at h hsaved ⊢
  cases hsaved with
  | refused e' =>
    cases h
    rfl
  | nothing | first | behind => cases h

end Saving

/-- What moving an aggregate to the archive can do. -/
inductive Boxed (kind : String) (id : Id) (encoding : Encoding) (m : Memory Id) :
    Except ArchiveError Unit × Memory Id → Prop where
  | refused (e : ArchiveError) : Boxed kind id encoding m (.error e, m)
  | moved (stream : Stream Id) (document : Bytes) (hslot : m.slot? kind id = some (.live stream))
      (harchive : stream.archive encoding = .ok document) :
      Boxed kind id encoding m (.ok (), m.setSlot kind id (.archived encoding document))

theorem boxed_box (kind : String) (id : Id) (encoding : Encoding) (m : Memory Id) :
    Boxed kind id encoding m (m.box kind id encoding) := by
  rw [box]
  cases hslot : m.slot? kind id with
  | none => exact .refused _
  | some slot =>
    cases slot with
    | archived _ _ => exact .refused _
    | live stream =>
      cases harchive : stream.archive encoding with
      | ok document =>
        simp only [harchive]
        exact .moved stream document hslot harchive
      | error reason =>
        simp only [harchive]
        exact .refused _

/-- A move to the archive that is refused changes nothing. -/
theorem box_of_error {kind : String} {id : Id} {encoding : Encoding} {m : Memory Id}
    {e : ArchiveError} (h : (m.box kind id encoding).1 = .error e) :
    m.box kind id encoding = (.error e, m) := by
  have hboxed := boxed_box kind id encoding m
  generalize m.box kind id encoding = result at h hboxed ⊢
  cases hboxed with
  | refused e' =>
    cases h
    rfl
  | moved => cases h

/-- What moving an aggregate back from the archive can do. -/
inductive Unboxed (kind : String) (id : Id) (encoding : Encoding) (m : Memory Id) :
    Except ArchiveError (Record Id) × Memory Id → Prop where
  | refused (e : ArchiveError) : Unboxed kind id encoding m (.error e, m)
  | moved (stream : Stream Id) (document : Bytes)
      (hslot : m.slot? kind id = some (.archived encoding document))
      (hrestore : Stream.restore document = .ok stream) :
      Unboxed kind id encoding m (.ok stream.record, m.setSlot kind id (.live stream))

theorem unboxed_unbox (kind : String) (id : Id) (encoding : Encoding) (m : Memory Id) :
    Unboxed kind id encoding m (m.unbox kind id encoding) := by
  rw [unbox]
  cases hslot : m.slot? kind id with
  | none => exact .refused _
  | some slot =>
    cases slot with
    | live _ => exact .refused _
    | archived written document =>
      by_cases hwritten : written = encoding
      · subst hwritten
        simp only [ne_eq, not_true_eq_false, if_false]
        cases hrestore : (Stream.restore document : Except Json.Failure (Stream Id)) with
        | ok stream => exact .moved stream document hslot hrestore
        | error failure => exact .refused _
      · simp only [ne_eq, hwritten, not_false_eq_true, if_true]
        exact .refused _

/-- Nor does a move back that is refused. -/
theorem unbox_of_error {kind : String} {id : Id} {encoding : Encoding} {m : Memory Id}
    {e : ArchiveError} (h : (m.unbox kind id encoding).1 = .error e) :
    m.unbox kind id encoding = (.error e, m) := by
  have hunboxed := unboxed_unbox kind id encoding m
  generalize m.unbox kind id encoding = result at h hunboxed ⊢
  cases hunboxed with
  | refused e' =>
    cases h
    rfl
  | moved => cases h

end Memory

/-! ### Histories -/

attribute [local instance] Counting.exact

/-- The versions of a batch without a gap follow each other. -/
theorem Memory.map_version_of_gap? {version : Nat} {events : List NewEvent}
    (h : Memory.gap? version events = none) :
    events.map NewEvent.version = List.range' (version + 1) events.length := by
  induction events generalizing version with
  | nil => rfl
  | cons e rest ih =>
    rw [Memory.gap?] at h
    split at h
    · rename_i he
      rw [List.map_cons, ih h, he, List.length_cons, List.range'_succ, Counting.plus_exact]
    · cases h


/-- The stream of the aggregate of a kind and an identifier: at least one event, the versions
counted from one, and the record at the last of them. -/
structure Stream.WellFormed (kind : String) (id : Id) (s : Stream Id) : Prop where
  versions : s.events.map StoredEvent.version = List.range' 1 s.events.length
  nonempty : 1 ≤ s.events.length
  version : s.record.version = s.events.length
  aggregate : s.record.aggregate = id
  events : ∀ e ∈ s.events, e.aggregateKind = kind ∧ e.aggregate = id

omit [Identifier Id] in
/-- A well-formed stream stays so with a batch behind it. -/
theorem Stream.wellFormed_append (kind : String) (history : List (StoredEvent Id))
    (record : Record Id) {events : List NewEvent}
    (hversions : history.map StoredEvent.version = List.range' 1 history.length)
    (hevents : ∀ e ∈ history, e.aggregateKind = kind ∧ e.aggregate = record.aggregate)
    (hgap : Memory.gap? history.length events = none)
    (hversion : record.version = history.length + events.length) (hpos : 1 ≤ record.version) :
    (Stream.mk record
      (history ++ events.map (NewEvent.stored kind record.aggregate))).WellFormed kind
      record.aggregate where
  versions := by
    have hbatch : (events.map (NewEvent.stored kind record.aggregate)).map StoredEvent.version =
        events.map NewEvent.version := by
      rw [List.map_map]
      rfl
    rw [List.map_append, hversions, hbatch, Memory.map_version_of_gap? hgap, List.length_append,
      List.length_map, Nat.add_comm history.length 1]
    exact List.range'_append_1
  nonempty := by
    rw [List.length_append, List.length_map, ← hversion]
    exact hpos
  version := by rw [hversion, List.length_append, List.length_map]
  aggregate := rfl
  events e he := by
    rcases List.mem_append.mp he with he | he
    · exact hevents e he
    · obtain ⟨e', -, rfl⟩ := List.mem_map.mp he
      exact ⟨rfl, rfl⟩

/-- What a place for the aggregate of a kind and an identifier keeps of its history. -/
inductive Slot.Keeps (kind : String) (id : Id) : Option (Slot Id) → List (StoredEvent Id) → Prop
    where
  | nothing : Slot.Keeps kind id none []
  | live (s : Stream Id) (h : s.WellFormed kind id) : Slot.Keeps kind id (some (.live s)) s.events
  | archived (s : Stream Id) (h : s.WellFormed kind id) (encoding : Encoding) (document : Bytes)
      (harchive : s.archive encoding = .ok document) :
      Slot.Keeps kind id (some (.archived encoding document)) s.events

namespace Memory

/-- The store keeps a history of the aggregate of a kind and an identifier. -/
def Keeps (kind : String) (id : Id) (history : List (StoredEvent Id)) (m : Memory Id) : Prop :=
  Slot.Keeps kind id (m.slot? kind id) history

theorem keeps_empty (kind : String) (id : Id) : (empty : Memory Id).Keeps kind id [] := .nothing

variable {kind : String} {id : Id} {history : List (StoredEvent Id)} {m : Memory Id}

/-- The history that is kept of a live aggregate is that of its stream. -/
theorem Keeps.of_live {stream : Stream Id} (h : m.Keeps kind id history)
    (hslot : m.slot? kind id = some (.live stream)) :
    history = stream.events ∧ stream.WellFormed kind id := by
  rw [Keeps, hslot] at h
  cases h with
  | live _ h => exact ⟨rfl, h⟩

/-- The events of a live aggregate are those of its stream. -/
theorem loadEvents_of_live {stream : Stream Id} (hslot : m.slot? kind id = some (.live stream))
    (window : Window) :
    m.loadEvents kind id window = stream.events.filter fun e => window.contains e.version := by
  rw [loadEvents, stream?_eq_some.mpr hslot]

theorem get_eq_found {record : Record Id} (h : m.get kind id = .found record) :
    ∃ stream, m.slot? kind id = some (.live stream) ∧ stream.record = record := by
  rw [get] at h
  split at h
  · rename_i stream hslot
    exact ⟨stream, hslot, Lookup.found.inj h⟩
  · cases h
  · cases h

/-- The record of a live aggregate is at the last event of its history. -/
theorem Keeps.version_of_found {record : Record Id} (h : m.Keeps kind id history)
    (hget : m.get kind id = .found record) : record.version = history.length := by
  obtain ⟨stream, hslot, rfl⟩ := get_eq_found hget
  obtain ⟨rfl, hstream⟩ := h.of_live hslot
  exact hstream.version

theorem Keeps.of_none (h : m.Keeps kind id history) (hslot : m.slot? kind id = none) :
    history = [] := by
  rw [Keeps, hslot] at h
  cases h
  rfl

/-- Replacing one place leaves what is kept elsewhere. -/
theorem Keeps.setSlot {kind' : String} {id' : Id} {slot : Slot Id}
    {history' : List (StoredEvent Id)} (h : m.Keeps kind id history)
    (hslot : (kind', id') = (kind, id) → Slot.Keeps kind id (some slot) history')
    (hother : (kind', id') ≠ (kind, id) → history' = history) :
    (m.setSlot kind' id' slot).Keeps kind id history' := by
  rw [Keeps, slot?_setSlot]
  split
  · exact hslot (by assumption)
  · rw [hother (by assumption)]
    exact h

end Memory

/-! ### Calls -/

/-- A call that may change a store. -/
inductive Call (Id : Type) where
  | save (kind : String) (record : Record Id) (expected : Nat) (events : List NewEvent)
  | box (kind : String) (id : Id) (encoding : Encoding)
  | unbox (kind : String) (id : Id) (encoding : Encoding)

namespace Memory

/-- The store behind a call. -/
def after [Counting] (m : Memory Id) : Call Id → Memory Id
  | .save kind record expected events => (m.save kind record expected events).2
  | .box kind id encoding => (m.box kind id encoding).2
  | .unbox kind id encoding => (m.unbox kind id encoding).2

/-- What a call commits to the history of an aggregate: the version that was presented and the
batch, if the call is a save to the aggregate that is accepted. -/
def committed [Counting] (kind : String) (id : Id) (m : Memory Id) :
    Call Id → List (Nat × List (StoredEvent Id))
  | .save kind' record expected events =>
    match (m.save kind' record expected events).1 with
    | .ok _ =>
      if (kind', record.aggregate) = (kind, id) then
        [(expected, events.map (NewEvent.stored kind' record.aggregate))]
      else []
    | .error _ => []
  | .box _ _ _ => []
  | .unbox _ _ _ => []

section Step

variable {kind : String} {id : Id} {history : List (StoredEvent Id)} {m : Memory Id}

/-- A save that is accepted presents the length of the history that is kept and puts its batch
behind it; every other history stays. -/
theorem Keeps.save (h : m.Keeps kind id history) (kind' : String) (record : Record Id)
    (expected : Nat) (events : List NewEvent) :
    (m.save kind' record expected events).2.Keeps kind id
        (history ++ (m.committed kind id (.save kind' record expected events)).flatMap Prod.snd) ∧
      Follows history.length (m.committed kind id (.save kind' record expected events)) := by
  have hsaved := saved_save kind' record expected events m
  simp only [committed]
  revert hsaved
  generalize m.save kind' record expected events = result
  intro hsaved
  -- First the saves of the aggregate itself, then those of all others.
  by_cases hkey : (kind', record.aggregate) = (kind, id)
  · obtain ⟨rfl, rfl⟩ := Prod.mk.inj hkey
    cases hsaved with
    | refused e => exact ⟨by simpa using h, trivial⟩
    | nothing hslot hexpected hevents hversion =>
      have hnil := h.of_none hslot
      subst hnil hevents hexpected
      simpa [Follows] using h
    | first hslot hexpected hevents hgap hversion =>
      have hnil := h.of_none hslot
      subst hnil hexpected
      have hwf := Stream.wellFormed_append kind' [] record (by simp) (by simp) hgap
        (by simpa using hversion)
        (by rw [hversion, Counting.plus_exact, Nat.zero_add]; exact List.length_pos_iff.mpr hevents)
      refine ⟨h.setSlot (fun _ => ?_) (fun hne => absurd rfl hne), by simp [Follows]⟩
      simpa using Slot.Keeps.live _ hwf
    | behind stream hslot hexpected hgap hversion =>
      obtain ⟨rfl, hstream⟩ := h.of_live hslot
      have hlength : expected = stream.events.length := by rw [← hexpected, hstream.version]
      have hwf := Stream.wellFormed_append kind' stream.events record hstream.versions
        hstream.events (by rw [← hlength]; exact hgap)
        (by rw [hversion, hlength, Counting.plus_exact])
        (by have := hstream.nonempty; rw [hversion, Counting.plus_exact]; omega)
      refine ⟨h.setSlot (fun _ => ?_) (fun hne => absurd rfl hne), by simp [Follows, hlength]⟩
      simpa using Slot.Keeps.live _ hwf
  · cases hsaved with
    | refused e => exact ⟨by simpa using h, trivial⟩
    | nothing hslot hexpected hevents hversion => simpa [hkey, Follows] using h
    | first hslot hexpected hevents hgap hversion =>
      refine ⟨h.setSlot (fun heq => absurd heq hkey) fun _ => ?_, by simp [hkey, Follows]⟩
      simp [hkey]
    | behind stream hslot hexpected hgap hversion =>
      refine ⟨h.setSlot (fun heq => absurd heq hkey) fun _ => ?_, by simp [hkey, Follows]⟩
      simp [hkey]

theorem committed_save_ok {record : Record Id} {expected version : Nat} {events : List NewEvent}
    {m' : Memory Id} (hsave : m.save kind record expected events = (.ok version, m')) :
    m.committed kind record.aggregate (.save kind record expected events) =
      [(expected, events.map (NewEvent.stored kind record.aggregate))] := by
  simp only [committed, hsave, if_true]

/-- An accepted save to the aggregate itself. -/
theorem Keeps.save_ok {record : Record Id} {expected version : Nat} {events : List NewEvent}
    {m' : Memory Id} (h : m.Keeps kind record.aggregate history)
    (hsave : m.save kind record expected events = (.ok version, m')) :
    expected = history.length ∧ m'.Keeps kind record.aggregate
      (history ++ events.map (NewEvent.stored kind record.aggregate)) := by
  obtain ⟨hkeeps, hfollows⟩ := h.save kind record expected events
  rw [committed_save_ok hsave] at hkeeps hfollows
  rw [hsave] at hkeeps
  exact ⟨hfollows.1, by simpa using hkeeps⟩

/-- The archive keeps what it gets. -/
theorem Keeps.box (h : m.Keeps kind id history) (kind' : String) (id' : Id) (encoding : Encoding) :
    (m.box kind' id' encoding).2.Keeps kind id history := by
  have hboxed := boxed_box kind' id' encoding m
  revert hboxed
  generalize m.box kind' id' encoding = result
  intro hboxed
  cases hboxed with
  | refused e => exact h
  | moved stream document hslot harchive =>
    refine h.setSlot (fun hkey => ?_) fun _ => rfl
    obtain ⟨rfl, rfl⟩ := Prod.mk.inj hkey
    obtain ⟨rfl, hstream⟩ := h.of_live hslot
    exact .archived stream hstream encoding document harchive

variable [Identifier.Unmistakable Id]

/-- The archive gives back what it got. -/
theorem Keeps.unbox (h : m.Keeps kind id history) (kind' : String) (id' : Id)
    (encoding : Encoding) : (m.unbox kind' id' encoding).2.Keeps kind id history := by
  have hunboxed := unboxed_unbox kind' id' encoding m
  revert hunboxed
  generalize m.unbox kind' id' encoding = result
  intro hunboxed
  cases hunboxed with
  | refused e => exact h
  | moved stream document hslot hrestore =>
    -- What is kept in the archive says of which stream the document was written.
    refine h.setSlot (fun hkey => ?_) fun _ => rfl
    obtain ⟨rfl, rfl⟩ := Prod.mk.inj hkey
    rw [Memory.Keeps, hslot] at h
    cases h with
    | archived s hs encoding document harchive =>
      rw [Stream.eq_of_restore harchive hrestore]
      exact .live s hs

/-- **A call puts what it commits behind the history of the aggregate**, and a save that commits
anything has presented the length of that history. -/
theorem Keeps.after (h : m.Keeps kind id history) (call : Call Id) :
    (m.after call).Keeps kind id (history ++ (m.committed kind id call).flatMap Prod.snd) ∧
      Follows history.length (m.committed kind id call) := by
  cases call with
  | save kind' record expected events => exact h.save kind' record expected events
  | box kind' id' encoding =>
    exact ⟨by simpa [committed, Memory.after] using h.box kind' id' encoding, trivial⟩
  | unbox kind' id' encoding =>
    exact ⟨by simpa [committed, Memory.after] using h.unbox kind' id' encoding, trivial⟩

end Step

end Memory

end EventSourcing
