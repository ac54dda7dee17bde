import EventSourcing.Proofs.Store.Lifecycle

/-!
# Which batches a store accepts

A batch comes with the version on which it is to stand and with the record that holds behind it.  A
store first looks at the batch alone: at the versions of its events from front to back, and then at
the version of the record.  Only a batch that is in order is held against what is stored: an
archived aggregate takes none, and any other one takes it exactly if it is at the version that the
batch is to stand on.  Then the events stand behind the earlier ones, the record is replaced, and
nothing else in the store has changed.

## Main Definitions

* `Memory.versionOf`, `Memory.eventsOf` — the version and the events that are stored of an
  aggregate.
* `Memory.InOrder` — a batch and a record that fit each other.
* `Memory.GrownBy` — a store in which the history of one aggregate has grown.
* `Memory.Settled` — what becomes of a batch, in the order in which it is decided.

## Main Statements

* `Memory.gap?_eq_none`, `Memory.gap?_of_front` — where a batch leaves its first gap.
* `Memory.settled_save`, `Memory.Settled.answer_eq` — a save settles a batch, and there is only one
  way to settle it.
* `Memory.accepted_iff` — which batches are accepted.
* `Memory.save_settles` — all of it, for any store.
-/

namespace EventSourcing.Memory

variable {Id : Type} [Identifier Id]

/-- The version that is stored of an aggregate; zero if it is not live. -/
def versionOf (kind : String) (id : Id) (m : Memory Id) : Nat :=
  match m.get kind id with
  | .found record => record.version
  | _ => 0

/-- The events that are stored of an aggregate; none if it is not live. -/
def eventsOf (kind : String) (id : Id) (m : Memory Id) : List (StoredEvent Id) :=
  match m.slot? kind id with
  | some (.live stream) => stream.events
  | _ => []

/-- A batch is in order: its events have the versions behind the one on which it is to stand, one
after the other, and the record is at the last of them. -/
structure InOrder [Counting] (record : Record Id) (expected : Nat) (events : List NewEvent) :
    Prop where
  contiguous : events.map NewEvent.version = Counting.following expected events.length
  version : record.version = plus expected events.length

/-- The second store is the first one with more events behind the history of an aggregate, whose
record is the given one. -/
structure GrownBy (kind : String) (record : Record Id) (more : List (StoredEvent Id))
    (m m' : Memory Id) : Prop where
  stream : m'.stream? kind record.aggregate =
    some ⟨record, m.eventsOf kind record.aggregate ++ more⟩
  elsewhere : ∀ kind' id', (kind', id') ≠ (kind, record.aggregate) →
    m'.slot? kind' id' = m.slot? kind' id'

/-- What becomes of a batch: the answer, and the store behind it. -/
inductive Settled [Counting] (kind : String) (record : Record Id) (expected : Nat)
    (events : List NewEvent) (m : Memory Id) : Except StoreSaveError Nat × Memory Id → Prop where
  /-- An event does not have the version behind those of the events in front of it. -/
  | gap (front : List NewEvent) (e : NewEvent) (rest : List NewEvent)
      (hevents : events = front ++ e :: rest)
      (hfront : front.map NewEvent.version = Counting.following expected front.length)
      (hversion : e.version ≠ plus expected (front.length + 1)) :
      Settled kind record expected events m
        (.error (.nonContiguous (plus expected (front.length + 1)) e.version), m)
  /-- The events are in order, but the record is not at the last of them. -/
  | record (hevents : events.map NewEvent.version = Counting.following expected events.length)
      (hversion : record.version ≠ plus expected events.length) :
      Settled kind record expected events m
        (.error (.nonContiguous (plus expected events.length) record.version), m)
  | archived (horder : InOrder record expected events)
      (hget : m.get kind record.aggregate = .archived) :
      Settled kind record expected events m (.error .archived, m)
  /-- Another version is stored than the one on which the batch is to stand. -/
  | conflict (horder : InOrder record expected events)
      (hget : m.get kind record.aggregate ≠ .archived)
      (hversion : m.versionOf kind record.aggregate ≠ expected) :
      Settled kind record expected events m
        (.error (.conflict ⟨expected, m.versionOf kind record.aggregate⟩), m)
  /-- There is no aggregate, and without events none comes into being. -/
  | nothing (horder : InOrder record expected events)
      (hget : m.get kind record.aggregate = .notFound) (hexpected : expected = 0)
      (hevents : events = []) :
      Settled kind record expected events m (.ok (plus expected events.length), m)
  | grown (m' : Memory Id) (horder : InOrder record expected events)
      (hget : m.get kind record.aggregate ≠ .archived)
      (hversion : m.versionOf kind record.aggregate = expected)
      (hevents : m.get kind record.aggregate = .notFound → events ≠ [])
      (hgrown : GrownBy kind record (events.map fun e =>
        { aggregateKind := kind
          aggregate := record.aggregate
          id := e.id
          kind := e.kind
          version := e.version
          data := e.data
          time := e.time
          originator := e.originator }) m m') :
      Settled kind record expected events m (.ok (plus expected events.length), m')

/-! ### Gaps -/

section Counting

variable [Counting]

/-- A batch without a gap has the versions that follow. -/
theorem gap?_eq_none {version : Nat} {events : List NewEvent} :
    gap? version events = none ↔
      events.map NewEvent.version = Counting.following version events.length := by
  induction events generalizing version with
  | nil => exact ⟨fun _ => rfl, fun _ => rfl⟩
  | cons e rest ih =>
    rw [List.map_cons, List.length_cons, Counting.following_succ, List.cons.injEq, gap?, ← ih]
    split
    · next he => exact ⟨fun h => ⟨he, h⟩, And.right⟩
    · next he =>
      constructor
      · intro h
        cases h
      · intro h
        exact absurd h.1 he

/-- **The first gap of a batch** is at the event that does not follow those in front of it. -/
theorem gap?_of_front {version : Nat} {front : List NewEvent} {e : NewEvent}
    (hfront : front.map NewEvent.version = Counting.following version front.length)
    (hversion : e.version ≠ plus version (front.length + 1)) (rest : List NewEvent) :
    gap? version (front ++ e :: rest) = some (plus version (front.length + 1), e.version) := by
  induction front generalizing version with
  | nil => exact if_neg hversion
  | cons first front ih =>
    rw [List.map_cons, List.length_cons, Counting.following_succ, List.cons.injEq] at hfront
    rw [List.length_cons, ← Counting.plus_one_plus] at hversion
    rw [List.cons_append, gap?, if_pos hfront.1, ih hfront.2 hversion, List.length_cons,
      Counting.plus_one_plus]

/-- A gap is at some event, and those in front of it leave none. -/
theorem exists_front_of_gap? {version : Nat} {events : List NewEvent} {found : Nat × Nat}
    (h : gap? version events = some found) :
    ∃ front e rest, events = front ++ e :: rest ∧
      front.map NewEvent.version = Counting.following version front.length ∧
      e.version ≠ plus version (front.length + 1) := by
  induction events generalizing version with
  | nil => cases h
  | cons e rest ih =>
    rw [gap?] at h
    by_cases he : e.version = plus version 1
    · rw [if_pos he] at h
      obtain ⟨front, bad, tail, rfl, hfront, hbad⟩ := ih h
      refine ⟨e :: front, bad, tail, rfl, ?_, ?_⟩
      · rw [List.map_cons, List.length_cons, Counting.following_succ, he, hfront]
      · rwa [List.length_cons, ← Counting.plus_one_plus]
    · exact ⟨[], e, rest, rfl, rfl, he⟩

/-! ### Saving -/

variable {kind : String} {record : Record Id} {expected : Nat} {events : List NewEvent}
  {m : Memory Id}

omit [Counting] in
/-- The store in which the stream of an aggregate has gone on. -/
theorem grownBy_setSlot (kind : String) (record : Record Id) (more : List (StoredEvent Id))
    (m : Memory Id) :
    GrownBy kind record more m (m.setSlot kind record.aggregate
      (.live ⟨record, m.eventsOf kind record.aggregate ++ more⟩)) where
  stream := by rw [stream?_eq_some, slot?_setSlot_self]
  elsewhere kind' id' hne := by rw [slot?_setSlot_of_ne (Ne.symm hne)]

/-- A batch in order for an aggregate that is not there. -/
theorem settled_of_none (horder : InOrder record expected events)
    (hslot : m.slot? kind record.aggregate = none) :
    Settled kind record expected events m (m.save kind record expected events) := by
  have hgap : gap? expected events = none := gap?_eq_none.mpr horder.contiguous
  have hget : m.get kind record.aggregate = .notFound := by rw [get, hslot]
  have hstored : m.versionOf kind record.aggregate = 0 := by rw [versionOf, hget]
  simp only [save, hgap, horder.version, ne_eq, not_true_eq_false, if_false, hslot]
  by_cases hexpected : expected = 0
  · rw [if_neg (not_not_intro hexpected)]
    by_cases hnil : events = []
    · rw [if_pos hnil]
      exact .nothing horder hget hexpected hnil
    · have hhistory : m.eventsOf kind record.aggregate = [] := by rw [eventsOf, hslot]
      have hgrown := grownBy_setSlot kind record
        (events.map (NewEvent.stored kind record.aggregate)) m
      rw [hhistory, List.nil_append] at hgrown
      rw [if_neg hnil]
      exact .grown _ horder (by simp [hget]) (by rw [hstored, hexpected]) (fun _ => hnil) hgrown
  · rw [if_pos hexpected, ← hstored]
    exact .conflict horder (by simp [hget]) (by rw [hstored]; exact Ne.symm hexpected)

/-- A batch in order for an aggregate that is live. -/
theorem settled_of_live (horder : InOrder record expected events) {stream : Stream Id}
    (hslot : m.slot? kind record.aggregate = some (.live stream)) :
    Settled kind record expected events m (m.save kind record expected events) := by
  have hget : m.get kind record.aggregate = .found stream.record := by rw [get, hslot]
  have hstored : m.versionOf kind record.aggregate = stream.record.version := by
    rw [versionOf, hget]
  rw [save_of_live hslot (gap?_eq_none.mpr horder.contiguous) horder.version, ← hstored]
  by_cases hexpected : m.versionOf kind record.aggregate = expected
  · have hhistory : m.eventsOf kind record.aggregate = stream.events := by rw [eventsOf, hslot]
    have hgrown := grownBy_setSlot kind record
      (events.map (NewEvent.stored kind record.aggregate)) m
    rw [hhistory] at hgrown
    rw [if_pos hexpected]
    exact .grown _ horder (by simp [hget]) hexpected (by simp [hget]) hgrown
  · rw [if_neg hexpected]
    exact .conflict horder (by simp [hget]) hexpected

/-- **A save settles a batch.** -/
theorem settled_save (kind : String) (record : Record Id) (expected : Nat)
    (events : List NewEvent) (m : Memory Id) :
    Settled kind record expected events m (m.save kind record expected events) := by
  -- The store is asked only for a batch that is in order.
  cases hgap : gap? expected events with
  | some found =>
    obtain ⟨front, e, rest, rfl, hfront, hversion⟩ := exists_front_of_gap? hgap
    simp only [save, gap?_of_front hfront hversion]
    exact .gap front e rest rfl hfront hversion
  | none =>
    have hevents := gap?_eq_none.mp hgap
    by_cases hversion : record.version = plus expected events.length
    · have horder : InOrder record expected events := ⟨hevents, hversion⟩
      cases hslot : m.slot? kind record.aggregate with
      | none => exact settled_of_none horder hslot
      | some slot =>
        cases slot with
        | live stream => exact settled_of_live horder hslot
        | archived encoding document =>
          rw [save_of_archived hslot hgap hversion]
          exact .archived horder (by rw [get, hslot])
    · simp only [save, hgap, ne_eq, hversion, not_false_eq_true, if_true]
      exact .record hevents hversion

/-- An archived aggregate takes no batch. -/
theorem answer_of_archived (horder : InOrder record expected events)
    (hget : m.get kind record.aggregate = .archived) :
    (m.save kind record expected events).1 = .error .archived := by
  have hgap : gap? expected events = none := gap?_eq_none.mpr horder.contiguous
  rw [get] at hget
  split at hget
  · cases hget
  · rename_i hslot
    rw [save_of_archived hslot hgap horder.version]
  · cases hget

/-- Any other one takes a batch in order exactly at the version on which that is to stand. -/
theorem answer_of_inOrder (horder : InOrder record expected events)
    (hget : m.get kind record.aggregate ≠ .archived) :
    (m.save kind record expected events).1 =
      if m.versionOf kind record.aggregate = expected then .ok (plus expected events.length)
      else .error (.conflict ⟨expected, m.versionOf kind record.aggregate⟩) := by
  have hgap : gap? expected events = none := gap?_eq_none.mpr horder.contiguous
  rw [versionOf]
  rw [get] at hget ⊢
  cases hslot : m.slot? kind record.aggregate with
  | none =>
    simp only [save, hgap, horder.version, ne_eq, not_true_eq_false, if_false, hslot]
    by_cases hexpected : expected = 0
    · rw [if_neg (not_not_intro hexpected), if_pos hexpected.symm]
      split
      · rfl
      · rfl
    · rw [if_pos hexpected, if_neg (Ne.symm hexpected)]
  | some slot =>
    cases slot with
    | archived encoding document =>
      rw [hslot] at hget
      exact absurd rfl hget
    | live stream =>
      rw [save_of_live hslot hgap horder.version]
      simp only []
      split
      · rfl
      · rfl

/-- **There is only one way to settle a batch.** -/
theorem Settled.answer_eq {result : Except StoreSaveError Nat × Memory Id}
    (h : Settled kind record expected events m result) :
    result.1 = (m.save kind record expected events).1 := by
  cases h with
  | gap front e rest hevents hfront hversion =>
    simp only [save, hevents, gap?_of_front hfront hversion]
  | record hevents hversion =>
    simp only [save, gap?_eq_none.mpr hevents, ne_eq, hversion, not_false_eq_true, if_true]
  | archived horder hget => rw [answer_of_archived horder hget]
  | conflict horder hget hversion => rw [answer_of_inOrder horder hget, if_neg hversion]
  | nothing horder hget hexpected =>
    have hstored : m.versionOf kind record.aggregate = expected := by
      rw [versionOf, hget, hexpected]
    rw [answer_of_inOrder horder (by simp [hget]), if_pos hstored]
  | grown m' horder hget hversion => rw [answer_of_inOrder horder hget, if_pos hversion]

/-- **Which batches are accepted**: those in order that stand on the stored version, unless the
aggregate is archived. -/
theorem accepted_iff :
    (∃ version, (m.save kind record expected events).1 = .ok version) ↔
      InOrder record expected events ∧ m.get kind record.aggregate ≠ .archived ∧
        m.versionOf kind record.aggregate = expected := by
  constructor
  · rintro ⟨version, h⟩
    have hsettled := settled_save kind record expected events m
    generalize m.save kind record expected events = result at h hsettled
    cases hsettled with
    | gap | record | archived | conflict => cases h
    | nothing horder hget hexpected => exact ⟨horder, by simp [hget], by
        rw [versionOf, hget, hexpected]⟩
    | grown m' horder hget hversion => exact ⟨horder, hget, hversion⟩
  · rintro ⟨horder, hget, hversion⟩
    exact ⟨_, by rw [answer_of_inOrder horder hget, if_pos hversion]⟩

end Counting

/-- **What becomes of a batch is settled by the batch, its record and what is stored**, and by
nothing else.  In any store, a save does the first of these that applies: it refuses the first event
that leaves a gap; it refuses a record that is not at the last event; it refuses an archived
aggregate; it refuses, as a conflict, a batch that is to stand on another version than the stored
one; otherwise it answers with the version behind the batch, and the store has grown by just these
events, unless there is no aggregate and no event.  So the batches that are accepted are those in
order that stand on the stored version of an aggregate that is not archived.  Versions are counted
in words. -/
theorem save_settles (kind : String) (record : Record Id) (expected : Nat)
    (events : List NewEvent) (m : Memory Id) :
    Settled kind record expected events m (m.save kind record expected events) ∧
      (∀ result, Settled kind record expected events m result →
        result.1 = (m.save kind record expected events).1) ∧
      ((∃ version, (m.save kind record expected events).1 = .ok version) ↔
        InOrder record expected events ∧ m.get kind record.aggregate ≠ .archived ∧
          m.versionOf kind record.aggregate = expected) :=
  ⟨settled_save kind record expected events m, fun _ h => h.answer_eq, accepted_iff⟩

/-- A counter at version one: a batch that leaves out version three is refused at its second event,
a batch for a new counter meets the version that is stored, and a batch behind it is accepted.  A
batch on the greatest version goes on with version zero. -/
theorem save_settles_counter :
    let event (version : Nat) : NewEvent := ⟨.nil, "reset", version, [], .epoch, .unknown⟩
    let record (version : Nat) : Record String := ⟨"c", version, none, false, none⟩
    let m : Memory String := (empty.save "counter" (record 1) 0 [event 1]).2
    (m.save "counter" (record 3) 1 [event 2, event 4]).1 = .error (.nonContiguous 3 4) ∧
    (m.save "counter" (record 2) 0 [event 1, event 2]).1 = .error (.conflict ⟨0, 1⟩) ∧
    (∃ version, (m.save "counter" (record 3) 1 [event 2, event 3]).1 = .ok version) ∧
    (empty.save "counter" (record 0) Version.max [event 0]).1 =
      .error (.conflict ⟨Version.max, 0⟩) := by
  intro event record m
  obtain ⟨-, hgap, -⟩ := save_settles "counter" (record 3) 1 [event 2, event 4] m
  obtain ⟨-, hconflict, -⟩ := save_settles "counter" (record 2) 0 [event 1, event 2] m
  obtain ⟨-, -, haccepted⟩ := save_settles "counter" (record 3) 1 [event 2, event 3] m
  obtain ⟨-, hpast, -⟩ := save_settles "counter" (record 0) Version.max [event 0] empty
  have hget : m.get "counter" "c" = .found (record 1) := by
    simp only [m, event, record]
    rfl
  have hstored : m.versionOf "counter" "c" = 1 := by rw [versionOf, hget]
  have hlive : m.get "counter" "c" ≠ .archived := by simp [hget]
  refine ⟨?_, ?_, haccepted.mpr ⟨⟨rfl, rfl⟩, hlive, hstored⟩, ?_⟩
  · exact (hgap _ (.gap [event 2] (event 4) [] rfl rfl (by decide))).symm
  · rw [← hstored]
    exact (hconflict _ (.conflict ⟨rfl, rfl⟩ hlive (by simp [record, hstored]))).symm
  · have hnext : plus Version.max 1 = 0 := by decide
    exact (hpast _ (.conflict ⟨rfl, hnext.symm⟩ nofun (by decide))).symm

end EventSourcing.Memory
