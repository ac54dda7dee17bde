import EventSourcing.Proofs.Store.Calls

/-!
# The lifecycle of an aggregate

To a store an aggregate is absent, live or archived.  Each question that a store answers has an
answer for each of the three, and since the record of a live aggregate is at the last of its events
it does not matter whether a question is answered by the record or by the events.

A call moves an aggregate along the lifecycle only by doing what it is for: a first batch makes an
absent aggregate live, and the archive is entered and left.  No call leads back to absence.

## Main Definitions

* `Lifecycle`, `Memory.lifecycle` — where an aggregate is.
* `Memory.Turn` — the steps from one place to another.
* `Memory.deletions` — the marks of deletion in a store.

## Main Statements

* `Memory.mem_expired` — which aggregates are listed as expired.
* `Memory.Keeps.containsAt_iff` — which versions a live aggregate has.
* `Memory.turn_after` — what a call does to the lifecycle.
-/

namespace EventSourcing

attribute [local instance] Counting.exact

/-- Where an aggregate is. -/
inductive Lifecycle where
  | absent
  | live
  | archived (encoding : Encoding)
  deriving DecidableEq

namespace Memory

variable {Id : Type} [Identifier Id] {kind : String} {id : Id} {m : Memory Id}

/-- Where a store has an aggregate. -/
def lifecycle (kind : String) (id : Id) (m : Memory Id) : Lifecycle :=
  match m.slot? kind id with
  | none => .absent
  | some (.live _) => .live
  | some (.archived encoding _) => .archived encoding

theorem lifecycle_eq_absent : m.lifecycle kind id = .absent ↔ m.slot? kind id = none := by
  rw [lifecycle]
  cases m.slot? kind id with
  | none => simp
  | some slot => cases slot <;> simp

theorem lifecycle_eq_live :
    m.lifecycle kind id = .live ↔ ∃ stream, m.slot? kind id = some (.live stream) := by
  rw [lifecycle]
  cases m.slot? kind id with
  | none => simp
  | some slot => cases slot <;> simp

theorem lifecycle_eq_archived {encoding : Encoding} :
    m.lifecycle kind id = .archived encoding ↔
      ∃ document, m.slot? kind id = some (.archived encoding document) := by
  rw [lifecycle]
  cases m.slot? kind id with
  | none => simp
  | some slot => cases slot <;> simp

/-! ### Questions -/

omit [Identifier Id] in
theorem deletion?_eq_some {slot : Slot Id} {time : Instant} :
    deletion? slot = some (time, id) ↔
      ∃ stream, slot = .live stream ∧ stream.record.aggregate = id ∧
        stream.record.deleted = true ∧ stream.record.deletedAt = some time := by
  cases slot with
  | archived encoding document => simp [deletion?]
  | live stream =>
    rw [deletion?]
    by_cases hmark : stream.record.deleted = true
    · simp only [hmark, if_true, Option.map_eq_some_iff, Prod.mk.injEq, Slot.live.injEq,
        exists_eq_left', true_and]
      constructor
      · rintro ⟨_, htime, rfl, haggregate⟩
        exact ⟨haggregate, htime⟩
      · rintro ⟨haggregate, htime⟩
        exact ⟨time, htime, rfl, haggregate⟩
    · simp [hmark]

/-- The times of deletion of the live aggregates of a kind that are marked as deleted, with the
identifiers that their records name. -/
def deletions (kind : String) (m : Memory Id) : List (Instant × Id) :=
  m.slots.entries.filterMap fun e => if e.1.1 = kind then deletion? e.2 else none

theorem expired_eq (kind : String) (cutoff : Instant) (m : Memory Id) :
    m.expired kind cutoff =
      (((m.deletions kind).filter fun d => d.1.le cutoff).mergeSort deletedBefore).map Prod.snd :=
  rfl

theorem mem_deletions {time : Instant} :
    (time, id) ∈ m.deletions kind ↔ ∃ id' stream, m.slot? kind id' = some (.live stream) ∧
      stream.record.aggregate = id ∧ stream.record.deleted = true ∧
      stream.record.deletedAt = some time := by
  rw [deletions, List.mem_filterMap]
  constructor
  · rintro ⟨⟨⟨kind', id'⟩, slot⟩, hentry, hdeleted⟩
    split at hdeleted
    · rename_i hkind
      cases hkind
      obtain ⟨stream, rfl, hstream⟩ := deletion?_eq_some.mp hdeleted
      exact ⟨id', stream, Table.mem_entries.mp hentry, hstream⟩
    · cases hdeleted
  · rintro ⟨id', stream, hslot, hstream⟩
    refine ⟨((kind, id'), .live stream), Table.mem_entries.mpr hslot, ?_⟩
    rw [if_pos rfl]
    exact deletion?_eq_some.mpr ⟨stream, rfl, hstream⟩

/-- **The aggregates that are listed as expired** are those whose live record is marked as deleted
at the cutoff or before. -/
theorem mem_expired {cutoff : Instant} :
    id ∈ m.expired kind cutoff ↔ ∃ id' stream time, m.slot? kind id' = some (.live stream) ∧
      stream.record.aggregate = id ∧ stream.record.deleted = true ∧
      stream.record.deletedAt = some time ∧ time.le cutoff = true := by
  simp only [expired_eq, List.mem_map, List.mem_mergeSort, List.mem_filter]
  constructor
  · rintro ⟨⟨time, _⟩, ⟨hdeleted, hle⟩, rfl⟩
    obtain ⟨id', stream, hslot, haggregate, hmark, htime⟩ := mem_deletions.mp hdeleted
    exact ⟨id', stream, time, hslot, haggregate, hmark, htime, hle⟩
  · rintro ⟨id', stream, time, hslot, haggregate, hmark, htime, hle⟩
    exact ⟨(time, id), ⟨mem_deletions.mpr ⟨id', stream, hslot, haggregate, hmark, htime⟩, hle⟩, rfl⟩

variable {history : List (StoredEvent Id)}

/-- **A live aggregate has the versions up to that of its record**, and an event for each. -/
theorem Keeps.containsAt_iff (h : m.Keeps kind id history) {stream : Stream Id}
    (hslot : m.slot? kind id = some (.live stream)) (version : Nat) :
    (m.containsAt kind id version = true ↔ 1 ≤ version ∧ version ≤ stream.record.version) ∧
      ((∃ e ∈ m.loadEvents kind id .all, e.version = version) ↔
        1 ≤ version ∧ version ≤ stream.record.version) := by
  obtain ⟨rfl, hstream⟩ := h.of_live hslot
  constructor
  · rw [containsAt, stream?_eq_some.mpr hslot]
    simp
  · have hversions : (∃ e ∈ stream.events, e.version = version) ↔
        version ∈ stream.events.map StoredEvent.version := by simp
    have hall : m.loadEvents kind id .all = stream.events := by
      rw [loadEvents_of_live hslot]
      simp
    rw [hall, hversions, hstream.versions, hstream.version, List.mem_range'_1]
    omega

/-- A batch that fits is refused as archived if the aggregate is. -/
theorem save_of_archived [Counting] {record : Record Id} {expected : Nat} {events : List NewEvent}
    {encoding : Encoding} {document : Bytes}
    (hslot : m.slot? kind record.aggregate = some (.archived encoding document))
    (hgap : gap? expected events = none)
    (hversion : record.version = plus expected events.length) :
    m.save kind record expected events = (.error .archived, m) := by
  simp only [save, hgap, hversion, ne_eq, not_true_eq_false, if_false, hslot]

/-! ### Calls -/

/-- What a call may do to the lifecycle of an aggregate. -/
inductive Turn (kind : String) (id : Id) (m : Memory Id) (call : Call Id) :
    Lifecycle → Lifecycle → Prop where
  | stay (s : Lifecycle) : Turn kind id m call s s
  | first (record : Record Id) (expected : Nat) (events : List NewEvent) (version : Nat)
      (hcall : call = .save kind record expected events) (haggregate : record.aggregate = id)
      (hevents : events ≠ []) (hsave : (m.save kind record expected events).1 = .ok version) :
      Turn kind id m call .absent .live
  | boxed (encoding : Encoding) (hcall : call = .box kind id encoding)
      (hbox : (m.box kind id encoding).1 = .ok ()) : Turn kind id m call .live (.archived encoding)
  | unboxed (encoding : Encoding) (record : Record Id) (hcall : call = .unbox kind id encoding)
      (hunbox : (m.unbox kind id encoding).1 = .ok record) :
      Turn kind id m call (.archived encoding) .live

theorem lifecycle_setSlot_of_ne {kind' : String} {id' : Id} (hne : (kind', id') ≠ (kind, id))
    (slot : Slot Id) :
    (m.setSlot kind' id' slot).lifecycle kind id = m.lifecycle kind id := by
  rw [lifecycle, lifecycle, slot?_setSlot_of_ne hne]

@[simp] theorem lifecycle_setSlot_live (stream : Stream Id) :
    (m.setSlot kind id (.live stream)).lifecycle kind id = .live := by
  rw [lifecycle, slot?_setSlot_self]

@[simp] theorem lifecycle_setSlot_archived (encoding : Encoding) (document : Bytes) :
    (m.setSlot kind id (.archived encoding document)).lifecycle kind id = .archived encoding := by
  rw [lifecycle, slot?_setSlot_self]

/-- **What a call does to the lifecycle of an aggregate.** -/
theorem turn_after (kind : String) (id : Id) (m : Memory Id) (call : Call Id) :
    Turn kind id m call (m.lifecycle kind id) ((m.after call).lifecycle kind id) := by
  cases call with
  | save kind' record expected events =>
    have hsaved := saved_save kind' record expected events m
    rw [after]
    obtain ⟨answer, m', hsave⟩ : ∃ answer m', m.save kind' record expected events = (answer, m') :=
      ⟨_, _, rfl⟩
    rw [hsave] at hsaved ⊢
    by_cases hkey : (kind', record.aggregate) = (kind, id)
    · cases hkey
      cases hsaved with
      | refused | nothing => exact .stay _
      | first hslot hexpected hevents hgap hversion =>
        rw [lifecycle_setSlot_live, lifecycle_eq_absent.mpr hslot]
        exact .first record expected events _ rfl rfl hevents (by rw [hsave])
      | behind stream hslot hexpected hgap hversion =>
        rw [lifecycle_setSlot_live, lifecycle_eq_live.mpr ⟨stream, hslot⟩]
        exact .stay _
    · cases hsaved with
      | refused | nothing => exact .stay _
      | first | behind =>
        rw [lifecycle_setSlot_of_ne hkey]
        exact .stay _
  | box kind' id' encoding =>
    have hboxed := boxed_box kind' id' encoding m
    rw [after]
    obtain ⟨answer, m', hbox⟩ : ∃ answer m', m.box kind' id' encoding = (answer, m') :=
      ⟨_, _, rfl⟩
    rw [hbox] at hboxed ⊢
    cases hboxed with
    | refused => exact .stay _
    | moved stream document hslot harchive =>
      by_cases hkey : (kind', id') = (kind, id)
      · cases hkey
        rw [lifecycle_setSlot_archived, lifecycle_eq_live.mpr ⟨stream, hslot⟩]
        exact .boxed encoding rfl (by rw [hbox])
      · rw [lifecycle_setSlot_of_ne hkey]
        exact .stay _
  | unbox kind' id' encoding =>
    have hunboxed := unboxed_unbox kind' id' encoding m
    rw [after]
    obtain ⟨answer, m', hunbox⟩ : ∃ answer m', m.unbox kind' id' encoding = (answer, m') :=
      ⟨_, _, rfl⟩
    rw [hunbox] at hunboxed ⊢
    cases hunboxed with
    | refused => exact .stay _
    | moved stream document hslot hrestore =>
      by_cases hkey : (kind', id') = (kind, id)
      · cases hkey
        rw [lifecycle_setSlot_live, lifecycle_eq_archived.mpr ⟨document, hslot⟩]
        exact .unboxed encoding stream.record rfl (by rw [hunbox])
      · rw [lifecycle_setSlot_of_ne hkey]
        exact .stay _

end Memory

end EventSourcing
