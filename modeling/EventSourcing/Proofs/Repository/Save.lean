import EventSourcing.Proofs.Aggregate.InPlace
import EventSourcing.Proofs.Event.RoundTrip
import EventSourcing.Proofs.Repository.OnMemory

/-!
# Batches

What a save hands to the store, and when there is nothing to hand over.

## Main Definitions

* `Envelope.Committable`, `Envelope.Fault` — events that can be committed, and why one cannot be.
* `Root.Own` — a root of an aggregate whose pending events are new events of that aggregate.

## Main Statements

* `Root.stage_of_committable`, `Root.stage_eq_error` — pending events are staged, unless one of them
  cannot be committed; the first such event is the one that is named.
* `Root.prepared_eq_ok`, `Root.prepared_eq_error` — what a save hands to the store, or why it does
  not.
* `Root.Own.refused` — why a save of an own root hands nothing to the store.
* `decoded_encodedFrom` — the payloads of a batch are read back.
-/

namespace EventSourcing

variable {Id : Type} [Identifier Id] {A : Aggregate Id} {codec : Codec}

/-! ### Encoded events -/

section Encoded

variable [Counting]

omit [Identifier Id] in
/-- A batch starts with the first event and goes on with those behind it. -/
theorem encodedFrom_cons_eq_ok {version : Nat} {e : Envelope Id A.Event}
    {rest : List (Envelope Id A.Event)} {batch : List NewEvent}
    (h : encodedFrom A codec version (e :: rest) = .ok batch) :
    ∃ data batch', A.events.encode codec e.payload = .ok data ∧
      encodedFrom A codec (plus version 1) rest = .ok batch' ∧
      batch = ⟨e.id, A.events.kind e.payload, plus version 1, data, e.time, e.originator⟩ ::
        batch' := by
  rw [encodedFrom] at h
  split at h
  · cases h
  · rename_i data hdata
    obtain ⟨batch', hbatch, h⟩ := bind_eq_ok.mp h
    cases h
    exact ⟨data, batch', hdata, hbatch, rfl⟩

omit [Identifier Id] in
theorem length_encodedFrom {version : Nat} {es : List (Envelope Id A.Event)}
    {batch : List NewEvent} (h : encodedFrom A codec version es = .ok batch) :
    batch.length = es.length := by
  induction es generalizing version batch with
  | nil =>
    cases h
    rfl
  | cons e rest ih =>
    obtain ⟨data, batch', -, hbatch, rfl⟩ := encodedFrom_cons_eq_ok h
    rw [List.length_cons, ih hbatch, List.length_cons]

omit [Identifier Id] in
/-- Encoding fails only because the codec refuses an event. -/
theorem encodedFrom_eq_error {version : Nat} {es : List (Envelope Id A.Event)} {e : SaveError Id}
    (h : encodedFrom A codec version es = .error e) : ∃ kind reason, e = .codec kind reason := by
  induction es generalizing version with
  | nil => cases h
  | cons e' rest ih =>
    rw [encodedFrom] at h
    split at h
    · cases h
      exact ⟨_, _, rfl⟩
    · cases hrest : encodedFrom A codec (plus version 1) rest with
      | error e'' =>
        rw [hrest] at h
        cases h
        exact ih hrest
      | ok batch =>
        rw [hrest] at h
        cases h

omit [Identifier Id] in
/-- The versions of a batch leave no gap. -/
theorem gap?_encodedFrom {version : Nat} {es : List (Envelope Id A.Event)} {batch : List NewEvent}
    (h : encodedFrom A codec version es = .ok batch) : Memory.gap? version batch = none := by
  induction es generalizing version batch with
  | nil =>
    cases h
    rfl
  | cons e rest ih =>
    obtain ⟨data, batch', -, hbatch, rfl⟩ := encodedFrom_cons_eq_ok h
    rw [Memory.gap?, if_pos rfl]
    exact ih hbatch

omit [Identifier Id] in
/-- The payloads of a batch are read back from the store. -/
theorem decoded_encodedFrom (hcodec : A.events.RoundTrips codec) {version : Nat}
    {es : List (Envelope Id A.Event)} {batch : List NewEvent}
    (h : encodedFrom A codec version es = .ok batch) (kind : String) (id : Id) :
    (batch.map (NewEvent.stored kind id)).mapM (fun e => A.events.decode codec e.kind e.data) =
      .ok (es.map Envelope.payload) := by
  induction es generalizing version batch with
  | nil =>
    cases h
    rfl
  | cons e rest ih =>
    obtain ⟨data, batch', hdata, hbatch, rfl⟩ := encodedFrom_cons_eq_ok h
    rw [List.map_cons, mapM_cons_eq_ok]
    exact ⟨e.payload, hcodec e.payload data hdata, _, ih hbatch, rfl⟩

end Encoded

/-! ### Events that can be committed -/

namespace Envelope

variable {Event : Type}

/-- An event that can be committed to an aggregate: it belongs to it, and has not been committed. -/
structure Committable (id : Id) (e : Envelope Id Event) : Prop where
  identified : Identifier.isEmpty e.aggregate = false
  aggregate : e.aggregate = id
  version : e.version = none

/-- Why an event cannot be committed to an aggregate; of several reasons the first one counts. -/
inductive Fault (id : Id) (e : Envelope Id Event) : FlushError Id → Prop where
  | empty (hempty : Identifier.isEmpty e.aggregate = true) : Fault id e (.emptyAggregateId e.id)
  | foreign (hidentified : Identifier.isEmpty e.aggregate = false) (hforeign : e.aggregate ≠ id) :
      Fault id e (.aggregateMismatch id e.aggregate e.id)
  | committed (hidentified : Identifier.isEmpty e.aggregate = false) (hown : e.aggregate = id)
      (version : Nat) (hversion : e.version = some version) :
      Fault id e (.alreadyCommitted e.id version)

end Envelope

namespace Root

theorem flushFault?_eq_none {id : Id} {e : Envelope Id A.Event} :
    flushFault? id e = none ↔ e.Committable id := by
  rw [flushFault?]
  constructor
  · intro h
    split at h
    · cases h
    · rename_i hidentified
      split at h
      · cases h
      · rename_i hown
        exact ⟨Bool.eq_false_iff.mpr hidentified, Classical.not_not.mp hown,
          Option.map_eq_none_iff.mp h⟩
  · rintro ⟨hidentified, hown, hversion⟩
    rw [if_neg (Bool.eq_false_iff.mp hidentified), if_neg (not_not_intro hown), hversion]
    rfl

theorem flushFault?_eq_some {id : Id} {e : Envelope Id A.Event} {fault : FlushError Id} :
    flushFault? id e = some fault ↔ e.Fault id fault := by
  rw [flushFault?]
  constructor
  · intro h
    split at h
    · rename_i hempty
      cases h
      exact .empty hempty
    · rename_i hidentified
      have hidentified := Bool.eq_false_iff.mpr hidentified
      split at h
      · rename_i hforeign
        cases h
        exact .foreign hidentified hforeign
      · rename_i hown
        obtain ⟨version, hversion, rfl⟩ := Option.map_eq_some_iff.mp h
        exact .committed hidentified (Classical.not_not.mp hown) version hversion
  · intro h
    cases h with
    | empty hempty => rw [if_pos hempty]
    | foreign hidentified hforeign =>
      rw [if_neg (Bool.eq_false_iff.mp hidentified), if_pos hforeign]
    | committed hidentified hown version hversion =>
      rw [if_neg (Bool.eq_false_iff.mp hidentified), if_neg (not_not_intro hown), hversion]
      rfl

variable [Counting]

/-- Pending events that can all be committed are staged. -/
theorem stage_of_committable {root : Root A} (h : ∀ e ∈ root.pending, e.Committable root.id) :
    root.stage = .ok (Envelope.committedFrom root.version root.pending) := by
  have hnone : root.pending.findSome? (flushFault? root.id) = none :=
    List.findSome?_eq_none_iff.mpr fun e he => flushFault?_eq_none.mpr (h e he)
  rw [stage, hnone]

/-- Events that are staged can be committed. -/
theorem committable_of_stage {root : Root A} {committed : List (Envelope Id A.Event)}
    (h : root.stage = .ok committed) : ∀ e ∈ root.pending, e.Committable root.id := by
  rw [stage] at h
  split at h
  · cases h
  · rename_i hnone
    exact fun e he => flushFault?_eq_none.mp (List.findSome?_eq_none_iff.mp hnone e he)

/-- **The first event that cannot be committed** is the one that is named. -/
theorem stage_eq_error {root : Root A} {fault : FlushError Id} :
    root.stage = .error fault ↔ ∃ front e rest, root.pending = front ++ e :: rest ∧
      (∀ e' ∈ front, e'.Committable root.id) ∧ e.Fault root.id fault := by
  have hfirst : root.stage = .error fault ↔
      root.pending.findSome? (flushFault? root.id) = some fault := by
    rw [stage]
    cases root.pending.findSome? (flushFault? root.id) with
    | none => simp
    | some first => simp
  rw [hfirst, List.findSome?_eq_some_iff]
  simp only [flushFault?_eq_none, flushFault?_eq_some]
  constructor
  · rintro ⟨front, e, rest, hpending, hfault, hfront⟩
    exact ⟨front, e, rest, hpending, hfront, hfault⟩
  · rintro ⟨front, e, rest, hpending, hfront, hfault⟩
    exact ⟨front, e, rest, hpending, hfault, hfront⟩

end Root

/-! ### Prepared roots -/

namespace Root

variable [Counting]

theorem stage_eq_ok {root : Root A} {committed : List (Envelope Id A.Event)}
    (h : root.stage = .ok committed) :
    committed = Envelope.committedFrom root.version root.pending := by
  rw [stage] at h
  split at h
  · cases h
  · exact (Except.ok.inj h).symm

/-- Pending events are committed by hand if they can be staged. -/
theorem flush_eq_ok {root root' : Root A} {committed : List (Envelope Id A.Event)} :
    root.flush = .ok (committed, root') ↔
      root.stage = .ok committed ∧ root.complete committed = root' := by
  rw [flush_eq, map_eq_ok]
  constructor
  · rintro ⟨staged, hstage, hflush⟩
    cases hflush
    exact ⟨hstage, rfl⟩
  · rintro ⟨hstage, rfl⟩
    exact ⟨committed, hstage, rfl⟩

/-- Pending events that can be committed belong to the root. -/
theorem aggregate_of_stage {root : Root A} {committed : List (Envelope Id A.Event)}
    (h : root.stage = .ok committed) : ∀ e ∈ root.pending, e.aggregate = root.id :=
  fun e he => (committable_of_stage h e he).aggregate

/-- A save stages the pending events and encodes them, if the version that is presented is that of
the root. -/
theorem stage_of_prepared {root : Root A} {expected : Option Nat}
    {committed : List (Envelope Id A.Event)} {batch : List NewEvent}
    (h : root.prepared codec expected = .ok (committed, batch)) :
    root.stage = .ok committed ∧ encodedFrom A codec root.version committed = .ok batch := by
  rw [prepared] at h
  by_cases hpresented : expected.getD root.version = root.version
  · simp only [ne_eq, hpresented, not_true_eq_false, if_false] at h
    obtain ⟨committed', hstage, h⟩ := bind_eq_ok.mp h
    obtain ⟨batch', hbatch, h⟩ := bind_eq_ok.mp h
    cases h
    exact ⟨mapError_eq_ok.mp hstage, hbatch⟩
  · simp only [ne_eq, hpresented, not_false_eq_true, if_true] at h
    cases h

/-- A save hands the encoded pending events to the store. -/
theorem prepared_eq_ok {root : Root A} {expected : Option Nat}
    {committed : List (Envelope Id A.Event)} {batch : List NewEvent}
    (h : root.prepared codec expected = .ok (committed, batch)) :
    committed = Envelope.committedFrom root.version root.pending ∧
      encodedFrom A codec root.version committed = .ok batch := by
  obtain ⟨hstage, hbatch⟩ := stage_of_prepared h
  exact ⟨stage_eq_ok hstage, hbatch⟩

/-- What a save hands to the store if the pending events can be committed and no version is
presented. -/
theorem prepared_of_stage {root : Root A} {committed : List (Envelope Id A.Event)}
    (h : root.stage = .ok committed) :
    root.prepared codec none =
      (encodedFrom A codec root.version committed).map fun batch => (committed, batch) := by
  rw [prepared, h]
  simp only [Option.getD_none, ne_eq, not_true_eq_false, if_false]
  show (encodedFrom A codec root.version committed >>= fun batch => .ok (committed, batch)) = _
  cases encodedFrom A codec root.version committed <;> rfl

/-- A save hands nothing to the store if another version is presented than that of the root, an
event cannot be committed to it, or the codec refuses one. -/
theorem prepared_eq_error {root : Root A} {expected : Option Nat} {e : SaveError Id}
    (h : root.prepared codec expected = .error e) :
    (∃ conflict, e = .conflict conflict) ∨ (∃ fault, root.stage = .error fault ∧ e = .flush fault) ∨
      ∃ kind reason, e = .codec kind reason := by
  rw [prepared] at h
  by_cases hpresented : expected.getD root.version = root.version
  · simp only [ne_eq, hpresented, not_true_eq_false, if_false] at h
    rcases bind_eq_error.mp h with hstage | ⟨committed, -, h⟩
    · obtain ⟨fault, hfault, rfl⟩ := mapError_eq_error.mp hstage
      exact .inr (.inl ⟨fault, hfault, rfl⟩)
    · rcases bind_eq_error.mp h with hbatch | ⟨batch, -, h⟩
      · exact .inr (.inr (encodedFrom_eq_error hbatch))
      · cases h
  · simp only [ne_eq, hpresented, not_false_eq_true, if_true] at h
    cases h
    exact .inl ⟨_, rfl⟩

/-- A root of an aggregate of a tenant; what is pending are new events of that aggregate. -/
structure Own (id : Id) (tenant : Option String) (root : Root A) : Prop where
  aggregate : root.id = id
  nonempty : Identifier.isEmpty id = false
  tenant : root.tenant = tenant
  pending : ∀ e ∈ root.pending, e.aggregate = id ∧ e.version = none

/-- A root whose events are committed is one of its aggregate. -/
theorem Own.complete {id : Id} {tenant : Option String} {root : Root A} (h : root.Own id tenant)
    (committed : List (Envelope Id A.Event)) : (root.complete committed).Own id tenant :=
  ⟨h.aggregate, h.nonempty, h.tenant, fun _ he => by cases he⟩

omit [Counting] in
theorem Own.aggregate_recordAt {id : Id} {tenant : Option String} {root : Root A}
    (h : root.Own id tenant) (version : Nat) : (root.recordAt version).aggregate = id :=
  h.aggregate

/-- What is pending on such a root can be committed. -/
theorem Own.stage {id : Id} {tenant : Option String} {root : Root A} (h : root.Own id tenant) :
    root.stage = .ok (Envelope.committedFrom root.version root.pending) := by
  refine stage_of_committable fun e he => ?_
  obtain ⟨haggregate, hversion⟩ := h.pending e he
  exact ⟨by rw [haggregate]; exact h.nonempty, haggregate.trans h.aggregate.symm, hversion⟩

/-- A save of such a root hands nothing to the store only if another version is presented than that
of the root or the codec refuses an event. -/
theorem Own.refused {id : Id} {tenant : Option String} {root : Root A} (h : root.Own id tenant)
    {expected : Option Nat} {e : SaveError Id}
    (hprepared : root.prepared codec expected = .error e) :
    (∃ conflict, e = .conflict conflict) ∨ ∃ kind reason, e = .codec kind reason := by
  rcases prepared_eq_error hprepared with hconflict | ⟨fault, hfault, -⟩ | hcodec
  · exact .inl hconflict
  · rw [h.stage] at hfault
    cases hfault
  · exact .inr hcodec

end Root

end EventSourcing
