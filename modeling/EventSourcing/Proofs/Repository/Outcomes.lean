import EventSourcing.Proofs.Repository.Save
import EventSourcing.Proofs.Store.Acceptance
import EventSourcing.Sample.Counter
import Mathlib.Data.List.Defs

/-!
# What becomes of a root that is saved

A save first looks at the version that the caller presents, then at the pending events from front to
back: each must belong to the root and must not have been committed, and then the codec must be able
to write each.  Only then is the store asked, and as the batch is always in order, there is only one
thing that matters there: whether the version of the root is the one that is stored.

All of this is decided by the root, the version that is presented, the codec and the store; a
snapshot store has no part in it.  A root that is refused is as it was.

## Main Definitions

* `Envelope.WrittenAs` — what is stored of a committed event.
* `Root.Unready`, `Root.Deliverable` — why a root is not handed to a store, and when it can be.
* `Root.Delivery` — the batch in which its pending events are handed over.
* `Repository.Outcome` — what becomes of a root that is saved, in the order in which it is decided.

## Main Statements

* `writable_or_refused`, `encodedFrom_eq_refused` — the first event that the codec refuses is the
  one that is named.
* `Root.deliverable_or_unready`, `Root.Unready.prepared_eq`, `Root.Deliverable.exists_delivery` —
  what a save hands to the store, or why it does not.
* `Repository.Committed.outcome`, `Repository.Outcome.answer_eq` — a save has an outcome, and there
  is only one answer that it can give and one root that it can leave.
* `Repository.save_decided` — both, for any store and any snapshot store.
-/

namespace EventSourcing

variable {Id : Type} [Identifier Id] {A : Aggregate Id} {codec : Codec}

section Counting

variable [Counting]

/-! ### Events that are written -/

namespace Envelope

/-- An event whose payload the codec can write. -/
def Writable (codec : Codec) (e : Envelope Id A.Event) : Prop :=
  ∃ data, A.events.encode codec e.payload = .ok data

/-- What is stored of a committed event: its payload as the codec writes it, the rest as it is. -/
structure WrittenAs (codec : Codec) (e : Envelope Id A.Event) (s : StoredEvent Id) : Prop where
  aggregateKind : s.aggregateKind = A.kind
  aggregate : s.aggregate = e.aggregate
  id : s.id = e.id
  kind : s.kind = A.events.kind e.payload
  version : e.version = some s.version
  data : A.events.encode codec e.payload = .ok s.data
  time : s.time = e.time
  originator : s.originator = e.originator

omit [Identifier Id] in
/-- Committed events are the pending ones with the versions that follow, and otherwise unchanged. -/
theorem committedFrom_eq_mapIdx (version : Nat) (es : List (Envelope Id A.Event)) :
    committedFrom version es =
      es.mapIdx fun i e => { e with version := some (plus version (i + 1)) } := by
  induction es generalizing version with
  | nil => rfl
  | cons e rest ih =>
    rw [committedFrom, ih, List.mapIdx_cons]
    simp only [Nat.zero_add, committed, Counting.plus_one_plus]

end Envelope

section Encoded

variable {version : Nat} {es front rest : List (Envelope Id A.Event)} {bad : Envelope Id A.Event}
  {reason : String}

omit [Identifier Id] in
/-- The versions that a batch gets are not those that its events have. -/
theorem encodedFrom_committedFrom (version version' : Nat) (es : List (Envelope Id A.Event)) :
    encodedFrom A codec version (Envelope.committedFrom version' es) =
      encodedFrom A codec version es := by
  induction es generalizing version version' with
  | nil => rfl
  | cons e rest ih =>
    rw [Envelope.committedFrom, encodedFrom, encodedFrom, ih]
    rfl

omit [Identifier Id] in
/-- Events that can all be written are a batch. -/
theorem exists_encodedFrom (version : Nat) (h : ∀ e ∈ es, e.Writable codec) :
    ∃ batch, encodedFrom A codec version es = .ok batch := by
  induction es generalizing version with
  | nil => exact ⟨[], rfl⟩
  | cons e rest ih =>
    obtain ⟨data, hdata⟩ := h e List.mem_cons_self
    obtain ⟨batch, hbatch⟩ := ih (plus version 1) fun e' he' => h e' (List.mem_cons_of_mem e he')
    rw [encodedFrom, hdata, hbatch]
    exact ⟨_, rfl⟩

omit [Identifier Id] in
/-- **The first event that the codec refuses** is the one that is named. -/
theorem encodedFrom_eq_refused (version : Nat) (hfront : ∀ e ∈ front, e.Writable codec)
    (hbad : A.events.encode codec bad.payload = .error reason) (rest : List (Envelope Id A.Event)) :
    encodedFrom A codec version (front ++ bad :: rest) =
      .error (.codec (A.events.kind bad.payload) reason) := by
  induction front generalizing version with
  | nil => rw [List.nil_append, encodedFrom, hbad]
  | cons e front ih =>
    obtain ⟨data, hdata⟩ := hfront e List.mem_cons_self
    have hrest := ih (plus version 1) fun e' he' => hfront e' (List.mem_cons_of_mem e he')
    rw [List.cons_append, encodedFrom, hdata, hrest]
    rfl

omit [Counting] [Identifier Id] in
/-- Either all events can be written, or there is a first one that the codec refuses. -/
theorem writable_or_refused (codec : Codec) (es : List (Envelope Id A.Event)) :
    (∀ e ∈ es, e.Writable codec) ∨ ∃ front bad rest reason, es = front ++ bad :: rest ∧
      (∀ e ∈ front, e.Writable codec) ∧ A.events.encode codec bad.payload = .error reason := by
  induction es with
  | nil => exact .inl (List.forall_mem_nil _)
  | cons e es ih =>
    cases hdata : A.events.encode codec e.payload with
    | error reason => exact .inr ⟨[], e, es, reason, rfl, List.forall_mem_nil _, hdata⟩
    | ok data =>
      have hfirst : e.Writable codec := ⟨data, hdata⟩
      rcases ih with hall | ⟨front, bad, rest, reason, rfl, hfront, hbad⟩
      · exact .inl (List.forall_mem_cons.mpr ⟨hfirst, hall⟩)
      · exact .inr ⟨e :: front, bad, rest, reason, rfl,
          List.forall_mem_cons.mpr ⟨hfirst, hfront⟩, hbad⟩

omit [Identifier Id] in
/-- The events of a batch are stored as what is written of the committed ones. -/
theorem writtenAs_encodedFrom {id : Id} {batch : List NewEvent}
    (h : encodedFrom A codec version es = .ok batch) (hown : ∀ e ∈ es, e.aggregate = id) :
    List.Forall₂ (Envelope.WrittenAs codec) (Envelope.committedFrom version es)
      (batch.map (NewEvent.stored A.kind id)) := by
  induction es generalizing version batch with
  | nil =>
    cases h
    exact .nil
  | cons e rest ih =>
    obtain ⟨data, batch', hdata, hbatch, rfl⟩ := encodedFrom_cons_eq_ok h
    have hfirst : Envelope.WrittenAs codec (e.committed (plus version 1))
        (NewEvent.stored A.kind id
          ⟨e.id, A.events.kind e.payload, plus version 1, data, e.time, e.originator⟩) :=
      ⟨rfl, (hown e List.mem_cons_self).symm, rfl, rfl, rfl, hdata, rfl, rfl⟩
    exact .cons hfirst (ih hbatch fun e' he' => hown e' (List.mem_cons_of_mem e he'))

end Encoded

/-! ### Roots that are ready for a store -/

namespace Root

/-- The version that is presented, if any, is that of the root. -/
def Presented (expected : Option Nat) (root : Root A) : Prop :=
  ∀ version, expected = some version → version = root.version

/-- Why a root is not handed to a store; of several reasons the first one counts. -/
inductive Unready (codec : Codec) (expected : Option Nat) (root : Root A) :
    SaveError Id → Prop where
  | stale (presented : Nat) (hexpected : expected = some presented)
      (hstale : presented ≠ root.version) :
      Unready codec expected root (.conflict ⟨presented, root.version⟩)
  | flush (hpresented : root.Presented expected) (front : List (Envelope Id A.Event))
      (e : Envelope Id A.Event) (rest : List (Envelope Id A.Event)) (fault : FlushError Id)
      (hpending : root.pending = front ++ e :: rest)
      (hfront : ∀ e' ∈ front, e'.Committable root.id) (hfault : e.Fault root.id fault) :
      Unready codec expected root (.flush fault)
  | codec (hpresented : root.Presented expected)
      (hcommittable : ∀ e ∈ root.pending, e.Committable root.id)
      (front : List (Envelope Id A.Event)) (e : Envelope Id A.Event)
      (rest : List (Envelope Id A.Event)) (reason : String)
      (hpending : root.pending = front ++ e :: rest) (hfront : ∀ e' ∈ front, e'.Writable codec)
      (hreason : A.events.encode codec e.payload = .error reason) :
      Unready codec expected root (.codec (A.events.kind e.payload) reason)

/-- A root that can be handed to a store. -/
structure Deliverable (codec : Codec) (expected : Option Nat) (root : Root A) : Prop where
  presented : root.Presented expected
  committable : ∀ e ∈ root.pending, e.Committable root.id
  writable : ∀ e ∈ root.pending, e.Writable codec

variable {root : Root A} {expected : Option Nat}

/-- A root is ready or it is not. -/
theorem deliverable_or_unready (codec : Codec) (expected : Option Nat) (root : Root A) :
    root.Deliverable codec expected ∨ ∃ e, root.Unready codec expected e := by
  -- The reasons are looked for in the order in which a save does: each case excludes those before.
  by_cases hpresented : root.Presented expected
  · cases hstage : root.stage with
    | error fault =>
      obtain ⟨front, e, rest, hpending, hfront, hfault⟩ := stage_eq_error.mp hstage
      exact .inr ⟨_, .flush hpresented front e rest fault hpending hfront hfault⟩
    | ok committed =>
      have hcommittable := committable_of_stage hstage
      rcases writable_or_refused codec root.pending with
        hwritable | ⟨front, e, rest, reason, hpending, hfront, hreason⟩
      · exact .inl ⟨hpresented, hcommittable, hwritable⟩
      · exact .inr ⟨_, .codec hpresented hcommittable front e rest reason hpending hfront hreason⟩
  · obtain ⟨presented, hexpected⟩ := Classical.not_forall.mp hpresented
    obtain ⟨hexpected, hstale⟩ := Classical.not_imp.mp hexpected
    exact .inr ⟨_, .stale presented hexpected hstale⟩

/-- Presenting the version of the root is as good as presenting none. -/
theorem prepared_of_presented (h : root.Presented expected) :
    root.prepared codec expected = root.prepared codec none := by
  cases expected with
  | none => rfl
  | some presented =>
    obtain rfl := h presented rfl
    rfl

/-- A root that is not ready is refused for the reason. -/
theorem Unready.prepared_eq {e : SaveError Id} (h : root.Unready codec expected e) :
    root.prepared codec expected = .error e := by
  cases h with
  | stale presented hexpected hstale =>
    subst hexpected
    rw [prepared]
    simp only [Option.getD_some, ne_eq, hstale, not_false_eq_true, if_true]
    rfl
  | flush hpresented front e rest fault hpending hfront hfault =>
    have hstage : root.stage = .error fault :=
      stage_eq_error.mpr ⟨front, e, rest, hpending, hfront, hfault⟩
    rw [prepared_of_presented hpresented, prepared, hstage]
    simp only [Option.getD_none, ne_eq, not_true_eq_false, if_false]
    rfl
  | codec hpresented hcommittable front e rest reason hpending hfront hreason =>
    rw [prepared_of_presented hpresented, prepared_of_stage (stage_of_committable hcommittable),
      encodedFrom_committedFrom, hpending, encodedFrom_eq_refused _ hfront hreason]
    rfl

/-- The batch in which the pending events of a root are handed to a store: it fits the record, and
what will be stored is what is written of the committed events. -/
structure Delivery (codec : Codec) (root : Root A) (batch : List NewEvent) : Prop where
  length : batch.length = root.pending.length
  order : Memory.InOrder (root.recordAt (plus root.version root.pending.length)) root.version batch
  written : List.Forall₂ (Envelope.WrittenAs codec)
    (Envelope.committedFrom root.version root.pending) (batch.map (NewEvent.stored A.kind root.id))

/-- **A root that is ready is handed over as a batch in order.** -/
theorem Deliverable.exists_delivery (h : root.Deliverable codec expected) :
    ∃ batch, root.prepared codec expected =
        .ok (Envelope.committedFrom root.version root.pending, batch) ∧
      root.Delivery codec batch := by
  obtain ⟨batch, hbatch⟩ := exists_encodedFrom root.version h.writable
  have hlength := length_encodedFrom hbatch
  have hversion : (root.recordAt (plus root.version root.pending.length)).version =
      plus root.version batch.length := by
    rw [hlength]
    rfl
  refine ⟨batch, ?_, hlength, ⟨Memory.gap?_eq_none.mp (gap?_encodedFrom hbatch), hversion⟩,
    writtenAs_encodedFrom hbatch fun e he => (h.committable e he).aggregate⟩
  rw [prepared_of_presented h.presented, prepared_of_stage (stage_of_committable h.committable),
    encodedFrom_committedFrom, hbatch]
  rfl

/-- What is handed to a store is the batch of a root that is ready. -/
theorem delivery_of_prepared {committed : List (Envelope Id A.Event)} {batch : List NewEvent}
    (h : root.prepared codec expected = .ok (committed, batch)) :
    root.Deliverable codec expected ∧
      committed = Envelope.committedFrom root.version root.pending ∧ root.Delivery codec batch := by
  rcases root.deliverable_or_unready codec expected with hdeliverable | ⟨e, hunready⟩
  · obtain ⟨batch', hprepared, hdelivery⟩ := hdeliverable.exists_delivery
    rw [h] at hprepared
    cases hprepared
    exact ⟨hdeliverable, rfl, hdelivery⟩
  · rw [hunready.prepared_eq] at h
    cases h

end Root

/-! ### Outcomes -/

namespace Repository

/-- What becomes of a root that is saved: the answer, and the root and the store behind it. -/
inductive Outcome (codec : Codec) (root : Root A) (expected : Option Nat) (m : Memory Id) :
    Except (SaveError Id) (List (Envelope Id A.Event)) → Root A → Memory Id → Prop where
  | unready (e : SaveError Id) (hunready : root.Unready codec expected e) :
      Outcome codec root expected m (.error e) root m
  | archived (hdeliverable : root.Deliverable codec expected)
      (hget : m.get A.kind root.id = .archived) :
      Outcome codec root expected m (.error (.archived A.kind root.id)) root m
  /-- Another version is stored than that of the root. -/
  | conflict (hdeliverable : root.Deliverable codec expected)
      (hget : m.get A.kind root.id ≠ .archived)
      (hversion : m.versionOf A.kind root.id ≠ root.version) :
      Outcome codec root expected m
        (.error (.conflict ⟨root.version, m.versionOf A.kind root.id⟩)) root m
  /-- A new root without events leaves no trace. -/
  | nothing (hget : m.get A.kind root.id = .notFound) (hversion : root.version = 0)
      (hpresented : root.Presented expected) (hpending : root.pending = []) :
      Outcome codec root expected m (.ok []) root m
  | committed (hdeliverable : root.Deliverable codec expected)
      (hget : m.get A.kind root.id ≠ .archived)
      (hversion : m.versionOf A.kind root.id = root.version)
      (hpending : m.get A.kind root.id = .notFound → root.pending ≠ [])
      (committed : List (Envelope Id A.Event))
      (hcommitted : committed =
        root.pending.mapIdx fun i e => { e with version := some (plus root.version (i + 1)) })
      (stored : List (StoredEvent Id))
      (hstored : List.Forall₂ (Envelope.WrittenAs codec) committed stored) (m' : Memory Id)
      (hgrown : Memory.GrownBy A.kind (root.recordAt (plus root.version root.pending.length)) stored
        m m') :
      Outcome codec root expected m (.ok committed)
        { root with version := plus root.version root.pending.length, pending := [] } m'

/-- The root behind a save, given its answer. -/
def behindSave (root : Root A) :
    Except (SaveError Id) (List (Envelope Id A.Event) × Root A) → Root A
  | .ok (_, saved) => saved
  | .error _ => root

variable {root behind : Root A} {expected : Option Nat} {m m' : Memory Id}
  {committed : List (Envelope Id A.Event)} {batch : List NewEvent}
  {answer : Except (SaveError Id) (List (Envelope Id A.Event))}
  {result : Except (SaveError Id) (List (Envelope Id A.Event) × Root A) × Memory Id}

omit [Identifier Id] in
/-- Where nothing is pending, there is nothing to complete. -/
theorem complete_nil (hpending : root.pending = []) : root.complete [] = root := by
  rw [Root.complete, List.length_nil, Counting.plus_zero, ← hpending]

/-- A store refuses a root because the aggregate is archived or at another version. -/
theorem outcome_of_refused {e : StoreSaveError}
    (hprepared : root.prepared codec expected = .ok (committed, batch))
    (hsave : m.save A.kind (root.recordAt (plus root.version committed.length)) root.version batch =
      (.error e, m)) :
    Outcome codec root expected m (.error (.ofStore A.kind root.id e)) root m := by
  obtain ⟨hdeliverable, rfl, hdelivery⟩ := Root.delivery_of_prepared hprepared
  rw [Envelope.length_committedFrom] at hsave
  by_cases hget : m.get A.kind root.id = .archived
  · have hanswer := Memory.answer_of_archived hdelivery.order hget
    rw [hsave] at hanswer
    cases hanswer
    exact .archived hdeliverable hget
  · have hanswer := Memory.answer_of_inOrder hdelivery.order hget
    rw [hsave] at hanswer
    by_cases hversion : m.versionOf A.kind root.id = root.version
    · cases hanswer.trans (if_pos hversion)
    · cases hanswer.trans (if_neg hversion)
      exact .conflict hdeliverable hget hversion

/-- A store that accepts a root has grown by its events, or there is nothing to tell. -/
theorem outcome_of_accepted {version : Nat}
    (hprepared : root.prepared codec expected = .ok (committed, batch))
    (hsave : m.save A.kind (root.recordAt (plus root.version committed.length)) root.version batch =
      (.ok version, m')) :
    Outcome codec root expected m (.ok committed) (root.complete committed) m' := by
  obtain ⟨hdeliverable, rfl, hdelivery⟩ := Root.delivery_of_prepared hprepared
  rw [Envelope.length_committedFrom] at hsave
  have hsettled := Memory.settled_save A.kind
    (root.recordAt (plus root.version root.pending.length)) root.version batch m
  rw [hsave] at hsettled
  cases hsettled with
  | nothing horder hget hversion hevents =>
    -- Nothing has been committed, so the root behind the save is the one that was saved.
    have hpending : root.pending = [] := by
      have hlength := hdelivery.length
      rw [hevents] at hlength
      exact List.eq_nil_of_length_eq_zero hlength.symm
    have hnone : Envelope.committedFrom root.version root.pending = [] := by
      rw [hpending]
      rfl
    rw [hnone, complete_nil hpending]
    exact .nothing hget hversion hdeliverable.presented hpending
  | grown m' horder hget hversion hevents hgrown =>
    have hpending : m.get A.kind root.id = .notFound → root.pending ≠ [] := by
      intro hnone hnil
      have hlength := hdelivery.length
      rw [hnil] at hlength
      exact hevents hnone (List.eq_nil_of_length_eq_zero hlength)
    rw [Root.complete, Envelope.length_committedFrom]
    exact .committed hdeliverable hget hversion hpending _
      (Envelope.committedFrom_eq_mapIdx root.version root.pending) _ hdelivery.written m' hgrown

/-- **Committing a root has an outcome.** -/
theorem Committed.outcome (h : Committed codec root expected m result) :
    Outcome codec root expected m (result.1.map Prod.fst) (behindSave root result.1) result.2 := by
  cases h with
  | unprepared e hprepared =>
    rcases root.deliverable_or_unready codec expected with hdeliverable | ⟨e', hunready⟩
    · obtain ⟨batch, hbatch, -⟩ := hdeliverable.exists_delivery
      rw [hbatch] at hprepared
      cases hprepared
    · rw [hunready.prepared_eq] at hprepared
      cases hprepared
      exact .unready e hunready
  | refused committed batch e hprepared hsave => exact outcome_of_refused hprepared hsave
  | accepted committed batch version m' hprepared hsave => exact outcome_of_accepted hprepared hsave

/-- What a root that is handed to a store answers is what the store answers. -/
theorem Committed.answer_of_prepared (h : Committed codec root expected m result)
    (hprepared : root.prepared codec expected = .ok (committed, batch)) :
    result.1 = ((m.save A.kind (root.recordAt (plus root.version committed.length)) root.version
      batch).1.map fun _ => (committed, root.complete committed)).mapError
        (.ofStore A.kind root.id) := by
  cases h with
  | unprepared e hprepared' =>
    rw [hprepared] at hprepared'
    cases hprepared'
  | refused committed' batch' e hprepared' hsave
  | accepted committed' batch' version m' hprepared' hsave =>
    rw [hprepared] at hprepared'
    cases hprepared'
    rw [hsave]
    rfl

/-- The answer that a root which is ready gets from a store in which it is not archived. -/
theorem Committed.answer_of_deliverable (h : Committed codec root expected m result)
    (hdeliverable : root.Deliverable codec expected) (hget : m.get A.kind root.id ≠ .archived) :
    result.1 =
      if m.versionOf A.kind root.id = root.version then
        .ok (Envelope.committedFrom root.version root.pending,
          root.complete (Envelope.committedFrom root.version root.pending))
      else .error (.conflict ⟨root.version, m.versionOf A.kind root.id⟩) := by
  obtain ⟨batch, hprepared, hdelivery⟩ := hdeliverable.exists_delivery
  have hanswer := Memory.answer_of_inOrder hdelivery.order hget
  rw [h.answer_of_prepared hprepared, Envelope.length_committedFrom]
  by_cases hversion : m.versionOf A.kind root.id = root.version
  · rw [hanswer.trans (if_pos hversion), if_pos hversion]
    rfl
  · rw [hanswer.trans (if_neg hversion), if_neg hversion]
    rfl

/-- **There is only one answer** that a root can get, and one root that a save can leave. -/
theorem Outcome.answer_eq (h : Outcome codec root expected m answer behind m')
    (hcommitted : Committed codec root expected m result) :
    answer = result.1.map Prod.fst ∧ behind = behindSave root result.1 := by
  cases h with
  | unready e hunready =>
    have hprepared := hunready.prepared_eq
    cases hcommitted with
    | unprepared e' hprepared' =>
      rw [hprepared] at hprepared'
      cases hprepared'
      exact ⟨rfl, rfl⟩
    | refused committed batch e' hprepared' | accepted committed batch version m' hprepared' =>
      rw [hprepared] at hprepared'
      cases hprepared'
  | archived hdeliverable hget =>
    obtain ⟨batch, hprepared, hdelivery⟩ := hdeliverable.exists_delivery
    rw [hcommitted.answer_of_prepared hprepared, Envelope.length_committedFrom,
      Memory.answer_of_archived hdelivery.order hget]
    exact ⟨rfl, rfl⟩
  | conflict hdeliverable hget hversion =>
    rw [hcommitted.answer_of_deliverable hdeliverable hget, if_neg hversion]
    exact ⟨rfl, rfl⟩
  | nothing hget hversion hpresented hpending =>
    have hdeliverable : root.Deliverable codec expected :=
      ⟨hpresented, by rw [hpending]; exact List.forall_mem_nil _,
        by rw [hpending]; exact List.forall_mem_nil _⟩
    have hstored : m.versionOf A.kind root.id = root.version := by
      rw [Memory.versionOf, hget, hversion]
    have hnone : Envelope.committedFrom root.version root.pending = [] := by
      rw [hpending]
      rfl
    rw [hcommitted.answer_of_deliverable hdeliverable (by simp [hget]), if_pos hstored, hnone,
      complete_nil hpending]
    exact ⟨rfl, rfl⟩
  | committed hdeliverable hget hversion hpending committed hstamped =>
    rw [hcommitted.answer_of_deliverable hdeliverable hget, if_pos hversion, Root.complete,
      Envelope.length_committedFrom, hstamped, ← Envelope.committedFrom_eq_mapIdx]
    exact ⟨rfl, rfl⟩

end Repository

end Counting

namespace Repository

/-- **What becomes of a root that is saved is decided by the root, the version that is presented,
the codec and the store.**  A save does the first of these that applies: it refuses a presented
version that is not the one of the root, as a conflict; it refuses the first pending event that
cannot be committed to the root; it refuses the first one that the codec cannot write; it refuses an
archived aggregate; it refuses, as a conflict, a root that is not at the stored version; otherwise
it answers with the pending events, which get the versions that follow, it leaves the root behind
them, and the store has grown by just these events.  A root that is refused is left as it was, and
so is the store.  Whether there is a snapshot store, and what it keeps, has no part in it.  Versions
are counted in words. -/
theorem save_decided (codec : Codec) (m : Memory Id) (root : Root A) (expected : Option Nat) :
    ∃ answer behind m', Outcome codec root expected m answer behind m' ∧
      (∀ answer' behind' m'', Outcome codec root expected m answer' behind' m'' →
        answer' = answer ∧ behind' = behind) ∧
      ∀ (τ : Type) (snapshots : Option (SnapshotBackend τ Id)) (t : τ), ∃ t',
        (onMemory codec snapshots).saveInPlace expected (root, m, t) =
          (answer, behind, m', t') := by
  obtain ⟨result, hcommitted, hsave⟩ := committed_save codec m root expected
  refine ⟨_, _, _, hcommitted.outcome, fun _ _ _ h => h.answer_eq hcommitted, ?_⟩
  intro τ snapshots t
  rw [saveInPlace_eq, hsave τ snapshots t]
  obtain ⟨_ | ⟨committed, saved⟩, m'⟩ := result
  · exact ⟨_, rfl⟩
  · exact ⟨_, rfl⟩

open Sample in
/-- A counter at version one: behind an event of its own an event of another counter is refused, and
both stay pending; a root that has not seen the version is refused, and one that has is committed.
-/
theorem save_decided_counter :
    let e (aggregate : String) (version : Option Nat) : Envelope String counter.Event :=
      ⟨.nil, aggregate, version, CounterEvent.reset, .epoch, .unknown⟩
    let root (version : Nat) (pending : List (Envelope String counter.Event)) : Root counter :=
      { Root.bare counter "c" version none with pending := pending }
    let m : Memory String := (Memory.empty.save "counter" ⟨"c", 1, none, false, none⟩ 0
      [⟨.nil, "reset", 1, [], .epoch, .unknown⟩]).2
    let R := onMemory .json (none : Option (SnapshotBackend Unit String))
    (∃ stores, R.saveInPlace none (root 1 [e "c" none, e "d" none], m, ()) =
        (.error (.flush (.aggregateMismatch "c" "d" .nil)), root 1 [e "c" none, e "d" none],
          stores)) ∧
      (∃ stores, R.saveInPlace (some 0) (root 0 [e "c" none], m, ()) =
        (.error (.conflict ⟨0, 1⟩), root 0 [e "c" none], stores)) ∧
      ∃ stores, R.saveInPlace (some 1) (root 1 [e "c" none], m, ()) =
        (.ok [e "c" (some 2)], root 2 [], stores) := by
  intro e root m R
  have hget : m.get "counter" "c" = .found ⟨"c", 1, none, false, none⟩ := rfl
  have hlive : m.get "counter" "c" ≠ .archived := by simp [hget]
  have hcommittable : ∀ e' ∈ [e "c" none], e'.Committable "c" :=
    List.forall_mem_singleton.mpr ⟨by decide, rfl, rfl⟩
  have hforeign : (e "d" none).Fault "c" (.aggregateMismatch "c" "d" .nil) :=
    .foreign (by decide) (by decide)
  have hunready : (root 1 [e "c" none, e "d" none]).Unready .json none
      (.flush (.aggregateMismatch "c" "d" .nil)) := by
    refine .flush ?_ [e "c" none] (e "d" none) [] _ rfl hcommittable hforeign
    intro _ h
    cases h
  have hdeliverable (version : Nat) :
      (root version [e "c" none]).Deliverable .json (some version) :=
    ⟨fun _ h => (Option.some.inj h).symm, hcommittable, List.forall_mem_singleton.mpr ⟨_, rfl⟩⟩
  have hgrown := Memory.grownBy_setSlot "counter" ((root 1 [e "c" none]).recordAt 2)
    [⟨"counter", "c", .nil, "reset", 2, [110, 117, 108, 108], .epoch, .unknown⟩] m
  refine ⟨?_, ?_, ?_⟩
  · obtain ⟨_, _, _, -, honly, hrun⟩ := save_decided .json m (root 1 [e "c" none, e "d" none]) none
    obtain ⟨rfl, rfl⟩ := honly _ _ _ (.unready _ hunready)
    obtain ⟨_, hsaved⟩ := hrun Unit none ()
    exact ⟨_, hsaved⟩
  · obtain ⟨_, _, _, -, honly, hrun⟩ := save_decided .json m (root 0 [e "c" none]) (some 0)
    obtain ⟨rfl, rfl⟩ := honly _ _ _ (.conflict (hdeliverable 0) hlive (by decide))
    obtain ⟨_, hsaved⟩ := hrun Unit none ()
    exact ⟨_, hsaved⟩
  · obtain ⟨_, _, _, -, honly, hrun⟩ := save_decided .json m (root 1 [e "c" none]) (some 1)
    obtain ⟨rfl, rfl⟩ := honly _ _ _ (.committed (hdeliverable 1) hlive rfl (by simp)
      [e "c" (some 2)] rfl _ (.cons ⟨rfl, rfl, rfl, rfl, rfl, rfl, rfl, rfl⟩ .nil) _ hgrown)
    obtain ⟨_, hsaved⟩ := hrun Unit none ()
    exact ⟨_, hsaved⟩

end Repository
end EventSourcing
