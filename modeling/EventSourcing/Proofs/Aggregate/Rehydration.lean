import EventSourcing.Proofs.Aggregate.Replay
import EventSourcing.Sample.Counter

/-!
# Which histories are replayed

A history is replayed on a root if all of it follows the root without a gap: each event belongs to
the root and has the version of its place.  Otherwise the first event that does not is the fault,
and the root stays as it is, however much of the history is in order in front of that event.

All of a history is looked at before anything of it is folded.  Still it does not matter whether a
history is replayed at once or in parts.

## Main Definitions

* `Root.Contiguous` — history that follows a version without a gap.
* `Root.Offence` — what is wrong with an event.

## Main Statements

* `Root.replayFault?_eq_none_iff`, `Root.replayFault?_eq_some_iff` — the first fault of a history.
* `Root.rehydrate_append` — replaying in parts.
* `Root.rehydrate_contiguous` — which histories are replayed, and what becomes of the root.
-/

namespace EventSourcing.Root

variable {Id : Type} {A : Aggregate Id}

/-! ### Faults -/

/-- History that follows a version of an aggregate: each event belongs to the aggregate and has the
version of its place. -/
def Contiguous [Counting] (id : Id) (version : Nat) (history : List (Envelope Id A.Event)) : Prop :=
  ∀ place e, history[place]? = some e →
    e.aggregate = id ∧ e.version = some (plus version (place + 1))

/-- What is wrong with an event that should belong to an aggregate and have a version.  Whether it
belongs to the aggregate comes first. -/
inductive Offence (id : Id) (expected : Nat) (e : Envelope Id A.Event) : ReplayError Id → Prop where
  | foreign (haggregate : e.aggregate ≠ id) :
      Offence id expected e (.aggregateMismatch id e.aggregate e.id)
  | outOfSequence (haggregate : e.aggregate = id) (hversion : e.version ≠ some expected) :
      Offence id expected e (.outOfSequence expected e.version e.id)

section Counting

variable [Counting]

theorem contiguous_nil (id : Id) (version : Nat) : Contiguous (A := A) id version [] := by
  intro place e he
  rw [List.getElem?_nil] at he
  cases he

theorem contiguous_cons {id : Id} {version : Nat} {e : Envelope Id A.Event}
    {rest : List (Envelope Id A.Event)} :
    Contiguous id version (e :: rest) ↔
      (e.aggregate = id ∧ e.version = some (plus version 1)) ∧
        Contiguous id (plus version 1) rest := by
  constructor
  · intro h
    refine ⟨h 0 e rfl, fun place e' he' => ?_⟩
    rw [Counting.plus_one_plus]
    exact h (place + 1) e' he'
  · rintro ⟨hfirst, hrest⟩ place e' he'
    cases place with
    | zero =>
      cases he'
      exact hfirst
    | succ place =>
      rw [← Counting.plus_one_plus]
      exact hrest place e' he'

variable [Identifier Id]

/-- A history has no fault exactly if it follows the version. -/
theorem replayFault?_eq_none_iff {id : Id} {version : Nat}
    {history : List (Envelope Id A.Event)} :
    replayFault? id version history = none ↔ Contiguous id version history := by
  induction history generalizing version with
  | nil => exact ⟨fun _ => contiguous_nil id version, fun _ => rfl⟩
  | cons e rest ih =>
    rw [contiguous_cons, replayFault?]
    by_cases haggregate : e.aggregate = id
    · by_cases hversion : e.version = some (plus version 1)
      · simp only [haggregate, hversion, ne_eq, not_true_eq_false, if_false, ih, true_and]
      · simp only [haggregate, hversion, ne_eq, not_true_eq_false, not_false_eq_true, if_true,
          if_false, reduceCtorEq, and_false, false_and]
    · simp only [haggregate, ne_eq, not_false_eq_true, if_true, reduceCtorEq, false_and]

/-- An event that offends is the fault of a history that begins with it. -/
theorem Offence.replayFault?_cons {id : Id} {version : Nat} {e : Envelope Id A.Event}
    {fault : ReplayError Id} (h : Offence id (plus version 1) e fault)
    (rest : List (Envelope Id A.Event)) : replayFault? id version (e :: rest) = some fault := by
  rw [replayFault?]
  cases h with
  | foreign haggregate => rw [if_pos haggregate]
  | outOfSequence haggregate hversion =>
    rw [if_neg (not_not_intro haggregate), if_pos hversion]

/-- **The fault of a history is that of the first event that offends.** -/
theorem replayFault?_eq_some_iff {id : Id} {version : Nat} {history : List (Envelope Id A.Event)}
    {fault : ReplayError Id} :
    replayFault? id version history = some fault ↔
      ∃ front e rest, history = front ++ e :: rest ∧ Contiguous id version front ∧
        Offence id (plus version (front.length + 1)) e fault := by
  constructor
  · intro h
    induction history generalizing version with
    | nil => cases h
    | cons e rest ih =>
      rw [replayFault?] at h
      by_cases haggregate : e.aggregate = id
      · rw [if_neg (not_not_intro haggregate)] at h
        by_cases hversion : e.version = some (plus version 1)
        · rw [if_neg (not_not_intro hversion)] at h
          obtain ⟨front, e', rest', rfl, hfront, hoffence⟩ := ih h
          refine ⟨e :: front, e', rest', rfl,
            contiguous_cons.mpr ⟨⟨haggregate, hversion⟩, hfront⟩, ?_⟩
          rw [List.length_cons, ← Counting.plus_one_plus]
          exact hoffence
        · rw [if_pos hversion] at h
          cases h
          exact ⟨[], e, rest, rfl, contiguous_nil id version, .outOfSequence haggregate hversion⟩
      · rw [if_pos haggregate] at h
        cases h
        exact ⟨[], e, rest, rfl, contiguous_nil id version, .foreign haggregate⟩
  · rintro ⟨front, e, rest, rfl, hfront, hoffence⟩
    rw [replayFault?_append, replayFault?_eq_none_iff.mpr hfront, Option.none_or]
    rw [← Counting.plus_plus] at hoffence
    exact hoffence.replayFault?_cons rest

/-! ### Replaying -/

/-- Where nothing is pending, a history is refused for its fault. -/
theorem rehydrate_eq_error {root : Root A} {history : List (Envelope Id A.Event)}
    {fault : ReplayError Id} (hpending : root.pending = []) :
    root.rehydrate history = .error fault ↔
      replayFault? root.id root.version history = some fault := by
  rw [rehydrate_eq, if_neg (not_not_intro hpending)]
  cases replayFault? root.id root.version history with
  | some fault' => exact ⟨fun h => congrArg some (Except.error.inj h), fun h => by cases h; rfl⟩
  | none =>
    constructor
    · intro h
      cases h
    · intro h
      cases h

omit [Identifier Id] in
/-- The root behind a history that is in order. -/
theorem replayed_eq (history : List (Envelope Id A.Event)) (root : Root A) :
    root.replayed history = { root with
      version := plus root.version history.length
      state := if history = [] then root.state
        else some (A.fold root.stateOrInitial (history.map Envelope.payload)) } := by
  cases history with
  | nil =>
    simp only [List.length_nil, Counting.plus_zero, if_true]
    rfl
  | cons e rest => rfl

omit [Identifier Id] in
/-- The root behind one history after the other. -/
theorem replayed_append (history more : List (Envelope Id A.Event)) (root : Root A) :
    root.replayed (history ++ more) = (root.replayed history).replayed more := by
  cases history with
  | nil => rfl
  | cons e rest =>
    cases more with
    | nil => rw [List.append_nil, replayed]
    | cons e' rest' =>
      have hstate : A.fold root.stateOrInitial
          ((e :: rest ++ e' :: rest').map Envelope.payload) =
          A.fold (root.replayed (e :: rest)).stateOrInitial
            ((e' :: rest').map Envelope.payload) := by
        rw [List.map_append, A.fold_append]
        rfl
      simp only [replayed_eq, List.append_eq_nil_iff, reduceCtorEq, false_and, if_false, hstate,
        List.length_append, Counting.plus_plus]

/-- **A history may be replayed in parts**: the second part on the root behind the first one. -/
theorem rehydrate_append (root : Root A) (history more : List (Envelope Id A.Event)) :
    root.rehydrate (history ++ more) =
      root.rehydrate history >>= fun behind => behind.rehydrate more := by
  by_cases hpending : root.pending = []
  · have hpending' : (root.replayed history).pending = [] :=
      (root.pending_replayed history).trans hpending
    rw [rehydrate_eq, rehydrate_eq, if_neg (not_not_intro hpending),
      if_neg (not_not_intro hpending), replayFault?_append]
    cases replayFault? root.id root.version history with
    | some fault => rfl
    | none =>
      show _ = (root.replayed history).rehydrate more
      rw [rehydrate_eq, if_neg (not_not_intro hpending'), id_replayed, version_replayed,
        replayed_append, Option.none_or]
  · rw [rehydrate_eq, rehydrate_eq, if_pos hpending, if_pos hpending]
    rfl

end Counting

/-- **A root replays exactly the history that follows it.**  Where events are pending none is
replayed.  Otherwise a history is replayed exactly if each event belongs to the root and has the
version of its place behind that of the root, counted in words; if not, the answer is the fault of
the first event that offends, and the root stays as it is.  A root that replays a history is behind
all of it, at the version and in the state to which it leads, and everything else of the root stays.
Replaying two histories at once is replaying one after the other. -/
theorem rehydrate_contiguous [Identifier Id] (root : Root A)
    (history : List (Envelope Id A.Event)) :
    (root.pending ≠ [] →
      root.rehydrate history = .error (.pendingChanges root.pending.length)) ∧
    (root.pending = [] →
      ((∃ behind, root.rehydrate history = .ok behind) ↔
        Contiguous root.id root.version history) ∧
      ∀ fault, root.rehydrate history = .error fault ↔
        ∃ front e rest, history = front ++ e :: rest ∧ Contiguous root.id root.version front ∧
          Offence root.id (plus root.version (front.length + 1)) e fault) ∧
    (∀ fault, root.rehydrate history = .error fault →
      InPlace.rehydrate history root = (.error fault, root)) ∧
    (∀ behind, root.rehydrate history = .ok behind →
      InPlace.rehydrate history root = (.ok (), behind) ∧ behind = { root with
        version := plus root.version history.length
        state := if history = [] then root.state
          else some (A.fold root.stateOrInitial (history.map Envelope.payload)) }) ∧
    ∀ more, root.rehydrate (history ++ more) =
      root.rehydrate history >>= fun behind => behind.rehydrate more := by
  refine ⟨fun hpending => ?_, fun hpending => ⟨?_, fun fault => ?_⟩,
    fun fault hfault => ?_, fun behind hbehind => ?_, root.rehydrate_append history⟩
  · rw [rehydrate_eq, if_pos hpending]
  · rw [← replayFault?_eq_none_iff]
    constructor
    · rintro ⟨behind, hbehind⟩
      exact (rehydrate_eq_ok.mp hbehind).2.1
    · intro hfault
      exact ⟨_, rehydrate_eq_ok.mpr ⟨hpending, hfault, rfl⟩⟩
  · rw [rehydrate_eq_error hpending, replayFault?_eq_some_iff]
  · exact (InPlace.allOrNothing_rehydrate history).run_of_error (map_eq_error.mp hfault)
  · obtain ⟨-, -, hreplayed⟩ := rehydrate_eq_ok.mp hbehind
    obtain ⟨⟨⟨⟩, behind'⟩, hpassed, rfl⟩ := map_eq_ok.mp hbehind
    exact ⟨InPlace.run_of_ok hpassed, hreplayed.symm.trans (root.replayed_eq history)⟩

/-- A marked counter at version three replays two events, at once or one by one; behind an event
that is in order, a foreign one with a wrong version is foreign, and a repeated one is out of
sequence; nothing is replayed beneath a pending event.  Behind the greatest version comes version
zero. -/
theorem rehydrate_contiguous_counter :
    let event (id : String) (version : Option Nat) : Envelope String Sample.counter.Event :=
      ⟨.nil, id, version, Sample.CounterEvent.reset, .epoch, .unknown⟩
    let root : Root Sample.counter :=
      { Root.bare Sample.counter "c" 3 none with deleted := true, deletedAt := some .epoch }
    let edited := root.record (event "c" none)
    let last : Root Sample.counter := .bare Sample.counter "c" Version.max none
    root.pending = [] ∧ edited.pending ≠ [] ∧
      (∃ behind, root.rehydrate [event "c" (some 4), event "c" (some 5)] = .ok behind) ∧
      root.rehydrate [event "c" (some 4), event "d" (some 9)] =
        .error (.aggregateMismatch "c" "d" .nil) ∧
      root.rehydrate [event "c" (some 4), event "c" (some 4)] =
        .error (.outOfSequence 5 (some 4) .nil) ∧
      InPlace.rehydrate [event "c" (some 4), event "c" (some 4)] root =
        (.error (.outOfSequence 5 (some 4) .nil), root) ∧
      edited.rehydrate [] = .error (.pendingChanges 1) ∧
      (∃ behind, last.rehydrate [event "c" (some 0)] = .ok behind ∧ behind.version = 0) := by
  intro event root edited last
  have hpending : root.pending = [] := rfl
  have hpending' : edited.pending ≠ [] := List.cons_ne_nil _ _
  have hone : Contiguous "c" 3 [event "c" (some 4)] :=
    contiguous_cons.mpr ⟨⟨rfl, rfl⟩, contiguous_nil _ _⟩
  have htwo : Contiguous "c" 3 [event "c" (some 4), event "c" (some 5)] :=
    contiguous_cons.mpr ⟨⟨rfl, rfl⟩, contiguous_cons.mpr ⟨⟨rfl, rfl⟩, contiguous_nil _ _⟩⟩
  have hforeign := (((rehydrate_contiguous root [event "c" (some 4), event "d" (some 9)]).2.1
    hpending).2 _).mpr ⟨_, _, [], rfl, hone, .foreign (by decide)⟩
  obtain ⟨-, hfaults, hkept, -⟩ :=
    rehydrate_contiguous root [event "c" (some 4), event "c" (some 4)]
  have hrepeated := ((hfaults hpending).2 _).mpr
    ⟨_, _, [], rfl, hone, .outOfSequence rfl (by decide)⟩
  obtain ⟨-, hlast, -, hbehind, -⟩ := rehydrate_contiguous last [event "c" (some 0)]
  have hnext : plus Version.max 1 = 0 := by decide
  obtain ⟨behind, hzero⟩ := (hlast rfl).1.mpr
    (contiguous_cons.mpr ⟨⟨rfl, congrArg some hnext.symm⟩, contiguous_nil _ _⟩)
  have hversion := congrArg Root.version (hbehind behind hzero).2
  exact ⟨hpending, hpending', ((rehydrate_contiguous root _).2.1 hpending).1.mpr htwo, hforeign,
    hrepeated, hkept _ hrepeated, (rehydrate_contiguous edited []).1 hpending', behind, hzero,
    hversion.trans hnext⟩

end EventSourcing.Root
