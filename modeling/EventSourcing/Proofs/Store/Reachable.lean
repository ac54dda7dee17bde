import EventSourcing.Proofs.Testing.Seeding

/-!
# Stores that can be reached

Whatever is done with a store in memory, every live aggregate has a well-formed stream: its events
are counted from one without a gap, its record is at the last of them, and all of them belong to it.

## Main Definitions

* `Operation` — anything that may change a store: its own calls, saving a root, seeding.
* `Memory.run`, `Memory.runAll` — the store behind operations.

## Main Statements

* `Memory.run_eq_after` — an operation is at most one call of the store.
* `Memory.wellFormed_of_live` — every live aggregate of a store that can be reached is well-formed.
-/

namespace EventSourcing

/-- Anything that may change a store in memory. -/
inductive Operation (Id : Type) : Type 1 where
  | call (call : Call Id)
  /-- Saving a root through a repository, with any codec and any snapshot store. -/
  | save {τ : Type} (codec : Codec) (snapshots : Option (SnapshotBackend τ Id)) (t : τ)
      {A : Aggregate Id} (root : Root A) (expected : Option Nat)
  | seed (codec : Codec) (A : Aggregate Id) (ids : Nat → Uuid) (now : Instant) (id : Id)
      (events : List A.Event)
  | seedRaw (kind : String) (eventId : Uuid) (now : Instant) (id : Id) (eventKind : String)
      (data : Bytes)

namespace Memory

variable {Id : Type} [Identifier Id]

/-- The store behind an operation, whether it succeeds or fails. -/
def run [Counting] (m : Memory Id) : Operation Id → Memory Id
  | .call call => m.after call
  | .save codec snapshots t root expected =>
    ((Repository.mk (Memory.backend Id codec) snapshots).save root expected (m, t)).2.1
  | .seed codec A ids now id events =>
    (Seeding.seed (Memory.backend Id codec) A ids now id events (m, ())).2.1
  | .seedRaw kind eventId now id eventKind data =>
    (Seeding.seedRaw (Memory.backend Id .json) kind eventId now id eventKind data (m, ())).2.1

/-- The store behind a sequence of operations. -/
def runAll [Counting] (m : Memory Id) (operations : List (Operation Id)) : Memory Id :=
  operations.foldl run m

/-- An operation is at most one call of the store. -/
theorem run_eq_after [Counting] (m : Memory Id) (operation : Operation Id) :
    m.run operation = m ∨ ∃ call, m.run operation = m.after call := by
  cases operation with
  | call call => exact .inr ⟨call, rfl⟩
  | @save τ codec snapshots t A root expected =>
    obtain ⟨result, hcommitted, hsave⟩ := Repository.committed_save codec m root expected
    have hrun : m.run (.save codec snapshots t root expected) = result.2 := by
      show ((Repository.onMemory codec snapshots).save root expected (m, t)).2.1 = _
      rw [hsave]
    rw [hrun]
    cases hcommitted with
    | unprepared e hprepared => exact .inl rfl
    | refused committed batch e hprepared hrefused => exact .inl rfl
    | accepted committed batch version m' hprepared haccepted =>
      exact .inr ⟨.save _ _ _ _, by rw [after, haccepted]⟩
  | seed codec A ids now id events =>
    obtain ⟨answer, m', hcall, hseed⟩ := Seeding.exists_seed codec m A ids now id events
    rw [run, hseed]
    exact hcall
  | seedRaw kind eventId now id eventKind data =>
    obtain ⟨answer, m', hcall, hseed⟩ :=
      Seeding.exists_seedRaw .json m kind eventId now id eventKind data
    rw [run, hseed]
    exact hcall

attribute [local instance] Counting.exact

variable [Identifier.Unmistakable Id]

theorem Keeps.run {kind : String} {id : Id} {history : List (StoredEvent Id)} {m : Memory Id}
    (h : m.Keeps kind id history) (operation : Operation Id) :
    ∃ more, (m.run operation).Keeps kind id (history ++ more) := by
  rcases m.run_eq_after operation with heq | ⟨call, heq⟩
  · exact ⟨[], by rw [heq, List.append_nil]; exact h⟩
  · exact ⟨_, by rw [heq]; exact (h.after call).1⟩

theorem Keeps.runAll {kind : String} {id : Id} {history : List (StoredEvent Id)} {m : Memory Id}
    (h : m.Keeps kind id history) (operations : List (Operation Id)) :
    ∃ more, (m.runAll operations).Keeps kind id (history ++ more) := by
  induction operations generalizing m history with
  | nil => exact ⟨[], by rw [List.append_nil]; exact h⟩
  | cons operation operations ih =>
    obtain ⟨first, hfirst⟩ := h.run operation
    obtain ⟨more, hmore⟩ := ih hfirst
    exact ⟨first ++ more, by rw [← List.append_assoc]; exact hmore⟩

/-- **Every live aggregate of a store that can be reached has a well-formed stream.** -/
theorem wellFormed_of_live (operations : List (Operation Id)) (kind : String) (id : Id)
    (stream : Stream Id)
    (h : ((empty : Memory Id).runAll operations).slot? kind id = some (.live stream)) :
    stream.WellFormed kind id := by
  obtain ⟨more, hkeeps⟩ := (keeps_empty kind id).runAll operations
  exact (hkeeps.of_live h).2

/-- An aggregate that two calls have reached. -/
theorem wellFormed_of_live_counter :
    let event (version : Nat) : NewEvent := ⟨.nil, "incremented", version, [], .epoch, .unknown⟩
    let save (version : Nat) : Operation String :=
      .call (.save "counter" ⟨"c", version + 1, none, false, none⟩ version [event (version + 1)])
    let events := [(event 1).stored "counter" "c", (event 2).stored "counter" "c"]
    ((empty : Memory String).runAll [save 0, save 1]).slot? "counter" "c" =
        some (.live ⟨⟨"c", 2, none, false, none⟩, events⟩) ∧
      (Stream.mk ⟨"c", 2, none, false, none⟩ events).WellFormed "counter" "c" := by
  intro event save events
  exact ⟨rfl, wellFormed_of_live [save 0, save 1] "counter" "c" _ rfl⟩

end Memory

end EventSourcing
