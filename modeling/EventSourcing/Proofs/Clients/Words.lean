import EventSourcing.Proofs.Clients.Office
import EventSourcing.Proofs.Repository.Words
import EventSourcing.Proofs.Store.Reachable

/-!
# Offices and stores that count in words

What is said of offices and of stores that can be reached is said with versions that have no end.
It is said of the program, too: an office does the same as long as nothing that it is asked for
passes the greatest version, and whatever is done to a new store, as long as there are not more
events in all than the greatest version says.

## Main Definitions

* `Office.Request.Within`, `Office.Within` — requests that do not pass the greatest version.
* `Operation.size`, `Operation.total` — the number of events of operations.

## Main Statements

* `Office.step_words`, `Office.trace_words` — offices.
* `Memory.run_words`, `Memory.runAll_words` — stores.
-/

namespace EventSourcing

namespace Office

variable {κ η τ Id : Type} [DecidableEq κ] [DecidableEq η] [Identifier Id]
  {subjects : κ → Aggregate Id}

/-- What is asked for does not pass the greatest version. -/
def Request.Within (w : Office κ η subjects) : Request κ η subjects → Prop
  | .load _ _ _ | .loadAt _ _ _ _ => w.store.Within
  | .save k handle _ => ∀ root, w.roots k handle = some root →
      root.version + root.pending.length ≤ Version.max
  | .call (.save _ _ expected batch) => expected + batch.length ≤ Version.max
  | .seed k _ _ id payloads =>
      w.store.versionOf (subjects k).kind id + payloads.length ≤ Version.max
  | .seedRaw kind _ _ id _ _ => w.store.versionOf kind id + 1 ≤ Version.max
  | .create _ _ _ | .events _ _ _ | .change _ _ _ | .record _ _ _ | .tenant _ _ _
  | .originator _ _ _ | .call (.box _ _ _) | .call (.unbox _ _ _) => True

variable (codec : Codec) (snapshots : Option (SnapshotBackend τ Id))

/-- None of the requests passes the greatest version, one after the other. -/
def Within : Office κ η subjects × τ → List (Request κ η subjects) → Prop
  | _, [] => True
  | s, request :: rest =>
    request.Within s.1 ∧
      Within (@step κ η τ Id _ _ _ subjects .exact codec snapshots request s).2 rest

/-- **A request is answered alike** if it does not pass the greatest version. -/
theorem step_words {request : Request κ η subjects} {w : Office κ η subjects} (t : τ)
    (h : request.Within w) :
    @step κ η τ Id _ _ _ subjects .words codec snapshots request (w, t) =
      @step κ η τ Id _ _ _ subjects .exact codec snapshots request (w, t) := by
  cases request with
  | create | events | change | record | tenant | originator => rfl
  | load k handle id =>
    have hstore : w.store.Within := h
    simp only [step, Repository.load_words codec snapshots t hstore]
  | loadAt k handle id version =>
    have hstore : w.store.Within := h
    simp only [step, Repository.loadAt_words codec snapshots t hstore]
  | save k handle expected =>
    cases hroot : w.roots k handle with
    | none => simp only [step, withRoot, hroot]
    | some root =>
      have hsave := Repository.saveInPlace_words codec snapshots t (m := w.store) (h root hroot)
      simp only [step, withRoot, hroot, hsave]
  | call call =>
    cases call with
    | save kind record expected events =>
      simp only [step, answerCall, Memory.save_words kind record h]
    | box | unbox => rfl
  | seed k ids now id events => simp only [step, Seeding.seed_words t h]
  | seedRaw kind eventId now id eventKind data =>
    simp only [step, Seeding.seedRaw_words t eventId eventKind data h]

/-- **What is to be seen of an office** is the same, behind any requests, as long as none of them
passes the greatest version. -/
theorem trace_words {requests : List (Request κ η subjects)} {s : Office κ η subjects × τ}
    (h : Within codec snapshots s requests) :
    @trace κ η τ Id _ _ _ subjects .words codec snapshots s requests =
      @trace κ η τ Id _ _ _ subjects .exact codec snapshots s requests := by
  induction requests generalizing s with
  | nil => rfl
  | cons request rest ih =>
    obtain ⟨hfirst, hrest⟩ := h
    obtain ⟨w, t⟩ := s
    unfold trace
    rw [step_words codec snapshots t hfirst]
    exact congrArg (_ :: ·) (ih hrest)

end Office

/-! ### Stores -/

/-- The number of events of an operation. -/
def Operation.size {Id : Type} : Operation Id → Nat
  | .call (.save _ _ _ batch) => batch.length
  | .call (.box _ _ _) | .call (.unbox _ _ _) => 0
  | .save _ _ _ root _ => root.pending.length
  | .seed _ _ _ _ _ payloads => payloads.length
  | .seedRaw _ _ _ _ _ _ => 1

/-- The number of events of operations. -/
def Operation.total {Id : Type} : List (Operation Id) → Nat
  | [] => 0
  | operation :: rest => operation.size + total rest

namespace Memory

variable {Id : Type} [Identifier Id] {m : Memory Id}

/-- A batch that does not stand on the stored version changes nothing. -/
theorem store_of_moved [Counting] {kind : String} {record : Record Id} {expected : Nat}
    (h : m.versionOf kind record.aggregate ≠ expected) (batch : List NewEvent) :
    (m.save kind record expected batch).2 = m := by
  cases hanswer : (m.save kind record expected batch).1 with
  | error e => rw [save_of_error hanswer]
  | ok version =>
    obtain ⟨-, -, hversion⟩ := accepted_iff.mp ⟨version, hanswer⟩
    exact absurd hversion h

/-- A store takes a batch alike if its events do not pass the greatest version behind the stored
one. -/
theorem store_words {kind : String} {record : Record Id} (expected : Nat) {batch : List NewEvent}
    (h : m.versionOf kind record.aggregate + batch.length ≤ Version.max) :
    (@save Id _ .words kind record expected batch m).2 =
      (@save Id _ .exact kind record expected batch m).2 := by
  by_cases hversion : m.versionOf kind record.aggregate = expected
  · rw [save_words kind record (hversion ▸ h)]
  · rw [@store_of_moved _ _ _ .words _ _ _ hversion, @store_of_moved _ _ _ .exact _ _ _ hversion]

/-- A root that is not at the stored version is not saved. -/
theorem store_of_stale [Counting] {τ : Type} {A : Aggregate Id} {root : Root A}
    (h : m.versionOf A.kind root.id ≠ root.version) (codec : Codec)
    (snapshots : Option (SnapshotBackend τ Id)) (expected : Option Nat) (t : τ) :
    ((Repository.onMemory codec snapshots).save root expected (m, t)).2.1 = m := by
  obtain ⟨result, hcommitted, hsave⟩ := Repository.committed_save codec m root expected
  rw [hsave]
  cases hcommitted with
  | unprepared | refused => rfl
  | accepted committed batch version m' hprepared haccepted =>
    obtain ⟨-, -, hversion⟩ := accepted_iff.mp ⟨version, congrArg Prod.fst haccepted⟩
    exact absurd hversion h

/-- **An operation changes a store alike** if its events do not pass the greatest version behind any
stored one. -/
theorem run_words {operation : Operation Id}
    (h : ∀ kind id, m.versionOf kind id + operation.size ≤ Version.max) :
    @run Id _ .words m operation = @run Id _ .exact m operation := by
  cases operation with
  | call call =>
    cases call with
    | save kind record expected batch => exact store_words expected (h kind record.aggregate)
    | box | unbox => rfl
  | @save τ codec snapshots t A root expected =>
    by_cases hversion : m.versionOf A.kind root.id = root.version
    · have hsave := Repository.saveInPlace_words codec snapshots t (m := m)
        (hversion ▸ h A.kind root.id) expected
      exact congrArg (fun saved => (ActionOn.passed (fun _ => saved) root (m, t)).2.1) hsave
    · exact (@store_of_stale _ _ _ .words _ _ _ hversion codec snapshots expected t).trans
        (@store_of_stale _ _ _ .exact _ _ _ hversion codec snapshots expected t).symm
  | seed codec A ids now id payloads =>
    exact congrArg (fun seeded => seeded.2.1) (Seeding.seed_words () (h A.kind id))
  | seedRaw kind eventId now id eventKind data =>
    exact congrArg (fun seeded => seeded.2.1)
      (Seeding.seedRaw_words () eventId eventKind data (h kind id))

/-! ### Histories and the number of events -/

attribute [local instance] Counting.exact

variable {kind : String} {id : Id} {history : List (StoredEvent Id)}

/-- A stored version is the number of events behind which it is. -/
theorem Keeps.versionOf_le (h : m.Keeps kind id history) :
    m.versionOf kind id ≤ history.length := by
  rw [versionOf]
  split
  · next record hget => exact Nat.le_of_eq (h.version_of_found hget)
  · exact Nat.zero_le _

/-- At most the events of a batch are put behind a history. -/
theorem Keeps.save_size (h : m.Keeps kind id history) (kind' : String) (record : Record Id)
    (expected : Nat) (batch : List NewEvent) :
    ∃ more, (m.save kind' record expected batch).2.Keeps kind id (history ++ more) ∧
      more.length ≤ batch.length := by
  obtain ⟨hkeeps, -⟩ := h.save kind' record expected batch
  refine ⟨_, hkeeps, ?_⟩
  simp only [committed]
  split
  · split <;> simp
  · simp

theorem Keeps.seeded_size {ε : Type} {kind' : String} {id' : Id} {count : Nat}
    {result : Except ε Unit × Memory Id} (h : m.Keeps kind id history)
    (hseeded : Seeding.Seeded kind' id' count m result) :
    ∃ more, result.2.Keeps kind id (history ++ more) ∧ more.length ≤ count := by
  cases hseeded with
  | refused e => exact ⟨[], by rwa [List.append_nil], Nat.zero_le _⟩
  | accepted record expected batch version m' haggregate hlength hsave =>
    have hgrown := h.save_size kind' record expected batch
    rwa [hsave, hlength] at hgrown

variable [Identifier.Unmistakable Id]

/-- At most the events of an operation are put behind a history. -/
theorem Keeps.run_size (h : m.Keeps kind id history) (operation : Operation Id) :
    ∃ more, (m.run operation).Keeps kind id (history ++ more) ∧ more.length ≤ operation.size := by
  have hkept : m.Keeps kind id (history ++ []) := by rwa [List.append_nil]
  cases operation with
  | call call =>
    cases call with
    | save kind' record expected batch => exact h.save_size kind' record expected batch
    | box kind' id' encoding =>
      exact ⟨_, (h.after (.box kind' id' encoding)).1, Nat.zero_le _⟩
    | unbox kind' id' encoding =>
      exact ⟨_, (h.after (.unbox kind' id' encoding)).1, Nat.zero_le _⟩
  | @save τ codec snapshots t A root expected =>
    obtain ⟨result, hcommitted, hsave⟩ := Repository.committed_save codec m root expected
    have hrun : m.run (.save codec snapshots t root expected) = result.2 := by
      show ((Repository.onMemory codec snapshots).save root expected (m, t)).2.1 = _
      rw [hsave]
    rw [hrun]
    cases hcommitted with
    | unprepared e hprepared => exact ⟨[], hkept, Nat.zero_le _⟩
    | refused committed batch e hprepared hrefused => exact ⟨[], hkept, Nat.zero_le _⟩
    | accepted committed batch version m' hprepared haccepted =>
      obtain ⟨hcommitted, hbatch⟩ := Root.prepared_eq_ok hprepared
      have hlength : batch.length = root.pending.length := by
        rw [length_encodedFrom hbatch, hcommitted, Envelope.length_committedFrom]
      have hgrown := h.save_size A.kind (root.recordAt (plus root.version committed.length))
        root.version batch
      rwa [haccepted, hlength] at hgrown
  | seed codec A ids now id' payloads =>
    obtain ⟨result, hseeded, hseed⟩ := Seeding.seeded_seed codec m A ids now id' payloads
    rw [Memory.run, hseed]
    exact h.seeded_size hseeded
  | seedRaw kind' eventId now id' eventKind data =>
    obtain ⟨result, hseeded, hseed⟩ :=
      Seeding.seeded_seedRaw .json m kind' eventId now id' eventKind data
    rw [Memory.run, hseed]
    exact h.seeded_size hseeded

/-- **A store is the same behind any operations** that have, in all, not more events than the
greatest version says. -/
theorem runAll_words {operations : List (Operation Id)}
    (h : Operation.total operations ≤ Version.max) :
    @runAll Id _ .words empty operations = @runAll Id _ .exact empty operations := by
  -- What is left to be done fits behind every history that there is.
  suffices hfits : ∀ m : Memory Id,
      (∀ kind id, ∃ history, m.Keeps kind id history ∧
        history.length + Operation.total operations ≤ Version.max) →
      @runAll Id _ .words m operations = @runAll Id _ .exact m operations by
    exact hfits empty fun kind id => ⟨[], keeps_empty kind id, by simpa using h⟩
  clear h
  induction operations with
  | nil => exact fun _ _ => rfl
  | cons operation rest ih =>
    intro m hkeeps
    have hstep : @run Id _ .words m operation = @run Id _ .exact m operation := by
      refine run_words fun kind id => ?_
      obtain ⟨history, hkept, hlength⟩ := hkeeps kind id
      have hversion := hkept.versionOf_le
      rw [Operation.total] at hlength
      omega
    have hrest := ih (m.run operation) fun kind id => by
      obtain ⟨history, hkept, hlength⟩ := hkeeps kind id
      obtain ⟨more, hmore, hsize⟩ := hkept.run_size operation
      refine ⟨history ++ more, hmore, ?_⟩
      rw [Operation.total] at hlength
      rw [List.length_append]
      omega
    exact (congrArg (fun m => @runAll Id _ .words m rest) hstep).trans hrest

end Memory

end EventSourcing
