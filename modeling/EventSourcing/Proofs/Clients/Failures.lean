import EventSourcing.Proofs.Clients.Office
import EventSourcing.Proofs.Sample.Counter
import EventSourcing.Proofs.Testing.Seeding

/-!
# Failures change nothing

A request that fails leaves everything as it is: the store, the snapshots, and all roots with what
is pending on them.  So it fails for the same reason when it is repeated, although new events would
get other identifiers and times then, and a run is the same without the requests that fail in it.

## Main Definitions

* `Office.Reply.failed` — a reply that is a failure.
* `Office.Request.Again` — the same request once more.
* `Office.succeeding` — a run without its failures.

## Main Statements

* `Office.step_failed` — a request that fails changes nothing and fails again.
* `Office.run_succeeding` — failures do not count.
-/

namespace EventSourcing.Office

variable {κ η Id : Type} [DecidableEq κ] [DecidableEq η] [Identifier Id]
  {subjects : κ → Aggregate Id}

omit [DecidableEq κ] [DecidableEq η] in
/-- Whether a reply is a failure. -/
def Reply.failed : Reply subjects → Bool
  | .create (.error _) => true
  | .load (.error _) => true
  | .events _ (.error _) => true
  | .change _ (.error _) => true
  | .save _ (.error _) => true
  | .stored (.error _) => true
  | .boxed (.error _) => true
  | .unboxed (.error _) => true
  | .seed (.error _) => true
  | .seedRaw (.error _) => true
  | _ => false

/-- The same request once more; new events would get other identifiers and times. -/
inductive Request.Again : Request κ η subjects → Request κ η subjects → Prop
  | same (request : Request κ η subjects) : Again request request
  | execute (k : κ) (handle : η) (stamps stamps' : Nat → Stamp) (command : Command (subjects k)) :
      Again (.change k handle (.execute stamps command))
        (.change k handle (.execute stamps' command))
  | seed (k : κ) (ids ids' : Nat → Uuid) (now now' : Instant) (id : Id)
      (events : List (subjects k).Event) :
      Again (.seed k ids now id events) (.seed k ids' now' id events)
  | seedRaw (kind : String) (eventId eventId' : Uuid) (now now' : Instant) (id : Id)
      (eventKind : String) (data : Bytes) :
      Again (.seedRaw kind eventId now id eventKind data)
        (.seedRaw kind eventId' now' id eventKind data)

variable {codec : Codec} {cached : Bool}

/-! ### Single requests -/

omit [Identifier Id] in
/-- A root that could not be had is not held. -/
theorem receive_of_failed {ε : Type} {k : κ} {handle : η} {reply : Except ε Unit → Reply subjects}
    {answer : Except ε (Root (subjects k))} {w : Office κ η subjects}
    (hreply : (reply (.ok ())).failed = false)
    (h : (w.receive k handle reply answer).1.failed = true) :
    (w.receive k handle reply answer).2 = w := by
  cases answer with
  | error e => rfl
  | ok root =>
    rw [receive, hreply] at h
    cases h

omit [DecidableEq κ] [DecidableEq η] [Identifier Id] in
/-- What is done with a root changes nothing if it fails; nor does it if there is no root. -/
theorem withRoot_of_failed {τ : Type} {k : κ} {handle : η} {s : Office κ η subjects × τ}
    {act : Root (subjects k) → Reply subjects × Office κ η subjects × τ}
    (hact : ∀ root, (act root).1.failed = true → (act root).2 = s)
    (h : (withRoot k handle s act).1.failed = true) : (withRoot k handle s act).2 = s := by
  cases hroot : s.1.roots k handle with
  | none => simp only [withRoot, hroot]
  | some root =>
    simp only [withRoot, hroot] at h ⊢
    exact hact root h

omit [DecidableEq κ] [DecidableEq η] in
/-- A call that is refused leaves the store as it is. -/
theorem answerCall_of_failed {m : Memory Id} {call : Call Id}
    (h : (answerCall m call : Reply subjects × Memory Id).1.failed = true) :
    (answerCall m call : Reply subjects × Memory Id).2 = m := by
  cases call with
  | save kind record expected events =>
    cases hanswer : (m.save kind record expected events).1 with
    | error e => rw [answerCall, Memory.save_of_error hanswer]
    | ok version =>
      have hreply : (answerCall m (.save kind record expected events) :
          Reply subjects × Memory Id).1 = .stored (.ok version) := congrArg Reply.stored hanswer
      rw [hreply] at h
      cases h
  | box kind id encoding =>
    cases hanswer : (m.box kind id encoding).1 with
    | error e => rw [answerCall, Memory.box_of_error hanswer]
    | ok =>
      have hreply : (answerCall m (.box kind id encoding) : Reply subjects × Memory Id).1 =
          .boxed (.ok ()) := congrArg Reply.boxed hanswer
      rw [hreply] at h
      cases h
  | unbox kind id encoding =>
    cases hanswer : (m.unbox kind id encoding).1 with
    | error e => rw [answerCall, Memory.unbox_of_error hanswer]
    | ok record =>
      have hreply : (answerCall m (.unbox kind id encoding) : Reply subjects × Memory Id).1 =
          .unboxed (.ok record) := congrArg Reply.unboxed hanswer
      rw [hreply] at h
      cases h

/-- Seeding that fails changes nothing and fails with any identifiers at any time. -/
theorem seed_of_failed {k : κ} {ids : Nat → Uuid} {now : Instant} {id : Id}
    {events : List (subjects k).Event} {s : Office κ η subjects × SnapshotMemory Id}
    (h : (step codec (caching cached) (.seed k ids now id events) s).1.failed = true) :
    ∃ e, ∀ ids' now', step codec (caching cached) (.seed k ids' now' id events) s =
      (.seed (.error e), s) := by
  obtain ⟨w, t⟩ := s
  cases hanswer : (Seeding.seed (Memory.backend Id codec) (subjects k) ids now id events
      (w.store, t)).1 with
  | error e =>
    refine ⟨e, fun ids' now' => ?_⟩
    simp only [step, Seeding.seed_again hanswer ids' now']
    rfl
  | ok =>
    have hreply : (step codec (caching cached) (.seed k ids now id events) (w, t)).1 =
        .seed (.ok ()) := congrArg Reply.seed hanswer
    rw [hreply] at h
    cases h

theorem seedRaw_of_failed {kind : String} {eventId : Uuid} {now : Instant} {id : Id}
    {eventKind : String} {data : Bytes} {s : Office κ η subjects × SnapshotMemory Id}
    (h : (step codec (caching cached) (.seedRaw kind eventId now id eventKind data) s).1.failed =
      true) :
    ∃ e, ∀ eventId' now', step codec (caching cached)
      (.seedRaw kind eventId' now' id eventKind data) s = (.seedRaw (.error e), s) := by
  obtain ⟨w, t⟩ := s
  cases hanswer : (Seeding.seedRaw (Memory.backend Id codec) kind eventId now id eventKind data
      (w.store, t)).1 with
  | error e =>
    refine ⟨e, fun eventId' now' => ?_⟩
    simp only [step, Seeding.seedRaw_again hanswer eventId' now']
    rfl
  | ok =>
    have hreply : (step codec (caching cached)
        (.seedRaw kind eventId now id eventKind data) (w, t)).1 =
          (.seedRaw (.ok ()) : Reply subjects) := congrArg Reply.seedRaw hanswer
    rw [hreply] at h
    cases h

/-- A command that is refused is refused with any stamps. -/
theorem execute_of_failed {k : κ} {handle : η} {stamps : Nat → Stamp}
    {command : Command (subjects k)} {s : Office κ η subjects × SnapshotMemory Id}
    (h : (step codec (caching cached) (.change k handle (.execute stamps command)) s).1.failed =
      true) :
    ∃ e, ∀ stamps', step codec (caching cached)
      (.change k handle (.execute stamps' command)) s = (.change k (.error e), s) := by
  obtain ⟨w, t⟩ := s
  rw [step_change] at h
  cases hroot : w.roots k handle with
  | none =>
    simp only [withRoot, hroot] at h
    cases h
  | some root =>
    cases hcommand : command root.stateOrInitial with
    | error e =>
      refine ⟨e, fun stamps' => ?_⟩
      simp only [step_change, withRoot, hroot, Root.changed_execute, hcommand]
      rfl
    | ok payloads =>
      simp only [withRoot, hroot, Root.changed_execute, hcommand] at h
      cases h

/-- **A request that fails changes nothing.** -/
theorem step_of_failed {request : Request κ η subjects}
    {s : Office κ η subjects × SnapshotMemory Id}
    (h : (step codec (caching cached) request s).1.failed = true) :
    (step codec (caching cached) request s).2 = s := by
  obtain ⟨w, t⟩ := s
  -- For each request: the reply is no failure, or what failed came in front of every change.
  cases request with
  | create k handle id => exact congrArg (·, t) (receive_of_failed rfl h)
  | load k handle id =>
    simp only [step, load_caching] at h ⊢
    exact congrArg (·, t) (receive_of_failed rfl h)
  | loadAt k handle id version =>
    simp only [step, Repository.loadAt_memory] at h ⊢
    exact congrArg (·, t) (receive_of_failed rfl h)
  | events k id upTo =>
    simp only [step, Repository.events_memory]
    rfl
  | change k handle change =>
    rw [step_change] at h ⊢
    exact withRoot_of_failed (fun root hroot => congrArg (·, t) (receive_of_failed rfl hroot)) h
  | record k handle e | tenant k handle tenant | originator k handle originator =>
    exact withRoot_of_failed (fun root hroot => by cases hroot) h
  | save k handle expected =>
    rw [step_save] at h ⊢
    refine withRoot_of_failed (fun root hroot => ?_) h
    obtain ⟨⟨answer, m⟩, hcommitted, hsave⟩ :=
      Repository.committed_save codec w.store root expected
    simp only [hsave] at hroot ⊢
    cases hcommitted with
    | unprepared | refused => rfl
    | accepted => cases hroot
  | call call => exact congrArg (fun m => (w.withStore m, t)) (answerCall_of_failed h)
  | seed k ids now id events =>
    obtain ⟨e, he⟩ := seed_of_failed h
    rw [he]
  | seedRaw kind eventId now id eventKind data =>
    obtain ⟨e, he⟩ := seedRaw_of_failed h
    rw [he]

/-- **A request that fails once fails again in the same way**, with the same reply. -/
theorem step_again {request again : Request κ η subjects} (hagain : request.Again again)
    {s : Office κ η subjects × SnapshotMemory Id}
    (h : (step codec (caching cached) request s).1.failed = true) :
    step codec (caching cached) again s = step codec (caching cached) request s := by
  cases hagain with
  | same => rfl
  | execute k handle stamps stamps' command =>
    obtain ⟨e, he⟩ := execute_of_failed h
    rw [he, he]
  | seed k ids ids' now now' id events =>
    obtain ⟨e, he⟩ := seed_of_failed h
    rw [he, he]
  | seedRaw kind eventId eventId' now now' id eventKind data =>
    obtain ⟨e, he⟩ := seedRaw_of_failed h
    rw [he, he]

/-- **Failures change nothing and last.**  With snapshots or without, and whatever the store, the
snapshots and the roots that are held are: if a request fails, then all of them are as before, among
them the root that was to be saved with what is pending on it, and the same request fails again in
the same way. -/
theorem step_failed (codec : Codec) (cached : Bool) (request again : Request κ η subjects)
    (hagain : request.Again again) (s : Office κ η subjects × SnapshotMemory Id)
    (hfailed : (step codec (caching cached) request s).1.failed = true) :
    (step codec (caching cached) request s).2 = s ∧
      step codec (caching cached) again (step codec (caching cached) request s).2 =
        step codec (caching cached) request s := by
  have hsame := step_of_failed hfailed
  refine ⟨hsame, ?_⟩
  rw [hsame]
  exact step_again hagain hfailed

/-- The second of two clients saves a root that is behind: it keeps its pending event. -/
theorem step_failed_counter :
    let reset (handle : Bool) : Request Unit Bool fun _ => Sample.counter :=
      .change () handle (.apply ⟨.nil, .epoch⟩ .reset)
    let save (handle : Bool) : Request Unit Bool fun _ => Sample.counter := .save () handle none
    let s := run .json (caching true) (empty _, SnapshotMemory.empty .always)
      [.create () true "c", reset true, .create () false "c", reset false, save true]
    (step .json (caching true) (save false) s).1.failed = true ∧
      (step .json (caching true) (save false) s).2 = s ∧
      (step .json (caching true) (save false) (step .json (caching true) (save false) s).2).1 =
        .save () (.error (.conflict ⟨0, 1⟩)) := by
  intro reset save s
  obtain ⟨hsame, hagain⟩ := step_failed .json true (save false) (save false) (.same _) s rfl
  exact ⟨rfl, hsame, (congrArg Prod.fst hagain).trans rfl⟩

/-! ### Runs -/

/-- A run without the requests that fail in it. -/
def succeeding (codec : Codec) (cached : Bool) :
    Office κ η subjects × SnapshotMemory Id → List (Request κ η subjects) →
      List (Request κ η subjects)
  | _, [] => []
  | s, request :: rest =>
    let next := step codec (caching cached) request s
    if next.1.failed then succeeding codec cached s rest
    else request :: succeeding codec cached next.2 rest

/-- **Failures do not count**: a run is the same without the requests that fail in it. -/
theorem run_succeeding (requests : List (Request κ η subjects))
    (s : Office κ η subjects × SnapshotMemory Id) :
    run codec (caching cached) s (succeeding codec cached s requests) =
      run codec (caching cached) s requests := by
  induction requests generalizing s with
  | nil => rfl
  | cons request rest ih =>
    have hrun : run codec (caching cached) s (request :: rest) =
        run codec (caching cached) (step codec (caching cached) request s).2 rest := rfl
    by_cases hfailed : (step codec (caching cached) request s).1.failed = true
    · rw [succeeding, if_pos hfailed, hrun, step_of_failed hfailed]
      exact ih s
    · rw [succeeding, if_neg hfailed, hrun]
      exact ih _

end EventSourcing.Office
