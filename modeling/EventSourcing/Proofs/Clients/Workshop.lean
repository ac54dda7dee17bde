import EventSourcing.Proofs.Clients.Snapshots

/-!
# Roots that clients make by themselves

Clients need not ask a repository for roots: they start roots at a version of their choice, replay
events on them that they have from anywhere, and commit what is pending without a store.  When a
root is saved, the repository trusts it and checks its version only; so a snapshot that is taken of
it may be one of a state that no stored events lead to.

Snapshots are right as long as roots are grounded: they start at version zero, and what leads them
on without a save, a replay or a commit by hand, are events that the store has behind the version of
the root.  The proof is that of the office: a grounded root stands on the history.

## Main Definitions

* `Memory.KeepsBehind` — the events that a store has of an aggregate behind a version.
* `Office.Task`, `Office.perform`, `Office.performAll` — clients at work, also without a repository.
* `Office.Task.Grounded`, `Office.AllGrounded` — what keeps roots on the history.

## Main Statements

* `Office.Standing.perform` — behind a grounded task all stands.
* `Office.snapshots_of_grounded` — all snapshots are right if all tasks are grounded.
* `Office.snapshot_of_ungrounded` — they are wrong otherwise.
-/

namespace EventSourcing

attribute [local instance] Counting.exact

variable {κ η Id : Type} [DecidableEq κ] [DecidableEq η] [Identifier Id]

/-- The events are those that the store has of the aggregate behind a version. -/
def Memory.KeepsBehind (codec : Codec) (A : Aggregate Id) (id : Id) (version : Nat)
    (es : List (Envelope Id A.Event)) (m : Memory Id) : Prop :=
  ∀ history, m.Keeps A.kind id history →
    ((history.drop version).take es.length).mapM (StoredEvent.envelope A codec) = .ok es

/-! ### Roots on a history -/

section Roots

variable {A : Aggregate Id} {codec : Codec} {history : List (StoredEvent Id)}

omit [Identifier Id] in
/-- What can be read of a history goes on with the events behind it. -/
theorem Aggregate.Begins.behind {payloads : List A.Event} (h : A.Begins codec history payloads)
    {es : List (Envelope Id A.Event)}
    (hes : ((history.drop payloads.length).take es.length).mapM (StoredEvent.envelope A codec) =
      .ok es) : A.Begins codec history (payloads ++ es.map Envelope.payload) := by
  have hpayloads := payload_of_mapM_envelope hes
  rw [Begins, List.length_append, List.length_map, List.take_add, mapM_append_of_ok h, hpayloads]
  rfl

/-- A replay of events that are in the history leads a root on. -/
theorem Root.Held.rehydrate {root root' : Root A} (h : root.Held codec history)
    {es : List (Envelope Id A.Event)}
    (hes : ((history.drop root.version).take es.length).mapM (StoredEvent.envelope A codec) =
      .ok es) (hrehydrate : root.rehydrate es = .ok root') :
    root'.id = root.id ∧ root'.Held codec history := by
  obtain ⟨hidentified, payloads, hbegins, hversion, hstate⟩ := h
  obtain ⟨hpending, -, rfl⟩ := Root.rehydrate_eq_ok.mp hrehydrate
  rw [hversion] at hes
  rw [hpending, List.map_nil, List.append_nil] at hstate
  have hid := root.id_replayed es
  refine ⟨hid, by rw [hid]; exact hidentified, _, hbegins.behind hes, ?_, ?_⟩
  · rw [root.version_replayed, List.length_append, List.length_map, hversion, Counting.plus_exact]
  · rw [root.pending_replayed, hpending, List.map_nil, List.append_nil]
    exact Root.state_replayed hstate es

/-- Events that are in the history may be committed by hand. -/
theorem Root.Held.flush {root root' : Root A} (h : root.Held codec history)
    {committed : List (Envelope Id A.Event)}
    (hes : ((history.drop root.version).take committed.length).mapM
      (StoredEvent.envelope A codec) = .ok committed)
    (hflush : root.flush = .ok (committed, root')) :
    root'.id = root.id ∧ root'.Held codec history := by
  obtain ⟨hidentified, payloads, hbegins, hversion, hstate⟩ := h
  obtain ⟨hstage, rfl⟩ := Root.flush_eq_ok.mp hflush
  rw [hversion] at hes
  refine ⟨rfl, hidentified, _, hbegins.behind hes, ?_, ?_⟩
  · show root.version + committed.length = _
    rw [List.length_append, List.length_map, hversion]
  · show root.state = A.after (payloads ++ committed.map Envelope.payload ++ [].map _)
    rw [Root.stage_eq_ok hstage, Envelope.map_payload_committedFrom, List.map_nil,
      List.append_nil]
    exact hstate

/-- A root without history can be held if it is at version zero. -/
theorem held_shell {id : Id} {version : Option Nat} {tenant : Option String} {root : Root A}
    (hversion : version.getD 0 = 0) (h : Root.shell A id version tenant = .ok root) :
    root.Held codec history := by
  obtain ⟨-, hidentified, rfl⟩ := Root.shell_eq_ok.mp h
  rw [hversion]
  exact ⟨hidentified, Root.stands_behind (.nil history) id tenant⟩

end Roots

namespace Office

variable {subjects : κ → Aggregate Id} {codec : Codec}

/-! ### Tasks -/

/-- What a client does, with the help of a repository or by itself. -/
inductive Task (κ η : Type) {Id : Type} (subjects : κ → Aggregate Id) where
  /-- A request to the repository with snapshots, or to the one without. -/
  | request (cached : Bool) (request : Request κ η subjects)
  | start (k : κ) (handle : η) (id : Id) (version : Nat)
  | shell (k : κ) (handle : η) (id : Id) (version : Option Nat) (tenant : Option String)
  | rehydrate (k : κ) (handle : η) (es : List (Envelope Id (subjects k).Event))
  | flush (k : κ) (handle : η)

/-- The office with another root under a handle, if it could be had. -/
def take {ε : Type} (k : κ) (handle : η) (answer : Except ε (Root (subjects k)))
    (w : Office κ η subjects) : Office κ η subjects :=
  match answer with
  | .error _ => w
  | .ok root => w.hold k handle root

omit [Identifier Id] in
theorem snd_receive {ε : Type} (k : κ) (handle : η) (reply : Except ε Unit → Reply subjects)
    (answer : Except ε (Root (subjects k))) (w : Office κ η subjects) :
    (w.receive k handle reply answer).2 = w.take k handle answer := by
  cases answer with
  | error e => rfl
  | ok root => rfl

/-- The office with what becomes of a root under a handle, if there is one. -/
def rework {ε α : Type} (k : κ) (handle : η) (work : Root.InPlace (subjects k) ε α)
    (w : Office κ η subjects) : Office κ η subjects :=
  match w.roots k handle with
  | none => w
  | some root => w.hold k handle (work root).2

omit [Identifier Id] in
/-- What holds of an office holds behind work on a root that changes it only if it passes, if it
holds once the root behind that is held. -/
theorem rework_induct {ε α : Type} {P : Office κ η subjects → Prop} {k : κ} {handle : η}
    {work : Root.InPlace (subjects k) ε α} (hall : work.AllOrNothing) {w : Office κ η subjects}
    (h : P w) (hhold : ∀ root a behind, w.roots k handle = some root →
      work.passed root = .ok (a, behind) → P (w.hold k handle behind)) :
    P (w.rework k handle work) := by
  rw [rework]
  split
  · exact h
  · rename_i root hroot
    cases hpassed : work.passed root with
    | error e =>
      rw [hall.run_of_error hpassed, hold_of_roots hroot]
      exact h
    | ok passed =>
      obtain ⟨a, behind⟩ := passed
      rw [Root.InPlace.run_of_ok hpassed]
      exact hhold root a behind hroot hpassed

/-- The office behind a task. -/
def perform (codec : Codec) (s : Office κ η subjects × SnapshotMemory Id) :
    Task κ η subjects → Office κ η subjects × SnapshotMemory Id
  | .request cached request => (step codec (caching cached) request s).2
  | .start k handle id version => (s.1.take k handle (Root.start (subjects k) id version), s.2)
  | .shell k handle id version tenant =>
    (s.1.take k handle (Root.shell (subjects k) id version tenant), s.2)
  | .rehydrate k handle es => (s.1.rework k handle (Root.InPlace.rehydrate es), s.2)
  | .flush k handle => (s.1.rework k handle Root.InPlace.flush, s.2)

/-- The office behind tasks. -/
def performAll (codec : Codec) (s : Office κ η subjects × SnapshotMemory Id)
    (tasks : List (Task κ η subjects)) : Office κ η subjects × SnapshotMemory Id :=
  tasks.foldl (perform codec) s

/-- A task that keeps roots on the history: they start at version zero, and events that are replayed
or committed by hand are those that the store has. -/
inductive Task.Grounded (codec : Codec) (w : Office κ η subjects) : Task κ η subjects → Prop
  | request (cached : Bool) (request : Request κ η subjects) :
      Grounded codec w (.request cached request)
  | start (k : κ) (handle : η) (id : Id) : Grounded codec w (.start k handle id 0)
  | shell (k : κ) (handle : η) (id : Id) (version : Option Nat) (tenant : Option String)
      (hversion : version.getD 0 = 0) : Grounded codec w (.shell k handle id version tenant)
  | rehydrate (k : κ) (handle : η) (es : List (Envelope Id (subjects k).Event))
      (hes : ∀ root root', w.roots k handle = some root → root.rehydrate es = .ok root' →
        w.store.KeepsBehind codec (subjects k) root.id root.version es) :
      Grounded codec w (.rehydrate k handle es)
  | flush (k : κ) (handle : η)
      (hes : ∀ root committed, w.roots k handle = some root → root.stage = .ok committed →
        w.store.KeepsBehind codec (subjects k) root.id root.version committed) :
      Grounded codec w (.flush k handle)

/-- Each task is grounded when it is performed. -/
def AllGrounded (codec : Codec) :
    Office κ η subjects × SnapshotMemory Id → List (Task κ η subjects) → Prop
  | _, [] => True
  | s, task :: rest => task.Grounded codec s.1 ∧ AllGrounded codec (perform codec s task) rest

section Grounded

variable {history : String → Id → List (StoredEvent Id)} {w : Office κ η subjects}
  {t : SnapshotMemory Id}

theorem Standing.take {ε : Type} (h : w.Standing codec history t) (k : κ) (handle : η)
    {answer : Except ε (Root (subjects k))}
    (hanswer : ∀ root, answer = .ok root → root.Held codec (history (subjects k).kind root.id)) :
    (w.take k handle answer).Standing codec history t := by
  cases answer with
  | error e => exact h
  | ok root => exact h.hold k handle (hanswer root rfl)

theorem Standing.rework {ε α : Type} (h : w.Standing codec history t) (k : κ) (handle : η)
    {work : Root.InPlace (subjects k) ε α} (hall : work.AllOrNothing)
    (hwork : ∀ root a root', w.roots k handle = some root → work.passed root = .ok (a, root') →
      root'.id = root.id ∧ root'.Held codec (history (subjects k).kind root.id)) :
    (w.rework k handle work).Standing codec history t := by
  refine rework_induct (P := fun w => w.Standing codec history t) hall h
    fun root a root' hroot hpassed => ?_
  obtain ⟨hid, hheld⟩ := hwork root a root' hroot hpassed
  rw [← hid] at hheld
  exact h.hold k handle hheld

/-- **Behind a grounded task all stands.** -/
theorem Standing.perform [Identifier.Unmistakable Id] (hsnapshots : Snapshottable subjects)
    (hevents : ∀ k, (subjects k).events.RoundTrips codec) (h : w.Standing codec history t)
    {task : Task κ η subjects} (hgrounded : task.Grounded codec w) :
    ∃ history', (Office.perform codec (w, t) task).1.Standing codec history'
      (Office.perform codec (w, t) task).2 := by
  cases hgrounded with
  | request cached request =>
    obtain ⟨reply, w', t', history', -, hstep, hstanding⟩ :
        Alike codec cached request w t := h.step (fun _ => hsnapshots) hevents request
    refine ⟨history', ?_⟩
    rw [Office.perform, hstep]
    exact hstanding
  | start k handle id =>
    exact ⟨history, h.take k handle fun root hroot => held_create hroot⟩
  | shell k handle id version tenant hversion =>
    exact ⟨history, h.take k handle fun root hroot => held_shell hversion hroot⟩
  | rehydrate k handle es hes =>
    refine ⟨history, h.rework k handle (Root.InPlace.allOrNothing_rehydrate es)
      fun root _ root' hroot hpassed => ?_⟩
    have hrehydrate : root.rehydrate es = .ok root' := map_eq_ok.mpr ⟨_, hpassed, rfl⟩
    have hbehind := hes root root' hroot hrehydrate _ (h.keeps _ _)
    exact (h.roots k handle root hroot).rehydrate hbehind hrehydrate
  | flush k handle hes =>
    refine ⟨history, h.rework k handle Root.InPlace.allOrNothing_flush
      fun root committed root' hroot hflush => ?_⟩
    have hstage := (Root.flush_eq_ok.mp hflush).1
    have hbehind := hes root committed hroot hstage _ (h.keeps _ _)
    exact (h.roots k handle root hroot).flush hbehind hflush

/-- Behind grounded tasks all stands, as long as it did in front of them. -/
theorem Standing.performAll [Identifier.Unmistakable Id] (hsnapshots : Snapshottable subjects)
    (hevents : ∀ k, (subjects k).events.RoundTrips codec) (h : w.Standing codec history t)
    (tasks : List (Task κ η subjects)) (hgrounded : AllGrounded codec (w, t) tasks) :
    ∃ history', (Office.performAll codec (w, t) tasks).1.Standing codec history'
      (Office.performAll codec (w, t) tasks).2 := by
  induction tasks generalizing w t history with
  | nil => exact ⟨history, h⟩
  | cons task rest ih =>
    obtain ⟨hfirst, hrest⟩ := hgrounded
    obtain ⟨history', hstanding⟩ := h.perform hsnapshots hevents hfirst
    exact ih hstanding hrest

end Grounded

/-! ### Snapshots -/

/-- **All snapshots are right if all tasks are grounded.**  Whatever clients ask of a repository,
with snapshots under any policy or without, and whatever they do to roots by themselves: as long as
these start at version zero and are led on by events that the store has, each snapshot is what is
written of the state after as many stored events as its version says, and loading with snapshots is
loading without. -/
theorem snapshots_of_grounded [Identifier.Unmistakable Id] (subjects : κ → Aggregate Id)
    (hsnapshots : Snapshottable subjects) (codec : Codec)
    (hevents : ∀ k, (subjects k).events.RoundTrips codec) (policy : SnapshotPolicy)
    (tasks : List (Task κ η subjects))
    (hgrounded : AllGrounded codec (empty subjects, .empty policy) tasks) :
    let s := performAll codec (empty subjects, .empty policy) tasks
    (∀ k id kept, s.2.find? (subjects k).kind id = some kept →
      ∃ history payloads, s.1.store.Keeps (subjects k).kind id history ∧
        (history.take kept.version).mapM
          (fun e => (subjects k).events.decode codec e.kind e.data) = .ok payloads ∧
        payloads.length = kept.version ∧
        (subjects k).form.write ((subjects k).fold (subjects k).initial payloads) =
          .ok kept.data) ∧
    ∀ k id, ((Repository.onMemory codec (caching true)).load (subjects k) id
        (s.1.store, s.2)).1 =
      ((Repository.onMemory codec (caching false)).load (subjects k) id (s.1.store, s.2)).1 := by
  intro s
  obtain ⟨history, hstanding⟩ :=
    (standing_empty codec subjects policy).performAll hsnapshots hevents tasks hgrounded
  refine ⟨fun k id kept hkept => ?_, fun k id => ?_⟩
  · obtain ⟨payloads, hbegins, -, hversion, hwrite⟩ := hstanding.snapshots k id kept hkept
    refine ⟨history (subjects k).kind id, payloads, hstanding.keeps _ _, ?_, hversion.symm, hwrite⟩
    rw [hversion]
    exact hbegins
  · rw [load_caching, load_caching]
    exact hstanding.loaded (fun _ => hsnapshots.forms k) id

/-- A client replays on a root of its own what the store has, and goes on from there. -/
theorem snapshots_of_grounded_counter :
    let reset (handle : Bool) : Task Unit Bool fun _ => Sample.counter :=
      .request true (.change () handle (.apply ⟨.nil, .epoch⟩ .reset))
    let save (handle : Bool) : Task Unit Bool fun _ => Sample.counter :=
      .request true (.save () handle none)
    let first : Envelope String Sample.counter.Event :=
      ⟨.nil, "c", some 1, Sample.CounterEvent.reset, .epoch, .unknown⟩
    let tasks : List (Task Unit Bool fun _ => Sample.counter) :=
      [.start () true "c" 0, reset true, save true, .shell () false "c" none none,
        .rehydrate () false [first], reset false, save false]
    let s := performAll .json (empty _, SnapshotMemory.empty .always) tasks
    AllGrounded .json (empty _, SnapshotMemory.empty .always) tasks ∧
      s.2.versionOf? "counter" "c" = some 2 ∧
      ((Repository.onMemory .json (caching true)).load Sample.counter "c" (s.1.store, s.2)).1 =
        ((Repository.onMemory .json (caching false)).load Sample.counter "c"
          (s.1.store, s.2)).1 := by
  intro reset save first tasks s
  have hgrounded : AllGrounded .json (empty _, SnapshotMemory.empty .always) tasks := by
    refine ⟨.start _ _ _, .request _ _, .request _ _, .shell _ _ _ _ _ rfl, .rehydrate _ _ _ ?_,
      .request _ _, .request _ _, trivial⟩
    rintro root root' hroot - history hkeeps
    cases hroot
    let stream : Stream String := ⟨⟨"c", 1, none, false, none⟩,
      [⟨"counter", "c", .nil, "reset", 1, [110, 117, 108, 108], .epoch, .unknown⟩]⟩
    have hkept : Slot.Keeps "counter" "c" (some (.live stream)) history := hkeeps
    cases hkept
    have hdecode := Sample.CounterEvent.roundTrips .reset [110, 117, 108, 108] rfl
    exact mapM_cons_eq_ok.mpr ⟨first, bind_eq_ok.mpr ⟨_, hdecode, rfl⟩, [], rfl, rfl⟩
  have hsnapshots : Snapshottable fun _ : Unit => Sample.counter :=
    ⟨fun _ _ _ => rfl, fun _ => Sample.roundTrips_counter⟩
  obtain ⟨-, hloaded⟩ := snapshots_of_grounded _ hsnapshots .json
    (fun _ => Sample.CounterEvent.roundTrips) .always tasks hgrounded
  exact ⟨hgrounded, by decide, hloaded () "c"⟩

/-- **Snapshots of roots that are not grounded are wrong.**  A counter has been reset once.  Then a
client comes to a root at version one in some other way than from the store: it starts one there,
builds one there, replays an event that is not stored, or commits one by hand.  It resets that root
and saves it, and the save is accepted; there are two resets now, but the snapshot of version two
has one. -/
theorem snapshot_of_ungrounded :
    let reset (handle : Bool) : Task Unit Bool fun _ => Sample.counter :=
      .request true (.change () handle (.apply ⟨.nil, .epoch⟩ Sample.CounterEvent.reset))
    let add (handle : Bool) : Task Unit Bool fun _ => Sample.counter :=
      .request true (.change () handle (.apply ⟨.nil, .epoch⟩ (Sample.CounterEvent.valueAdded 5)))
    let save (handle : Bool) : Task Unit Bool fun _ => Sample.counter :=
      .request true (.save () handle none)
    let ways : List (List (Task Unit Bool fun _ => Sample.counter)) :=
      [[.start () false "c" 1], [.shell () false "c" (some 1) none],
        [.start () false "c" 0, .rehydrate () false
          [⟨.nil, "c", some 1, Sample.CounterEvent.valueAdded 5, .epoch, .unknown⟩]],
        [.start () false "c" 0, add false, .flush () false]]
    let stored (version : Nat) : StoredEvent String :=
      ⟨"counter", "c", .nil, "reset", version, [110, 117, 108, 108], .epoch, .unknown⟩
    let data : Json := .obj [("resets", .int 1), ("value", .int 0)]
    (∀ way ∈ ways,
      let s := performAll .json (empty _, SnapshotMemory.empty .always)
        ([.request true (.create () true "c"), reset true, save true] ++ way ++
          [reset false, save false])
      s.1.store.loadEvents "counter" "c" .all = [stored 1, stored 2] ∧
        s.2.find? "counter" "c" = some ⟨2, data⟩ ∧
        ((Repository.onMemory .json (caching true)).load Sample.counter "c" (s.1.store, s.2)).1.map
          Root.state = .ok (some ⟨0, 1⟩)) ∧
      [stored 1, stored 2].mapM (fun e => Sample.counter.events.decode .json e.kind e.data) =
        .ok [Sample.CounterEvent.reset, Sample.CounterEvent.reset] ∧
      Sample.counter.fold Sample.counter.initial
        [Sample.CounterEvent.reset, Sample.CounterEvent.reset] = ⟨0, 2⟩ ∧
      Sample.counter.form.write ⟨0, 2⟩ ≠ .ok data := by
  intro reset add save ways stored data
  refine ⟨fun way hway => ?_, ?_, rfl, fun hwrite => ?_⟩
  · simp only [ways, List.mem_cons, List.not_mem_nil, or_false] at hway
    rcases hway with rfl | rfl | rfl | rfl
    all_goals exact ⟨rfl, rfl, rfl⟩
  · have hdecode := Sample.CounterEvent.roundTrips .reset [110, 117, 108, 108] rfl
    exact mapM_cons_eq_ok.mpr ⟨_, hdecode, _, mapM_cons_eq_ok.mpr ⟨_, hdecode, [], rfl, rfl⟩, rfl⟩
  · have hone := Sample.roundTrips_counter ⟨0, 1⟩ data rfl
    have htwo := Sample.roundTrips_counter ⟨0, 2⟩ data hwrite
    rw [hone] at htwo
    cases htwo

end Office

end EventSourcing
