import EventSourcing.Proofs.Clients.Workshop

/-!
# Snapshots bound what is replayed

As long as the events of an aggregate come from saves that offer snapshots, and from nothing else,
its snapshot is never as much as a period of the policy old.  So loading replays fewer events than
that, however many the aggregate has.

What carries the proof is that a save is accepted only on top of the version that the store has; the
version from which the policy counts is therefore the version of the last save, and no multiple of
the period is passed unseen.  A root with pending events always has a state that can be offered.

## Main Definitions

* `Root.Begun` — a root that has a state if events are pending.
* `Office.Paced` — an office with an up-to-date snapshot of an aggregate.
* `Office.Task.Covered`, `Office.AllCovered` — what keeps the snapshot up to date.

## Main Statements

* `Office.Paced.saved` — a save that offers a snapshot.
* `Office.Paced.perform` — any task.
* `Office.snapshots_bound_replay` — snapshots bound what is replayed.
-/

namespace EventSourcing

attribute [local instance] Counting.exact

variable {κ η Id : Type} [DecidableEq κ] [DecidableEq η] [Identifier Id]

/-! ### Roots with pending events -/

/-- A root has a state if events are pending. -/
def Root.Begun {A : Aggregate Id} (root : Root A) : Prop :=
  root.pending ≠ [] → root.state.isSome = true

namespace Root

variable {A : Aggregate Id} {root root' : Root A}

omit [Identifier Id] in
theorem begun_of_pending (h : root.pending = []) : root.Begun := fun hne => absurd h hne

omit [Identifier Id] in
theorem begun_record (root : Root A) (e : Envelope Id A.Event) : (root.record e).Begun :=
  fun _ => rfl

omit [Identifier Id] in
theorem Begun.changed (h : root.Begun) {change : Change A}
    (hchanged : root.changed change = .ok root') : root'.Begun :=
  changed_induct (P := Begun) hchanged (fun r e _ _ _ => r.begun_record e) (fun _ _ _ _ hr => hr) h

theorem begun_of_shell {id : Id} {version : Option Nat} {tenant : Option String}
    (h : Root.shell A id version tenant = .ok root) : root.Begun := by
  obtain ⟨-, -, rfl⟩ := shell_eq_ok.mp h
  exact begun_of_pending rfl

theorem begun_of_start {id : Id} {version : Nat} (h : Root.start A id version = .ok root) :
    root.Begun := by
  obtain ⟨-, rfl⟩ := start_eq_ok.mp h
  exact begun_of_pending rfl

theorem begun_of_rehydrate {es : List (Envelope Id A.Event)} (h : root.rehydrate es = .ok root') :
    root'.Begun := by
  obtain ⟨hpending, -, rfl⟩ := rehydrate_eq_ok.mp h
  exact begun_of_pending ((root.pending_replayed es).trans hpending)

theorem begun_of_flush {committed : List (Envelope Id A.Event)}
    (h : root.flush = .ok (committed, root')) : root'.Begun := by
  obtain ⟨-, rfl⟩ := flush_eq_ok.mp h
  exact begun_of_pending rfl

end Root

namespace Office

variable {subjects : κ → Aggregate Id} {codec : Codec} {policy : SnapshotPolicy} {kind : String}
  {id : Id}

/-! ### Tasks that leave events to saves -/

/-- Whether a task may append events to a history without the offer of a snapshot. -/
def Task.bypasses : Task κ η subjects → Bool
  | .request cached (.save _ _ _) => !cached
  | .request _ (.call (.save _ _ _ _)) => true
  | .request _ (.seed _ _ _ _ _) => true
  | .request _ (.seedRaw _ _ _ _ _ _) => true
  | _ => false

/-- A task leaves the events of an aggregate to saves that offer snapshots. -/
structure Task.Covered (codec : Codec) (kind : String) (id : Id)
    (s : Office κ η subjects × SnapshotMemory Id) (task : Task κ η subjects) : Prop where
  /-- If it is such a save of the aggregate, the state can be written. -/
  writes : ∀ k handle expected root state, task = .request true (.save k handle expected) →
    s.1.roots k handle = some root → (subjects k).kind = kind → root.id = id →
    root.state = some state → ∃ data, (subjects k).form.write state = .ok data
  /-- Nothing else appends to the history of the aggregate. -/
  leaves : task.bypasses = true → ∀ history, s.1.store.Keeps kind id history →
    (perform codec s task).1.store.Keeps kind id history

/-- Each task leaves the events of an aggregate to saves that offer snapshots. -/
def AllCovered (codec : Codec) (kind : String) (id : Id) :
    Office κ η subjects × SnapshotMemory Id → List (Task κ η subjects) → Prop
  | _, [] => True
  | s, task :: rest =>
    task.Covered codec kind id s ∧ AllCovered codec kind id (perform codec s task) rest

/-! ### Up-to-date offices -/

/-- An office whose snapshot of an aggregate is up to date, as long as there are versions to
count. -/
structure Paced (policy : SnapshotPolicy) (kind : String) (id : Id) (w : Office κ η subjects)
    (t : SnapshotMemory Id) : Prop where
  follows : t.policy = policy
  begun : ∀ k handle root, w.roots k handle = some root → root.Begun
  kept : ∃ history, w.store.Keeps kind id history ∧ (history.length ≤ Version.max →
    UpToDate policy.period history.length (t.versionOf? kind id))

omit [DecidableEq κ] [DecidableEq η] in
theorem paced_empty (subjects : κ → Aggregate Id) (kind : String) (id : Id)
    (hperiod : 0 < policy.period) :
    (empty subjects : Office κ η subjects).Paced policy kind id (.empty policy) where
  follows := rfl
  begun k handle root h := by cases h
  kept := ⟨[], Memory.keeps_empty kind id, fun _ => hperiod⟩

namespace Paced

variable {w : Office κ η subjects} {t : SnapshotMemory Id}

theorem hold (h : w.Paced policy kind id t) (k : κ) (handle : η) {root : Root (subjects k)}
    (hroot : root.Begun) : (w.hold k handle root).Paced policy kind id t where
  follows := h.follows
  begun := forall_roots_hold (P := fun _ root => root.Begun) h.begun k handle hroot
  kept := h.kept

theorem take {ε : Type} (h : w.Paced policy kind id t) (k : κ) (handle : η)
    {answer : Except ε (Root (subjects k))} (hanswer : ∀ root, answer = .ok root → root.Begun) :
    (w.take k handle answer).Paced policy kind id t := by
  cases answer with
  | error e => exact h
  | ok root => exact h.hold k handle (hanswer root rfl)

theorem rework {ε α : Type} (h : w.Paced policy kind id t) (k : κ) (handle : η)
    {work : Root.InPlace (subjects k) ε α} (hall : work.AllOrNothing)
    (hwork : ∀ root a root', work.passed root = .ok (a, root') → root'.Begun) :
    (w.rework k handle work).Paced policy kind id t :=
  rework_induct (P := fun w => w.Paced policy kind id t) hall h
    fun root a root' _ hpassed => h.hold k handle (hwork root a root' hpassed)

omit [DecidableEq κ] [DecidableEq η] in
/-- The store may be another one that has the same history of the aggregate. -/
theorem withStore (h : w.Paced policy kind id t) {m : Memory Id}
    (hm : ∀ history, w.store.Keeps kind id history → m.Keeps kind id history) :
    (w.withStore m).Paced policy kind id t where
  follows := h.follows
  begun := h.begun
  kept := by
    obtain ⟨history, hkeeps, hrecent⟩ := h.kept
    exact ⟨history, hm history hkeeps, hrecent⟩

omit [DecidableEq κ] [DecidableEq η] in
/-- What is done with a root is done with one that has a state if events are pending. -/
theorem withRoot (h : w.Paced policy kind id t) (k : κ) (handle : η)
    {act : Root (subjects k) → Reply subjects × Office κ η subjects × SnapshotMemory Id}
    (hact : ∀ root, w.roots k handle = some root → root.Begun →
      (act root).2.1.Paced policy kind id (act root).2.2) :
    (Office.withRoot k handle (w, t) act).2.1.Paced policy kind id
      (Office.withRoot k handle (w, t) act).2.2 :=
  withRoot_induct (P := fun s => s.1.Paced policy kind id s.2) h fun root hroot =>
    hact root hroot (h.begun k handle root hroot)

omit [DecidableEq κ] [DecidableEq η] in
/-- A snapshot of another aggregate may be offered. -/
theorem offered_of_ne (h : w.Paced policy kind id t) {k : κ} {root : Root (subjects k)}
    (hne : ((subjects k).kind, root.id) ≠ (kind, id)) (current count : Nat) :
    w.Paced policy kind id (Repository.offered (caching true) root current count t) := by
  unfold Repository.offered
  cases root.state with
  | none => exact h
  | some state =>
    obtain ⟨hfollows, hroots, history, hkeeps, hrecent⟩ := h
    let t' := (t.offer (subjects k).form (subjects k).kind root.id current count
      (.ok ⟨root.version, state⟩)).2
    have hpolicy : t'.policy = t.policy := t.policy_offer ..
    have hsame : t'.versionOf? kind id = t.versionOf? kind id :=
      SnapshotMemory.versionOf?_offer_of_ne _ _ _ _ _ hne _ t
    refine ⟨hpolicy.trans hfollows, hroots, history, hkeeps, fun hmax => ?_⟩
    show UpToDate policy.period history.length (t'.versionOf? kind id)
    rw [hsame]
    exact hrecent hmax

omit [DecidableEq κ] [DecidableEq η] in
/-- A snapshot may be offered of a root that is saved on top of the version of a history. -/
theorem offered (hperiod : 0 < policy.period) (h : w.Paced policy kind id t) {k : κ}
    {root : Root (subjects k)} {current count : Nat} {m : Memory Id}
    {history : List (StoredEvent Id)} (hkeeps : m.Keeps kind id history)
    (hlength : history.length = current + count) (hversion : root.version = current + count)
    (hkey : ((subjects k).kind, root.id) = (kind, id))
    (hrecent : current ≤ Version.max → UpToDate policy.period current (t.versionOf? kind id))
    (hstate : count ≠ 0 → root.state.isSome = true)
    (hwrites : ∀ state, root.state = some state →
      ∃ data, (subjects k).form.write state = .ok data) :
    (w.withStore m).Paced policy kind id
      (Repository.offered (caching true) root current count t) := by
  obtain ⟨rfl, rfl⟩ := Prod.mk.inj hkey
  unfold Repository.offered
  cases hfound : root.state with
  | none =>
    have hcount : count = 0 := by
      by_contra hcount
      have hsome := hstate hcount
      rw [hfound] at hsome
      cases hsome
    subst hcount
    refine ⟨h.follows, h.begun, history, hkeeps, fun hmax => ?_⟩
    rw [hlength] at hmax ⊢
    exact hrecent hmax
  | some state =>
    obtain ⟨data, hwrite⟩ := hwrites state hfound
    let t' := (t.offer (subjects k).form (subjects k).kind root.id current count
      (.ok ⟨root.version, state⟩)).2
    have hpolicy : t'.policy = t.policy := t.policy_offer ..
    refine ⟨hpolicy.trans h.follows, h.begun, history, hkeeps, fun hmax => ?_⟩
    show UpToDate policy.period history.length (t'.versionOf? (subjects k).kind root.id)
    rw [hlength] at hmax ⊢
    have hbefore := hrecent (Nat.le_trans (Nat.le_add_right current count) hmax)
    rw [← h.follows] at hperiod hbefore ⊢
    have hoffer := SnapshotMemory.upToDate_offer hperiod hwrite hmax hbefore
    rw [← hversion] at hoffer
    rw [← hversion]
    exact hoffer

omit [DecidableEq κ] [DecidableEq η] in
/-- **Behind a save that offers a snapshot the snapshot is up to date**, whether the save is one of
the aggregate or of another one. -/
theorem saved (hperiod : 0 < policy.period) (h : w.Paced policy kind id t) {k : κ}
    {root root' : Root (subjects k)} (hbegun : root.Begun) {expected : Option Nat}
    {committed : List (Envelope Id (subjects k).Event)} {m : Memory Id}
    (hcommitted : Repository.Committed codec root expected w.store (.ok (committed, root'), m))
    (hwrites : ∀ state, (subjects k).kind = kind → root.id = id → root.state = some state →
      ∃ data, (subjects k).form.write state = .ok data) :
    (w.withStore m).Paced policy kind id
      (Repository.offered (caching true) root' root.version committed.length t) := by
  cases hcommitted with
  | accepted committed batch version m hprepared hsave =>
    obtain ⟨history, hkeeps, hrecent⟩ := h.kept
    by_cases hkey : ((subjects k).kind, root.id) = (kind, id)
    · obtain ⟨rfl, rfl⟩ := Prod.mk.inj hkey
      obtain ⟨hcommitted, hbatch⟩ := Root.prepared_eq_ok hprepared
      have hkept : w.store.Keeps (subjects k).kind
          (root.recordAt (plus root.version committed.length)).aggregate history := hkeeps
      obtain ⟨hversion, hkeeps'⟩ := hkept.save_ok hsave
      rw [← hversion] at hrecent
      refine h.offered hperiod hkeeps' ?_ rfl hkey hrecent ?_ ?_
      · rw [List.length_append, List.length_map, length_encodedFrom hbatch, hversion]
      · intro hcount
        refine hbegun fun hpending => hcount ?_
        rw [hcommitted, hpending]
        rfl
      · exact fun state => hwrites state rfl rfl
    · have hkept := hkeeps.save (subjects k).kind
        (root.recordAt (plus root.version committed.length)) root.version batch
      have hnothing : w.store.committed kind id (.save (subjects k).kind
          (root.recordAt (plus root.version committed.length)) root.version batch) = [] := by
        simp only [Memory.committed, hsave]
        exact if_neg hkey
      rw [hnothing, hsave, List.flatMap_nil, List.append_nil] at hkept
      have hstored : (w.withStore m).Paced policy kind id t :=
        ⟨h.follows, h.begun, history, hkept.1, hrecent⟩
      have hother : ((subjects k).kind, (root.complete committed).id) ≠ (kind, id) := hkey
      exact hstored.offered_of_ne hother root.version committed.length

/-- A save leaves the snapshot up to date if it offers one, and so does one that leaves the history
of the aggregate. -/
theorem save (hperiod : 0 < policy.period) (h : w.Paced policy kind id t) (cached : Bool) (k : κ)
    (handle : η) (expected : Option Nat)
    (hcovered : (Task.request cached (.save k handle expected)).Covered codec kind id (w, t)) :
    (step codec (caching cached) (.save k handle expected) (w, t)).2.1.Paced policy kind id
      (step codec (caching cached) (.save k handle expected) (w, t)).2.2 := by
  rw [step_save]
  refine h.withRoot k handle fun root hroot hbegun => ?_
  obtain ⟨⟨answer, m⟩, hcommitted, hsave⟩ := Repository.committed_save codec w.store root expected
  cases answer with
  | error e =>
    obtain rfl : w.store = m := by
      cases hcommitted with
      | unprepared | refused => rfl
    simp only [hsave]
    exact h
  | ok saved =>
    obtain ⟨committed, root'⟩ := saved
    have hroot' : root'.Begun := by
      cases hcommitted with
      | accepted => exact Root.begun_of_pending rfl
    simp only [hsave]
    cases cached with
    | true =>
      have hsaved := h.saved hperiod hbegun hcommitted fun state =>
        hcovered.writes k handle expected root state rfl hroot
      exact hsaved.hold k handle hroot'
    | false =>
      have hkept : ∀ history, w.store.Keeps kind id history → m.Keeps kind id history := by
        intro history hkeeps
        have hkeeps' := hcovered.leaves rfl history hkeeps
        simp only [Office.perform, step_save, Office.withRoot, hroot, hsave] at hkeeps'
        exact hkeeps'
      exact (h.withStore hkept).hold k handle hroot'

/-- **Behind a request the snapshot is up to date.** -/
theorem request [Identifier.Unmistakable Id] (hperiod : 0 < policy.period)
    (h : w.Paced policy kind id t) (cached : Bool) (request : Request κ η subjects)
    (hcovered : (Task.request cached request).Covered codec kind id (w, t)) :
    (step codec (caching cached) request (w, t)).2.1.Paced policy kind id
      (step codec (caching cached) request (w, t)).2.2 := by
  cases request with
  | create k handle id' =>
    show (w.receive k handle .create (Repository.create (subjects k) id')).2.Paced policy kind id t
    rw [snd_receive]
    exact h.take k handle fun root hroot => Root.begun_of_start hroot
  | load k handle id' =>
    simp only [step, load_caching, snd_receive]
    refine h.take k handle fun root hroot => ?_
    obtain ⟨record, -, -, -, -, -, hpending⟩ := Memory.loaded_eq_ok hroot
    exact Root.begun_of_pending hpending
  | loadAt k handle id' version =>
    simp only [step, Repository.loadAt_memory, snd_receive]
    exact h.take k handle fun root hroot =>
      Root.begun_of_pending (Memory.pending_of_loadedAt hroot)
  | events k id' upTo =>
    simp only [step, Repository.events_memory]
    exact h
  | change k handle change =>
    rw [step_change]
    refine h.withRoot k handle fun root hroot hbegun => ?_
    simp only [snd_receive]
    exact h.take k handle fun root' hchanged => hbegun.changed hchanged
  | record k handle e =>
    exact h.withRoot k handle fun root hroot hbegun => h.hold k handle (root.begun_record e)
  | tenant k handle tenant =>
    exact h.withRoot k handle fun root hroot hbegun => h.hold k handle hbegun
  | originator k handle originator =>
    exact h.withRoot k handle fun root hroot hbegun => h.hold k handle hbegun
  | save k handle expected => exact h.save hperiod cached k handle expected hcovered
  | call call =>
    cases call with
    | save kind' record expected events => exact h.withStore (hcovered.leaves rfl)
    | box kind' id' encoding =>
      exact h.withStore fun history hkeeps => hkeeps.box kind' id' encoding
    | unbox kind' id' encoding =>
      exact h.withStore fun history hkeeps => hkeeps.unbox kind' id' encoding
  | seed k ids now id' events =>
    obtain ⟨answer, m, -, hseed⟩ :=
      Seeding.exists_seed codec w.store (subjects k) ids now id' events
    have hkept := hcovered.leaves rfl
    simp only [Office.perform, step, hseed] at hkept ⊢
    exact h.withStore hkept
  | seedRaw kind' eventId now id' eventKind data =>
    obtain ⟨answer, m, -, hseed⟩ :=
      Seeding.exists_seedRaw codec w.store kind' eventId now id' eventKind data
    have hkept := hcovered.leaves rfl
    simp only [Office.perform, step, hseed] at hkept ⊢
    exact h.withStore hkept

/-- **Behind any task the snapshot is up to date.** -/
theorem perform [Identifier.Unmistakable Id] (hperiod : 0 < policy.period)
    (h : w.Paced policy kind id t) {task : Task κ η subjects}
    (hcovered : task.Covered codec kind id (w, t)) :
    (Office.perform codec (w, t) task).1.Paced policy kind id
      (Office.perform codec (w, t) task).2 := by
  cases task with
  | request cached request => exact h.request hperiod cached request hcovered
  | start k handle id' version =>
    exact h.take k handle fun root hroot => Root.begun_of_start hroot
  | shell k handle id' version tenant =>
    exact h.take k handle fun root hroot => Root.begun_of_shell hroot
  | rehydrate k handle es =>
    exact h.rework k handle (Root.InPlace.allOrNothing_rehydrate es)
      fun root _ root' hwork => Root.begun_of_rehydrate (map_eq_ok.mpr ⟨_, hwork, rfl⟩)
  | flush k handle =>
    exact h.rework k handle Root.InPlace.allOrNothing_flush
      fun root committed root' hwork => Root.begun_of_flush hwork

/-- It is so behind any tasks, as long as it was in front of them. -/
theorem performAll [Identifier.Unmistakable Id] (hperiod : 0 < policy.period)
    (h : w.Paced policy kind id t) (tasks : List (Task κ η subjects))
    (hcovered : AllCovered codec kind id (w, t) tasks) :
    (Office.performAll codec (w, t) tasks).1.Paced policy kind id
      (Office.performAll codec (w, t) tasks).2 := by
  induction tasks generalizing w t with
  | nil => exact h
  | cons task rest ih =>
    obtain ⟨hfirst, hrest⟩ := hcovered
    exact ih (h.perform hperiod hfirst) hrest

end Paced

/-! ### Loading -/

/-- Loading with a snapshot that can be read starts from it. -/
theorem load_of_find? {A : Aggregate Id} {m : Memory Id} {t : SnapshotMemory Id}
    {record : Record Id} {kept : Snapshot Json} {state : A.State}
    (hrecord : m.recordOf A id = .ok record) (hkept : t.find? A.kind id = some kept)
    (hread : A.form.read kept.data = .ok state) (hle : kept.version ≤ record.version) :
    ((Repository.onMemory codec (caching true)).load A id (m, t)).1 = (do
      let base ← Repository.base A record (some ⟨kept.version, state⟩)
      m.replayed codec base record) := by
  have husable : usable true A id t record.version = some ⟨kept.version, state⟩ := by
    simp only [usable, SnapshotMemory.load, hkept, hread, Memory.usable, if_pos hle]
  rw [load_caching, Memory.loaded, hrecord]
  show (do let base ← Repository.base A record (usable true A id t record.version)
           m.replayed codec base record) = _
  rw [husable]

end Office

end EventSourcing
