import EventSourcing.Proofs.Clients.Office
import EventSourcing.Proofs.Repository.Standing
import EventSourcing.Proofs.Sample.Counter
import EventSourcing.Proofs.Snapshot.Offers
import EventSourcing.Proofs.Testing.Seeding

/-!
# Snapshots change nothing that can be seen

Two offices get the same requests; one of them keeps snapshots, under any policy.  Both give the
same replies, have the same store and hold the same roots all along.

What carries the proof is that every root that is held and every snapshot that is kept stands on the
history of its aggregate: its version counts events at the front of the history, and its state is
the one behind them.  Histories only grow, so this is never lost, and a root is as good as any other
to replay the rest from.

## Main Definitions

* `Office.Standing` — all roots and snapshots stand on the histories that the store keeps.
* `Office.Snapshottable` — what snapshots rely on.

## Main Statements

* `Office.Standing.step` — with and without snapshots, a request does the same.
* `Office.Standing.run` — all stands behind any requests.
* `Office.trace_snapshots` — snapshots change nothing that can be seen.
-/

namespace EventSourcing

attribute [local instance] Counting.exact

variable {κ η Id : Type} [DecidableEq κ] [DecidableEq η] [Identifier Id]
  {subjects : κ → Aggregate Id} {codec : Codec}

namespace Office

/-! ### Standing offices -/

/-- The store keeps the histories, and all roots and snapshots stand on them. -/
structure Standing (codec : Codec) (history : String → Id → List (StoredEvent Id))
    (w : Office κ η subjects) (t : SnapshotMemory Id) : Prop where
  keeps : ∀ kind id, w.store.Keeps kind id (history kind id)
  roots : ∀ k handle root, w.roots k handle = some root →
    root.Held codec (history (subjects k).kind root.id)
  snapshots : ∀ k id s, t.find? (subjects k).kind id = some s →
    s.Stands (subjects k) codec (history (subjects k).kind id)

variable {history history' : String → Id → List (StoredEvent Id)} {w : Office κ η subjects}
  {t : SnapshotMemory Id}

omit [DecidableEq κ] [DecidableEq η] in
theorem standing_empty (codec : Codec) (subjects : κ → Aggregate Id) (policy : SnapshotPolicy) :
    (empty subjects : Office κ η subjects).Standing codec (fun _ _ => [])
      (SnapshotMemory.empty policy) where
  keeps kind id := Memory.keeps_empty kind id
  roots k handle root h := by cases h
  snapshots k id s h := by cases h

/-- What snapshots rely on: the kind of an aggregate tells its type, and states are read back as
they were. -/
structure Snapshottable (subjects : κ → Aggregate Id) : Prop where
  kinds : Function.Injective fun k => (subjects k).kind
  forms : ∀ k, (subjects k).form.RoundTrips

namespace Standing

omit [DecidableEq κ] [DecidableEq η] in
/-- The histories may grow. -/
theorem grow (h : w.Standing codec history t) {m : Memory Id}
    (hkeeps : ∀ kind id, m.Keeps kind id (history' kind id))
    (hgrow : ∀ kind id, history kind id <+: history' kind id) :
    (w.withStore m).Standing codec history' t where
  keeps := hkeeps
  roots k handle root hroot := by
    obtain ⟨hidentified, hstands⟩ := h.roots k handle root hroot
    exact ⟨hidentified, hstands.mono (hgrow _ _)⟩
  snapshots k id s hs := by
    obtain ⟨payloads, hbegins, hrest⟩ := h.snapshots k id s hs
    exact ⟨payloads, hbegins.mono (hgrow _ _), hrest⟩

theorem hold (h : w.Standing codec history t) (k : κ) (handle : η) {root : Root (subjects k)}
    (hroot : root.Held codec (history (subjects k).kind root.id)) :
    (w.hold k handle root).Standing codec history t where
  keeps := h.keeps
  roots := forall_roots_hold
    (P := fun k root => root.Held codec (history (subjects k).kind root.id)) h.roots k handle hroot
  snapshots := h.snapshots

/-- A root that could be had may be held. -/
theorem receive {ε : Type} (h : w.Standing codec history t) (k : κ) (handle : η)
    (reply : Except ε Unit → Reply subjects) (answer : Except ε (Root (subjects k)))
    (hanswer : ∀ root, answer = .ok root →
      root.Held codec (history (subjects k).kind root.id)) :
    (w.receive k handle reply answer).2.Standing codec history t :=
  receive_induct (P := fun w => w.Standing codec history t) h fun root hroot =>
    h.hold k handle (hanswer root hroot)

omit [DecidableEq κ] [DecidableEq η] in
/-- A call of the store makes the histories grow. -/
theorem after [Identifier.Unmistakable Id] (h : w.Standing codec history t) (call : Call Id) :
    ∃ history', (∀ kind id, history kind id <+: history' kind id) ∧
      (w.withStore (w.store.after call)).Standing codec history' t := by
  refine ⟨fun kind id => history kind id ++ (w.store.committed kind id call).flatMap Prod.snd,
    fun kind id => List.prefix_append _ _, ?_⟩
  exact h.grow (fun kind id => ((h.keeps kind id).after call).1) fun kind id =>
    List.prefix_append _ _

omit [DecidableEq κ] [DecidableEq η] in
/-- A snapshot that stands on its history may be kept; there is only one kind of aggregates of a
name. -/
theorem put (hkinds : Function.Injective fun k => (subjects k).kind)
    (h : w.Standing codec history t) (k : κ) {id : Id} {s : Snapshot Json}
    (hs : s.Stands (subjects k) codec (history (subjects k).kind id)) :
    w.Standing codec history (t.put (subjects k).kind id s) where
  keeps := h.keeps
  roots := h.roots
  snapshots k' id' s' hs' := by
    rw [SnapshotMemory.find?_put] at hs'
    split at hs'
    · rename_i hkey
      obtain ⟨hkind, rfl⟩ := Prod.mk.inj hkey
      cases hkinds hkind
      cases hs'
      exact hs
    · exact h.snapshots k' id' s' hs'

omit [DecidableEq κ] [DecidableEq η] in
/-- A snapshot may be offered of a root that stands on its history. -/
theorem offered {cached : Bool} (hsnapshots : cached = true → Snapshottable subjects)
    (h : w.Standing codec history t) {k : κ} {root : Root (subjects k)}
    (hroot : root.Stands codec (history (subjects k).kind root.id))
    (hpending : root.pending = []) (current count : Nat) :
    w.Standing codec history (Repository.offered (caching cached) root current count t) := by
  unfold Repository.offered
  cases cached with
  | false => exact h
  | true =>
  cases hstate : root.state with
  | none => exact h
  | some state =>
    show w.Standing codec history (t.offer (subjects k).form (subjects k).kind root.id current count
      (.ok ⟨root.version, state⟩)).2
    rcases SnapshotMemory.offer_memory (subjects k).form (subjects k).kind root.id current count
      ⟨root.version, state⟩ t with hsame | ⟨data, hwrite, hput⟩
    · rw [hsame]
      exact h
    · rw [hput]
      exact h.put (hsnapshots rfl).kinds k (hroot.snapshot hpending hstate hwrite)

/-- A save that is accepted makes the history of its aggregate grow, and all stand on it: the root
that was saved, and the snapshot that may be kept of it. -/
theorem saved {cached : Bool} (hsnapshots : cached = true → Snapshottable subjects) {k : κ}
    (hevents : (subjects k).events.RoundTrips codec) (h : w.Standing codec history t)
    (handle : η) {root root' : Root (subjects k)}
    (hroot : root.Held codec (history (subjects k).kind root.id)) {expected : Option Nat}
    {committed : List (Envelope Id (subjects k).Event)} {m : Memory Id}
    (hcommitted : Repository.Committed codec root expected w.store (.ok (committed, root'), m)) :
    ∃ history', ((w.withStore m).hold k handle root').Standing codec history'
      (Repository.offered (caching cached) root' root.version committed.length t) := by
  cases hcommitted with
  | accepted committed batch version m hprepared hsave =>
    let grown (kind : String) (id : Id) : List (StoredEvent Id) :=
      history kind id ++ (w.store.committed kind id (.save (subjects k).kind
        (root.recordAt (plus root.version committed.length)) root.version batch)).flatMap Prod.snd
    -- Only the history of this aggregate grows, but that need not be known of the others.
    have hkeeps (kind : String) (id : Id) : m.Keeps kind id (grown kind id) := by
      have hkeeps := ((h.keeps kind id).save (subjects k).kind
        (root.recordAt (plus root.version committed.length)) root.version batch).1
      rw [hsave] at hkeeps
      exact hkeeps
    have hgrown := h.grow hkeeps fun kind id => List.prefix_append _ _
    have hkept : w.store.Keeps (subjects k).kind
        (root.recordAt (plus root.version committed.length)).aggregate
        (history (subjects k).kind root.id) := h.keeps _ _
    have hbatch : grown (subjects k).kind root.id = history (subjects k).kind root.id ++
        batch.map (NewEvent.stored (subjects k).kind root.id) := by
      have hlog := Memory.committed_save_ok hsave
      show _ ++ (w.store.committed (subjects k).kind
        (root.recordAt (plus root.version committed.length)).aggregate _).flatMap Prod.snd = _
      rw [hlog, List.flatMap_cons, List.flatMap_nil, List.append_nil]
      rfl
    have hsaved : (root.complete committed).Stands codec (grown (subjects k).kind root.id) := by
      rw [hbatch]
      exact hroot.stands.complete hevents (hkept.save_ok hsave).1 hprepared _ _
    have hheld : ((w.withStore m).hold k handle (root.complete committed)).Standing codec grown t :=
      hgrown.hold k handle ⟨hroot.identified, hsaved⟩
    exact ⟨grown, hheld.offered hsnapshots hsaved rfl root.version committed.length⟩

end Standing

/-! ### Requests -/

/-- Behind a request the office with snapshots is that without, and all stands. -/
def Alike (codec : Codec) (cached : Bool) (request : Request κ η subjects) (w : Office κ η subjects)
    (t : SnapshotMemory Id) : Prop :=
  ∃ reply w' t' history',
    step codec (none : Option (SnapshotBackend Unit Id)) request (w, ()) = (reply, w', ()) ∧
      step codec (caching cached) request (w, t) = (reply, w', t') ∧
      w'.Standing codec history' t'

section Requests

variable {cached : Bool} {request : Request κ η subjects}

/-- A request that is served without the snapshot store. -/
theorem Alike.of_plain (reply : Reply subjects) {w' : Office κ η subjects}
    (hstanding : w'.Standing codec history t)
    (hstep : ∀ (τ : Type) (snapshots : Option (SnapshotBackend τ Id)) (t : τ),
      step codec snapshots request (w, t) = (reply, w', t)) : Alike codec cached request w t :=
  ⟨reply, w', t, history, hstep Unit none (), hstep _ _ t, hstanding⟩

/-- A request for a root, which comes down to the same root with and without snapshots. -/
theorem Alike.of_receive {ε : Type} (h : w.Standing codec history t) (k : κ) (handle : η)
    (reply : Except ε Unit → Reply subjects) (answer : Except ε (Root (subjects k)))
    (hanswer : ∀ root, answer = .ok root →
      root.Held codec (history (subjects k).kind root.id))
    (hplain : step codec (none : Option (SnapshotBackend Unit Id)) request (w, ()) =
      ((w.receive k handle reply answer).1, (w.receive k handle reply answer).2, ()))
    (hcached : step codec (caching cached) request (w, t) =
      ((w.receive k handle reply answer).1, (w.receive k handle reply answer).2, t)) :
    Alike codec cached request w t :=
  ⟨_, _, t, history, hplain, hcached, h.receive k handle reply answer hanswer⟩

/-- A request that is about a root. -/
theorem Alike.of_root (h : w.Standing codec history t) (k : κ) (handle : η)
    (act : Root (subjects k) → Reply subjects × Office κ η subjects)
    (hstep : ∀ (τ : Type) (snapshots : Option (SnapshotBackend τ Id)) (t : τ),
      step codec snapshots request (w, t) =
        withRoot k handle (w, t) fun root => ((act root).1, (act root).2, t))
    (hact : ∀ root, w.roots k handle = some root →
      (act root).2.Standing codec history t) : Alike codec cached request w t := by
  cases hroot : w.roots k handle with
  | none =>
    refine .of_plain .nothing h fun τ snapshots t => ?_
    rw [hstep]
    simp only [withRoot, hroot]
  | some root =>
    refine .of_plain (act root).1 (hact root hroot) fun τ snapshots t => ?_
    rw [hstep]
    simp only [withRoot, hroot]

/-- A request that comes down to at most one call of the store. -/
theorem Alike.of_call [Identifier.Unmistakable Id] (h : w.Standing codec history t)
    (reply : Reply subjects) {m : Memory Id}
    (hcall : m = w.store ∨ ∃ call, m = w.store.after call)
    (hstep : ∀ (τ : Type) (snapshots : Option (SnapshotBackend τ Id)) (t : τ),
      step codec snapshots request (w, t) = (reply, w.withStore m, t)) :
    Alike codec cached request w t := by
  rcases hcall with rfl | ⟨call, rfl⟩
  · exact .of_plain reply h hstep
  · obtain ⟨history', -, hafter⟩ := h.after call
    exact .of_plain reply hafter hstep

/-- A new aggregate can be held, whatever its history is. -/
theorem held_create {A : Aggregate Id} {id : Id} {root : Root A} {history : List (StoredEvent Id)}
    (h : Repository.create A id = .ok root) : root.Held codec history := by
  obtain ⟨hidentified, rfl⟩ := Root.start_eq_ok.mp h
  exact ⟨hidentified, Root.stands_behind (.nil history) id none⟩

/-- What a root says of its aggregate is as right behind a change as before. -/
theorem held_changed {A : Aggregate Id} {root root' : Root A} {change : Root.Change A}
    {history : String → Id → List (StoredEvent Id)}
    (h : root.Held codec (history A.kind root.id)) (hchanged : root.changed change = .ok root') :
    root'.Held codec (history A.kind root'.id) :=
  Root.changed_induct (P := fun r => r.Held codec (history A.kind r.id)) hchanged
    (fun _ e _ _ hr => ⟨hr.identified, hr.stands.record e⟩)
    (fun _ _ _ _ hr => ⟨hr.identified, hr.stands.of_eq rfl rfl rfl⟩) h

omit [DecidableEq κ] [DecidableEq η] in
/-- What a snapshot store gives does not change what is loaded. -/
theorem Standing.loaded (h : w.Standing codec history t) {k : κ}
    (hform : cached = true → (subjects k).form.RoundTrips) (id : Id) :
    w.store.loaded codec (subjects k) id (usable cached (subjects k) id t) =
      w.store.loaded codec (subjects k) id fun _ => none := by
  refine Memory.loaded_eq_loaded (h.keeps (subjects k).kind id) _ fun version s hs => ?_
  cases cached with
  | false => cases hs
  | true =>
    rw [usable, SnapshotMemory.load] at hs
    cases hfound : t.find? (subjects k).kind id with
    | none =>
      rw [hfound] at hs
      cases hs
    | some kept =>
      obtain ⟨payloads, hbegins, hne, hversion, hwrite⟩ := h.snapshots k id kept hfound
      have hread := hform rfl _ _ hwrite
      simp only [hfound, hread, Memory.usable] at hs
      split at hs
      · cases hs
        exact ⟨payloads, hbegins, hne, hversion, rfl⟩
      · cases hs

theorem Standing.alike_load (h : w.Standing codec history t) {k : κ}
    (hform : cached = true → (subjects k).form.RoundTrips) (handle : η) (id : Id) :
    Alike codec cached (.load k handle id) w t := by
  have hplain : (Repository.onMemory codec (none : Option (SnapshotBackend Unit Id))).load
      (subjects k) id (w.store, ()) =
      (w.store.loaded codec (subjects k) id (fun _ => none), (w.store, ())) :=
    Repository.load_memory codec none (subjects k) w.store () id (fun _ => none) fun _ => rfl
  have hcached := load_caching codec cached (subjects k) w.store t id
  rw [h.loaded hform] at hcached
  refine .of_receive h k handle .load (w.store.loaded codec (subjects k) id fun _ => none)
    (fun root hroot => ?_) ?_ ?_
  · obtain ⟨hid, hheld⟩ := Memory.held_loaded (h.keeps _ _) hroot
    rw [hid]
    exact hheld
  · simp only [Office.step, hplain]
    rfl
  · simp only [Office.step, hcached]
    rfl

theorem Standing.alike_loadAt (h : w.Standing codec history t) (k : κ) (handle : η) (id : Id)
    (version : Nat) : Alike codec cached (.loadAt k handle id version) w t := by
  -- Snapshots are of no use here: an earlier version is replayed from the first event on.
  have hstep (τ : Type) (snapshots : Option (SnapshotBackend τ Id)) (t : τ) :
      Office.step codec snapshots (.loadAt k handle id version) (w, t) =
        ((w.receive k handle .load (w.store.loadedAt codec (subjects k) id version)).1,
          (w.receive k handle .load (w.store.loadedAt codec (subjects k) id version)).2, t) := by
    simp only [Office.step, Repository.loadAt_memory]
    rfl
  refine .of_receive h k handle .load (w.store.loadedAt codec (subjects k) id version)
    (fun root hroot => ?_) (hstep Unit none ()) (hstep _ _ t)
  obtain ⟨hid, hheld⟩ := Memory.held_loadedAt (h.keeps _ _) hroot
  rw [hid]
  exact hheld

/-- Saving answers and commits the same with and without snapshots; only the offer behind it
differs. -/
theorem Standing.alike_save (hsnapshots : cached = true → Snapshottable subjects) {k : κ}
    (hevents : (subjects k).events.RoundTrips codec) (h : w.Standing codec history t) (handle : η)
    (expected : Option Nat) : Alike codec cached (.save k handle expected) w t := by
  cases hroot : w.roots k handle with
  | none =>
    refine .of_plain .nothing h fun τ snapshots t => ?_
    simp only [Office.step, withRoot, hroot]
  | some root =>
    obtain ⟨⟨answer, m⟩, hcommitted, hsave⟩ :=
      Repository.committed_save codec w.store root expected
    cases answer with
    | error e =>
      obtain rfl : w.store = m := by
        cases hcommitted with
        | unprepared | refused => rfl
      refine .of_plain (.save k (.error e)) h fun τ snapshots t => ?_
      simp only [step_save, withRoot, hroot, hsave]
      rfl
    | ok saved =>
      obtain ⟨committed, root'⟩ := saved
      obtain ⟨history', hstanding⟩ := h.saved hsnapshots hevents handle
        (h.roots k handle root hroot) hcommitted
      refine ⟨.save k (.ok committed), (w.withStore m).hold k handle root', _, history', ?_, ?_,
        hstanding⟩
      · simp only [step_save, withRoot, hroot, hsave]
      · simp only [step_save, withRoot, hroot, hsave]

/-- **With and without snapshots, a request does the same.** -/
theorem Standing.step [Identifier.Unmistakable Id]
    (hsnapshots : cached = true → Snapshottable subjects)
    (hevents : ∀ k, (subjects k).events.RoundTrips codec) (h : w.Standing codec history t)
    (request : Request κ η subjects) : Alike codec cached request w t := by
  cases request with
  | create k handle id =>
    exact .of_receive h k handle .create (Repository.create (subjects k) id)
      (fun root hroot => held_create hroot) rfl rfl
  | load k handle id => exact h.alike_load (fun hcached => (hsnapshots hcached).forms k) handle id
  | loadAt k handle id version => exact h.alike_loadAt k handle id version
  | events k id upTo =>
    refine .of_plain (.events k (do let _ ← w.store.recordOf (subjects k) id
                                    w.store.decoded codec (subjects k) id ⟨none, upTo⟩)) h
      fun τ snapshots t => ?_
    simp only [Office.step, Repository.events_memory]
    rfl
  | change k handle change =>
    refine .of_root h k handle (fun root => w.receive k handle (.change k) (root.changed change))
      (fun τ snapshots t => step_change codec snapshots k handle change w t) fun root hroot => ?_
    exact h.receive k handle (.change k) _ fun root' hroot' =>
      held_changed (h.roots k handle root hroot) hroot'
  | record k handle e =>
    refine .of_root h k handle (fun root => (.done, w.hold k handle (root.record e)))
      (fun τ snapshots t => rfl) fun root hroot => ?_
    obtain ⟨hidentified, hstands⟩ := h.roots k handle root hroot
    exact h.hold k handle ⟨hidentified, hstands.record e⟩
  | tenant k handle tenant =>
    refine .of_root h k handle (fun root => (.done, w.hold k handle { root with tenant := tenant }))
      (fun τ snapshots t => rfl) fun root hroot => ?_
    obtain ⟨hidentified, hstands⟩ := h.roots k handle root hroot
    exact h.hold k handle ⟨hidentified, hstands.of_eq rfl rfl rfl⟩
  | originator k handle originator =>
    refine .of_root h k handle
      (fun root => (.done, w.hold k handle { root with originator := originator }))
      (fun τ snapshots t => rfl) fun root hroot => ?_
    obtain ⟨hidentified, hstands⟩ := h.roots k handle root hroot
    exact h.hold k handle ⟨hidentified, hstands.of_eq rfl rfl rfl⟩
  | save k handle expected => exact h.alike_save hsnapshots (hevents k) handle expected
  | call call =>
    refine .of_call h (answerCall w.store call).1 (.inr ⟨call, rfl⟩) fun τ snapshots t => ?_
    cases call with
    | save | box | unbox => rfl
  | seed k ids now id events =>
    obtain ⟨answer, m, hcall, hseed⟩ :=
      Seeding.exists_seed codec w.store (subjects k) ids now id events
    refine .of_call h (.seed answer) hcall fun τ snapshots t => ?_
    simp only [Office.step, hseed]
  | seedRaw kind eventId now id eventKind data =>
    obtain ⟨answer, m, hcall, hseed⟩ :=
      Seeding.exists_seedRaw codec w.store kind eventId now id eventKind data
    refine .of_call h (.seedRaw answer) hcall fun τ snapshots t => ?_
    simp only [Office.step, hseed]

/-- All stands behind any requests, as long as it did in front of them. -/
theorem Standing.run [Identifier.Unmistakable Id]
    (hsnapshots : cached = true → Snapshottable subjects)
    (hevents : ∀ k, (subjects k).events.RoundTrips codec) (h : w.Standing codec history t)
    (requests : List (Request κ η subjects)) :
    ∃ history', (Office.run codec (caching cached) (w, t) requests).1.Standing codec history'
      (Office.run codec (caching cached) (w, t) requests).2 := by
  induction requests generalizing w t history with
  | nil => exact ⟨history, h⟩
  | cons request rest ih =>
    obtain ⟨reply, w', t', history', -, hstep, hstanding⟩ :=
      h.step hsnapshots hevents request
    rw [Office.run, List.foldl_cons, hstep]
    exact ih hstanding

end Requests

/-- With and without snapshots, what is to be seen of an office at work is the same, wherever it
starts from as long as all stands. -/
theorem Standing.trace [Identifier.Unmistakable Id]
    (hkinds : Function.Injective fun k => (subjects k).kind)
    (hevents : ∀ k, (subjects k).events.RoundTrips codec)
    (hforms : ∀ k, (subjects k).form.RoundTrips) (h : w.Standing codec history t)
    (requests : List (Request κ η subjects)) :
    Office.trace codec (none : Option (SnapshotBackend Unit Id)) (w, ()) requests =
      Office.trace codec (some (SnapshotMemory.backend Id)) (w, t) requests := by
  -- Both runs go on from one office; only the snapshots that one of them has kept differ.
  induction requests generalizing w t history with
  | nil => rfl
  | cons request rest ih =>
    obtain ⟨reply, w', t', history', hplain, hcached, hstanding⟩ :
        Alike codec true request w t := h.step (fun _ => ⟨hkinds, hforms⟩) hevents request
    rw [caching] at hcached
    rw [Office.trace, hplain, Office.trace, hcached]
    exact congrArg _ (ih hstanding)

/-- **Snapshots change nothing that can be seen.**  Under any policy and whatever any number of
clients ask for, the replies, the store and the roots that are held are the same with snapshots and
without, step by step; provided that the kind of an aggregate tells its type, and that events and
states are read back as they were. -/
theorem trace_snapshots [Identifier.Unmistakable Id] (subjects : κ → Aggregate Id)
    (hkinds : Function.Injective fun k => (subjects k).kind) (codec : Codec)
    (hevents : ∀ k, (subjects k).events.RoundTrips codec)
    (hforms : ∀ k, (subjects k).form.RoundTrips) (policy : SnapshotPolicy)
    (requests : List (Request κ η subjects)) :
    trace codec (none : Option (SnapshotBackend Unit Id)) (empty subjects, ()) requests =
      trace codec (some (SnapshotMemory.backend Id))
        (empty subjects, SnapshotMemory.empty policy) requests :=
  (standing_empty codec subjects policy).trace hkinds hevents hforms requests

/-- Two clients work on a counter; a snapshot is taken after every save of events. -/
theorem trace_snapshots_counter :
    let reset : Request Unit Bool fun _ => Sample.counter :=
      .change () true (.apply ⟨.nil, .epoch⟩ .reset)
    let requests := [.create () true "c", reset, .save () true none, .load () false "c",
      reset, .save () true none, .save () false none, .load () false "c"]
    Function.Injective (fun _ : Unit => Sample.counter.kind) ∧
    Sample.counter.events.RoundTrips .json ∧ Sample.counter.form.RoundTrips ∧
    trace .json (none : Option (SnapshotBackend Unit String)) (empty _, ()) requests =
      trace .json (some (SnapshotMemory.backend String)) (empty _, SnapshotMemory.empty .always)
        requests := by
  intro reset requests
  have hkinds : Function.Injective (fun _ : Unit => Sample.counter.kind) := fun _ _ _ => rfl
  refine ⟨hkinds, Sample.CounterEvent.roundTrips, Sample.roundTrips_counter, ?_⟩
  exact trace_snapshots _ hkinds .json (fun _ => Sample.CounterEvent.roundTrips)
    (fun _ => Sample.roundTrips_counter) .always requests

end Office

end EventSourcing
