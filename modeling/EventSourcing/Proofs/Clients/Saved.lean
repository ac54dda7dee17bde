import EventSourcing.Proofs.Clients.Snapshots
import EventSourcing.Proofs.Repository.Saved

/-!
# Saving and loading again

Whatever clients have done before: if a root is saved and loaded again, it comes back as it is, and
the history has the committed events behind the earlier ones.  No root comes back if the saved one
has a tenant though its kind has none, or has none though its kind asks for one; the events are
there all the same.

## Main Statements

* `Office.exists_of_step_save` — a save that is accepted is one of a root that is held.
* `Office.load_after_save` — saving and loading again.
-/

namespace EventSourcing.Office

attribute [local instance] Counting.exact

variable {κ η Id : Type} [DecidableEq κ] [DecidableEq η] [Identifier Id]
  {subjects : κ → Aggregate Id}

/-- A save that is accepted is one of a root that is held, which is held again as it was saved. -/
theorem exists_of_step_save {τ : Type} {codec : Codec} {snapshots : Option (SnapshotBackend τ Id)}
    {s s' : Office κ η subjects × τ} {k : κ} {handle : η} {expected : Option Nat}
    {committed : List (Envelope Id (subjects k).Event)}
    (h : step codec snapshots (.save k handle expected) s = (.save k (.ok committed), s')) :
    ∃ root saved, s.1.roots k handle = some root ∧ s'.1.roots k handle = some saved ∧
      Repository.Committed codec root expected s.1.store (.ok (committed, saved), s'.1.store) := by
  obtain ⟨w, t⟩ := s
  rw [step_save] at h
  cases hroot : w.roots k handle with
  | none =>
    simp only [withRoot, hroot] at h
    cases h
  | some root =>
    obtain ⟨⟨answer, m⟩, hcommitted, hsave⟩ :=
      Repository.committed_save codec w.store root expected
    simp only [withRoot, hroot, hsave] at h
    cases answer with
    | error e => cases h
    | ok answer =>
      obtain ⟨committed', saved⟩ := answer
      cases h
      exact ⟨root, saved, rfl, roots_hold_self k handle saved _, hcommitted⟩

/-- **A root that has been saved is loaded as it is.**  Whatever has been asked for before, with
snapshots or without: if a save is accepted and the root is behind at least one event then, loading
gives the saved root with nothing pending, provided that it has a tenant exactly if its kind asks
for one, and is refused otherwise; and the events are the earlier ones and then those that the save
has answered. -/
theorem load_after_save [Identifier.Unmistakable Id] (subjects : κ → Aggregate Id) (codec : Codec)
    (hevents : ∀ k, (subjects k).events.RoundTrips codec) (cached : Bool)
    (hsnapshots : cached = true → Snapshottable subjects) (policy : SnapshotPolicy)
    (requests : List (Request κ η subjects)) (k : κ) (handle : η) (expected : Option Nat)
    (s s' : Office κ η subjects × SnapshotMemory Id)
    (committed : List (Envelope Id (subjects k).Event)) (saved : Root (subjects k))
    (hreached : run codec (caching cached) (empty subjects, .empty policy) requests = s)
    (hsave : step codec (caching cached) (.save k handle expected) s =
      (.save k (.ok committed), s'))
    (hsaved : s'.1.roots k handle = some saved) (hversion : 1 ≤ saved.version) :
    let R := Repository.onMemory codec (caching cached)
    let loaded := (R.load (subjects k) saved.id (s'.1.store, s'.2)).1
    let before := (R.events (subjects k) saved.id none (s.1.store, s.2)).1
    let after := (R.events (subjects k) saved.id none (s'.1.store, s'.2)).1
    (saved.tenant.isSome = (subjects k).tenantScoped →
      loaded = .ok { saved with pending := [], originator := .unknown }) ∧
    (saved.tenant.isSome ≠ (subjects k).tenantScoped → loaded =
      .error (.construction (.missingConstructor (subjects k).kind ⟨true, saved.tenant.isSome⟩))) ∧
    ∃ earlier,
      (before = .ok earlier ∨
        before = .error (.notFound (subjects k).kind saved.id) ∧ earlier = []) ∧
      after = .ok (earlier ++ committed) := by
  intro R loaded before after
  obtain ⟨history, hstanding⟩ :=
    (standing_empty codec subjects policy).run hsnapshots hevents requests
  rw [hreached] at hstanding
  obtain ⟨root, saved', hroot, hsaved', hcommitted⟩ := exists_of_step_save hsave
  cases hsaved.symm.trans hsaved'
  have hheld := hstanding.roots k handle root hroot
  have hkeeps := hstanding.keeps (subjects k).kind root.id
  -- All stands behind the save as well, so that loading is not led astray by a snapshot.
  have hloaded : loaded = s'.1.store.loaded codec (subjects k) saved.id fun _ => none := by
    obtain ⟨reply, w', t', history', -, hstep, hstanding'⟩ :=
      hstanding.step hsnapshots hevents (.save k handle expected)
    rw [hsave] at hstep
    cases hstep
    rw [← hstanding'.loaded (fun hcached => (hsnapshots hcached).forms k) saved.id]
    exact congrArg Prod.fst (load_caching codec cached (subjects k) _ _ saved.id)
  rw [hloaded, hcommitted.reload (hevents k) hkeeps hheld hversion]
  refine ⟨fun htenant => if_pos htenant, fun htenant => if_neg htenant, ?_⟩
  obtain ⟨earlier, hbefore, hafter⟩ := hcommitted.events (hevents k) hkeeps hheld hversion
  refine ⟨earlier, ?_, ?_⟩
  · show (R.events _ _ _ _).1 = _ ∨ (R.events _ _ _ _).1 = _ ∧ _
    rw [Repository.events_memory]
    rcases hbefore with hbefore | ⟨hnothing, hearlier⟩
    · exact .inl hbefore
    · exact .inr ⟨by rw [hnothing]; rfl, hearlier⟩
  · show (R.events _ _ _ _).1 = _
    rw [Repository.events_memory]
    exact hafter

/-- A counter is reset by a client that has loaded it, and marked as deleted. -/
theorem load_after_save_counter :
    let reset : Request Unit Unit fun _ => Sample.counter :=
      .change () () (.apply ⟨.nil, .epoch⟩ .reset)
    let requests := [.create () () "c", reset, .save () () none, .load () () "c", reset,
      .change () () (.markDeleted .epoch)]
    let R := Repository.onMemory .json (caching true)
    let s := run .json (caching true) (empty _, SnapshotMemory.empty .always) requests
    let s' := (step .json (caching true) (.save () () none) s).2
    let saved : Root Sample.counter :=
      ⟨"c", 2, none, some ⟨0, 2⟩, [], true, some .epoch, .unknown⟩
    let second : Envelope String Sample.counter.Event :=
      ⟨.nil, "c", some 2, Sample.CounterEvent.reset, .epoch, .unknown⟩
    s'.1.roots () () = some saved ∧
      (R.load Sample.counter "c" (s'.1.store, s'.2)).1 = .ok saved ∧
      ∃ earlier, (R.events Sample.counter "c" none (s'.1.store, s'.2)).1 =
        .ok (earlier ++ [second]) := by
  intro reset requests R s s' saved second
  have hsaved : s'.1.roots () () = some saved := rfl
  have hanswer : step .json (caching true) (.save () () none) s = (.save () (.ok [second]), s') :=
    rfl
  have hsnapshots : Snapshottable fun _ : Unit => Sample.counter :=
    ⟨fun _ _ _ => rfl, fun _ => Sample.roundTrips_counter⟩
  obtain ⟨hloaded, -, earlier, -, hafter⟩ := load_after_save _ .json
    (fun _ => Sample.CounterEvent.roundTrips) true (fun _ => hsnapshots) .always requests () () none
    s s' [second] saved rfl hanswer hsaved (by decide)
  exact ⟨hsaved, hloaded rfl, earlier, hafter⟩

end EventSourcing.Office
