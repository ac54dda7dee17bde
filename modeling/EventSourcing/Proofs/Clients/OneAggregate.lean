import EventSourcing.Proofs.Clients.Changes
import EventSourcing.Proofs.Repository.Load
import EventSourcing.Proofs.Sample.Counter
import Mathlib.Logic.Function.Basic

/-!
# Clients of one aggregate

Any number of clients work on one aggregate: each loads it, changes its root and saves it, and their
steps interleave at will.

A save is refused if another client has committed an event since the root was loaded.  The version
of an aggregate counts its events only, so a save without events, such as that of a mark of
deletion, goes unnoticed by the other clients: whoever saves next writes the mark of its own root.

## Main Definitions

* `Clients.Move`, `Clients.Outcome`, `Clients.step`, `Clients.run` — clients at work.
* `Clients.Stepped` — what a step can do.
* `Clients.Sound` — what holds of clients at work at any time.

## Main Statements

* `Clients.Sound.run` — what the clients commit is put behind the history.
* `Clients.save_unnoticed_or_refused` — what a client that saves knows of the others.
* `Clients.mark_of_deletion_overwritten` — what it does not know.
-/

namespace EventSourcing

attribute [local instance] Counting.exact

variable {ι τ Id : Type} [DecidableEq ι] [Identifier Id]

/-- A loaded root is one of its aggregate. -/
theorem Memory.own_loaded {A : Aggregate Id} {codec : Codec} {id : Id} {m : Memory Id}
    {snapshot : Nat → Option (Snapshot A.State)} {root : Root A} {record : Record Id}
    (hloaded : m.loaded codec A id snapshot = .ok root) (hrecord : m.recordOf A id = .ok record)
    (haggregate : record.aggregate = id) :
    root.Own id record.tenant ∧ root.version = record.version := by
  obtain ⟨record', hrecord', hid, hnonempty, hversion, htenant, hpending⟩ := loaded_eq_ok hloaded
  rw [hrecord] at hrecord'
  cases hrecord'
  rw [haggregate] at hid hnonempty
  refine ⟨⟨hid, hnonempty, htenant, fun e he => ?_⟩, hversion⟩
  rw [hpending] at he
  cases he

/-! ### Clients at work -/

/-- A store, a snapshot store and the roots that clients hold of one aggregate. -/
structure Clients (ι τ : Type) {Id : Type} (A : Aggregate Id) where
  store : Memory Id
  snapshots : τ
  roots : ι → Option (Root A)

namespace Clients

/-- What a client does next. -/
inductive Move {Id : Type} (A : Aggregate Id) where
  | load
  | change (change : Root.Change A)
  | save (expected : Option Nat)

/-- What becomes of it. -/
inductive Outcome {Id : Type} (A : Aggregate Id) where
  | load (answer : Except (LoadError Id) Unit)
  | change (answer : Except A.Error Unit)
  | save (answer : Except (SaveError Id) (List (Envelope Id A.Event)))
  /-- The client holds no root. -/
  | nothing

/-- What a client has committed. -/
def Outcome.committed {Id : Type} {A : Aggregate Id} : Outcome A → List (Envelope Id A.Event)
  | .save (.ok committed) => committed
  | _ => []

section Model

variable {A : Aggregate Id}

/-- The clients at their start, when none of them holds a root. -/
def start (ι : Type) (A : Aggregate Id) (store : Memory Id) (snapshots : τ) : Clients ι τ A :=
  ⟨store, snapshots, fun _ => none⟩

variable (codec : Codec) (backend : Option (SnapshotBackend τ Id)) (id : Id)

/-- One step of a client. -/
def step (w : Clients ι τ A) (client : ι) : Move A → Outcome A × Clients ι τ A
  | .load =>
    match (Repository.onMemory codec backend).load A id (w.store, w.snapshots) with
    | (.error e, (m, t)) => (.load (.error e), ⟨m, t, w.roots⟩)
    | (.ok root, (m, t)) => (.load (.ok ()), ⟨m, t, Function.update w.roots client (some root)⟩)
  | .change change =>
    match w.roots client with
    | none => (.nothing, w)
    | some root =>
      let (answer, root) := Root.InPlace.change change root
      (.change answer, { w with roots := Function.update w.roots client (some root) })
  | .save expected =>
    match w.roots client with
    | none => (.nothing, w)
    | some root =>
      let (answer, root, m, t) :=
        (Repository.onMemory codec backend).saveInPlace expected (root, w.store, w.snapshots)
      (.save answer, ⟨m, t, Function.update w.roots client (some root)⟩)

/-- The steps of all clients, in the order in which they happen: their outcomes, and the clients
behind them. -/
def run (w : Clients ι τ A) : List (ι × Move A) → List (Outcome A) × Clients ι τ A
  | [] => ([], w)
  | (client, move) :: rest =>
    let (outcome, w) := w.step codec backend id client move
    let (outcomes, w) := w.run rest
    (outcome :: outcomes, w)

/-! ### What a step can do -/

/-- What a step of a client can do. -/
inductive Stepped (w : Clients ι τ A) (client : ι) : Move A → Outcome A × Clients ι τ A → Prop where
  | nothing (move : Move A) (hroot : w.roots client = none) :
      Stepped w client move (.nothing, w)
  | notLoaded (e : LoadError Id) (t : τ) :
      Stepped w client .load (.load (.error e), { w with snapshots := t })
  | loaded (snapshot : Nat → Option (Snapshot A.State)) (root : Root A) (t : τ)
      (hloaded : w.store.loaded codec A id snapshot = .ok root) :
      Stepped w client .load
        (.load (.ok ()), ⟨w.store, t, Function.update w.roots client (some root)⟩)
  | notChanged (change : Root.Change A) (e : A.Error) :
      Stepped w client (.change change) (.change (.error e), w)
  | changed (change : Root.Change A) (root root' : Root A) (hroot : w.roots client = some root)
      (hchanged : root.changed change = .ok root') :
      Stepped w client (.change change)
        (.change (.ok ()), { w with roots := Function.update w.roots client (some root') })
  | notSaved (expected : Option Nat) (root : Root A) (hroot : w.roots client = some root)
      (e : SaveError Id) (m : Memory Id) (t : τ)
      (hcommitted : Repository.Committed codec root expected w.store (.error e, m)) :
      Stepped w client (.save expected) (.save (.error e), ⟨m, t, w.roots⟩)
  | saved (expected : Option Nat) (root : Root A) (hroot : w.roots client = some root)
      (committed : List (Envelope Id A.Event)) (root' : Root A) (m : Memory Id) (t : τ)
      (hcommitted : Repository.Committed codec root expected w.store (.ok (committed, root'), m)) :
      Stepped w client (.save expected)
        (.save (.ok committed), ⟨m, t, Function.update w.roots client (some root')⟩)

omit [Identifier Id] in
/-- A client may be given the root that it holds. -/
theorem update_roots (w : Clients ι τ A) {client : ι} {root : Root A}
    (hroot : w.roots client = some root) :
    Function.update w.roots client (some root) = w.roots := by
  rw [← hroot, Function.update_eq_self]

/-- A step does what it can. -/
theorem stepped_step (w : Clients ι τ A) (client : ι) (move : Move A) :
    w.Stepped codec id client move (w.step codec backend id client move) := by
  cases move with
  | load =>
    obtain ⟨snapshot, t, -, hload⟩ :=
      Repository.exists_load_memory codec backend A w.store w.snapshots id
    rw [step, hload]
    cases hloaded : w.store.loaded codec A id snapshot with
    | error e => exact .notLoaded e t
    | ok root => exact .loaded snapshot root t hloaded
  | change change =>
    rw [step]
    split
    · exact .nothing _ (by assumption)
    · rename_i root hroot
      have hsame := w.update_roots hroot
      rw [Root.InPlace.run_change]
      cases hchanged : root.changed change with
      | error e =>
        simp only [hsame]
        exact .notChanged change e
      | ok root' => exact .changed change root root' hroot hchanged
  | save expected =>
    rw [step]
    split
    · exact .nothing _ (by assumption)
    · rename_i root hroot
      obtain ⟨⟨answer, m⟩, hcommitted, hsave⟩ :=
        Repository.committed_save codec w.store root expected
      have hsame := w.update_roots hroot
      rw [Repository.saveInPlace_eq, hsave τ backend w.snapshots]
      cases answer with
      | error e =>
        simp only [hsame]
        exact .notSaved expected root hroot e m _ hcommitted
      | ok saved => exact .saved expected root hroot saved.1 saved.2 m _ hcommitted

end Model

/-! ### What holds at any time -/

variable {A : Aggregate Id} {codec : Codec} {backend : Option (SnapshotBackend τ Id)} {id : Id}
  {history : List (StoredEvent Id)} {tenant : Option String} {w : Clients ι τ A}

/-- The store keeps a history of the aggregate, its record is that of a tenant, and the clients hold
roots of it. -/
structure Sound (id : Id) (history : List (StoredEvent Id)) (tenant : Option String)
    (w : Clients ι τ A) : Prop where
  keeps : w.store.Keeps A.kind id history
  stored : ∀ record, w.store.recordOf A id = .ok record → record.tenant = tenant
  held : ∀ client root, w.roots client = some root → root.Own id tenant

/-- Clients that hold no roots yet work on the history that the store keeps. -/
theorem sound_start (ι : Type) {store : Memory Id} (snapshots : τ)
    (h : store.Keeps A.kind id history) :
    ∃ tenant, (start ι A store snapshots).Sound id history tenant := by
  have hheld (tenant : Option String) (client : ι) (root : Root A)
      (hroot : (start ι A store snapshots).roots client = some root) : root.Own id tenant := by
    cases hroot
  cases hrecord : store.recordOf A id with
  | error e =>
    refine ⟨none, h, fun record hok => ?_, hheld none⟩
    have hok : store.recordOf A id = .ok record := hok
    rw [hrecord] at hok
    cases hok
  | ok record =>
    refine ⟨record.tenant, h, fun record' hok => ?_, hheld record.tenant⟩
    have hok : store.recordOf A id = .ok record' := hok
    rw [hrecord] at hok
    cases hok
    rfl

omit [DecidableEq ι] in
/-- The record of a live aggregate belongs to it and is at the end of its history. -/
theorem Sound.record (h : w.Sound id history tenant) {record : Record Id}
    (hrecord : w.store.recordOf A id = .ok record) :
    record.aggregate = id ∧ record.version = history.length := by
  obtain ⟨stream, hslot, rfl⟩ := Memory.recordOf_eq_ok.mp hrecord
  obtain ⟨rfl, hstream⟩ := h.keeps.of_live hslot
  exact ⟨hstream.aggregate, hstream.version⟩

/-- A root of the aggregate in the place of that of a client. -/
theorem Sound.hold (h : w.Sound id history tenant) (client : ι) {root : Root A}
    (hroot : root.Own id tenant) (other : ι) (root' : Root A)
    (hheld : Function.update w.roots client (some root) other = some root') :
    root'.Own id tenant := by
  by_cases hother : other = client
  · subst hother
    rw [Function.update_self] at hheld
    cases hheld
    exact hroot
  · rw [Function.update_of_ne hother] at hheld
    exact h.held other root' hheld

/-- A save that is accepted puts its batch behind the history; the record is that of the root. -/
theorem Sound.saved (h : w.Sound id history tenant) (client : ι) {root root' : Root A}
    (hown : root.Own id tenant) {expected : Option Nat} {committed : List (Envelope Id A.Event)}
    {m : Memory Id} (t : τ)
    (hcommitted : Repository.Committed codec root expected w.store (.ok (committed, root'), m)) :
    ∃ batch, Sound id (history ++ batch) tenant
        ⟨m, t, Function.update w.roots client (some root')⟩ ∧ batch.length = committed.length := by
  cases hcommitted with
  | accepted committed batch version m hprepared hsave =>
    have haggregate := hown.aggregate_recordAt (plus root.version committed.length)
    have hkeeps := h.keeps
    rw [← haggregate] at hkeeps
    obtain ⟨-, hkeeps⟩ := hkeeps.save_ok hsave
    rw [haggregate] at hkeeps
    refine ⟨_, ⟨hkeeps, fun record hrecord => ?_, h.hold client (hown.complete committed)⟩, ?_⟩
    · have hrecord : m.recordOf A id = .ok record := hrecord
      -- An empty save of an aggregate that does not exist is accepted, and puts no record in place.
      rcases Memory.recordOf_save_ok hsave with hrecord' | ⟨rfl, -⟩
      · rw [haggregate, hrecord] at hrecord'
        cases hrecord'
        exact hown.tenant
      · exact h.stored record hrecord
    · rw [List.length_map, length_encodedFrom (Root.prepared_eq_ok hprepared).2]

variable (codec backend) in
/-- A step puts what it commits behind the history. -/
theorem Sound.step (h : w.Sound id history tenant) (client : ι) (move : Move A) :
    ∃ batch, (w.step codec backend id client move).2.Sound id (history ++ batch) tenant ∧
      batch.length = (w.step codec backend id client move).1.committed.length := by
  have hstepped := stepped_step codec backend id w client move
  revert hstepped
  generalize w.step codec backend id client move = result
  intro hstepped
  -- Everything but an accepted save leaves the history as it is.
  have hsame {w' : Clients ι τ A} (h' : w'.Sound id history tenant) :
      ∃ batch, w'.Sound id (history ++ batch) tenant ∧ batch.length = 0 :=
    ⟨[], by rw [List.append_nil]; exact h', rfl⟩
  cases hstepped with
  | nothing | notChanged => exact hsame h
  | notLoaded e t => exact hsame ⟨h.keeps, h.stored, h.held⟩
  | loaded snapshot root t hloaded =>
    obtain ⟨record, hrecord, -⟩ := Memory.loaded_eq_ok hloaded
    obtain ⟨hown, -⟩ := Memory.own_loaded hloaded hrecord (h.record hrecord).1
    rw [h.stored record hrecord] at hown
    exact hsame ⟨h.keeps, h.stored, h.hold client hown⟩
  | changed change root root' hroot hchanged =>
    have hown := (h.held client root hroot).changed hchanged
    exact hsame ⟨h.keeps, h.stored, h.hold client hown⟩
  | notSaved expected root hroot e m t hcommitted =>
    cases hcommitted with
    | unprepared | refused => exact hsame ⟨h.keeps, h.stored, h.held⟩
  | saved expected root hroot committed root' m t hcommitted =>
    exact h.saved client (h.held client root hroot) t hcommitted

variable (codec backend) in
/-- **What the clients commit is put behind the history**, whatever they do in whatever order. -/
theorem Sound.run (h : w.Sound id history tenant) (moves : List (ι × Move A)) :
    ∃ batch, (w.run codec backend id moves).2.Sound id (history ++ batch) tenant ∧
      batch.length = ((w.run codec backend id moves).1.flatMap Outcome.committed).length := by
  induction moves generalizing w history with
  | nil => exact ⟨[], by rw [List.append_nil]; exact h, rfl⟩
  | cons move rest ih =>
    obtain ⟨first, hfirst, hlength⟩ := h.step codec backend move.1 move.2
    obtain ⟨batch, hbatch, hrest⟩ := ih hfirst
    refine ⟨first ++ batch, by rw [← List.append_assoc]; exact hbatch, ?_⟩
    rw [List.length_append, hlength, hrest, Clients.run, List.flatMap_cons, List.length_append]

variable (codec backend) in
/-- Clients that commit no event leave the store as it is, unless a save without events is
accepted. -/
theorem store_run_of_nothing_committed (w : Clients ι τ A) (moves : List (ι × Move A))
    (hnothing : ∀ outcome ∈ (w.run codec backend id moves).1, outcome.committed = []) :
    .save (.ok []) ∈ (w.run codec backend id moves).1 ∨
      (w.run codec backend id moves).2.store = w.store := by
  induction moves generalizing w with
  | nil => exact .inr rfl
  | cons move rest ih =>
    obtain ⟨client, move⟩ := move
    have hstore : (w.step codec backend id client move).1 = .save (.ok []) ∨
        (w.step codec backend id client move).2.store = w.store := by
      have hcommitted : (w.step codec backend id client move).1.committed = [] :=
        hnothing _ List.mem_cons_self
      have hstepped := stepped_step codec backend id w client move
      revert hcommitted hstepped
      generalize w.step codec backend id client move = result
      intro hcommitted hstepped
      cases hstepped with
      | nothing | notLoaded | loaded | notChanged | changed => exact .inr rfl
      | notSaved expected root hroot e m t hrefused =>
        cases hrefused with
        | unprepared | refused => exact .inr rfl
      | saved expected root hroot committed root' m t haccepted =>
        have hcommitted : committed = [] := hcommitted
        exact .inl (by rw [hcommitted])
    rcases hstore with hsaved | hstore
    · exact .inl (List.mem_cons.mpr (.inl hsaved.symm))
    · rcases ih _ fun outcome houtcome => hnothing outcome (List.mem_cons_of_mem _ houtcome) with
        hsaved | hrest
      · exact .inl (List.mem_cons_of_mem _ hsaved)
      · exact .inr (hrest.trans hstore)

/-! ### A client that waits -/

/-- A client holds a root of a version of a live aggregate. -/
structure Waits (id : Id) (client : ι) (version : Nat) (w : Clients ι τ A) : Prop where
  live : ∃ record, w.store.recordOf A id = .ok record
  held : ∃ root, w.roots client = some root ∧ root.version = version

variable (codec backend) in
/-- The others may do what they like while a client only changes its root. -/
theorem Waits.step {client : ι} {version : Nat} (h : w.Waits id client version)
    (hsound : w.Sound id history tenant) {other : ι} {move : Move A}
    (hmove : other = client → ∃ change, move = .change change) :
    (w.step codec backend id other move).2.Waits id client version := by
  have hstepped := stepped_step codec backend id w other move
  revert hstepped
  generalize w.step codec backend id other move = result
  intro hstepped
  obtain ⟨root, hroot, hversion⟩ := h.held
  -- What happens to the root of another client does not matter.
  have hheld (hne : other ≠ client) (root' : Root A) :
      ∃ root, Function.update w.roots other (some root') client = some root ∧
        root.version = version :=
    ⟨root, (Function.update_of_ne (Ne.symm hne) _ _).trans hroot, hversion⟩
  cases hstepped with
  | nothing | notChanged => exact h
  | notLoaded => exact ⟨h.live, h.held⟩
  | loaded snapshot root' t hloaded =>
    refine ⟨h.live, hheld (fun heq => ?_) root'⟩
    obtain ⟨change, hchange⟩ := hmove heq
    cases hchange
  | changed change root₁ root' hroot₁ hchanged =>
    refine ⟨h.live, ?_⟩
    by_cases hother : other = client
    · subst hother
      rw [hroot] at hroot₁
      cases hroot₁
      exact ⟨root', Function.update_self _ _ _, (Root.version_changed hchanged).trans hversion⟩
    · exact hheld hother root'
  | notSaved expected root' hroot' e m t hcommitted =>
    cases hcommitted with
    | unprepared | refused => exact ⟨h.live, h.held⟩
  | saved expected root₁ hroot₁ committed root' m t hcommitted =>
    refine ⟨?_, hheld (fun heq => ?_) root'⟩
    -- An accepted save of the aggregate leaves it alive, with the record of the root.
    · cases hcommitted with
      | accepted committed batch version m hprepared hsave =>
        rcases Memory.recordOf_save_ok hsave with hrecord | ⟨rfl, -⟩
        · rw [(hsound.held other root₁ hroot₁).aggregate_recordAt] at hrecord
          exact ⟨_, hrecord⟩
        · exact h.live
    · obtain ⟨change, hchange⟩ := hmove heq
      cases hchange

variable (codec backend) in
theorem Waits.run {client : ι} {version : Nat} (h : w.Waits id client version)
    (hsound : w.Sound id history tenant) {moves : List (ι × Move A)}
    (hmoves : ∀ move, (client, move) ∈ moves → ∃ change, move = .change change) :
    (w.run codec backend id moves).2.Waits id client version := by
  induction moves generalizing w history with
  | nil => exact h
  | cons move rest ih =>
    obtain ⟨batch, hbatch, -⟩ := hsound.step codec backend move.1 move.2
    refine ih (h.step codec backend hsound fun heq => ?_) hbatch fun move hmove =>
      hmoves move (List.mem_cons_of_mem _ hmove)
    subst heq
    exact hmoves move.2 List.mem_cons_self

/-! ### Saves -/

omit [DecidableEq ι] in
/-- What a client hands to the store for a live aggregate is accepted if no event has been committed
behind the version of its root, and is a conflict otherwise. -/
theorem Sound.save_prepared (h : w.Sound id history tenant) {record : Record Id}
    (hrecord : w.store.recordOf A id = .ok record) {root : Root A} (hroot : root.Own id tenant)
    {expected : Option Nat} {committed : List (Envelope Id A.Event)} {batch : List NewEvent}
    (hprepared : root.prepared codec expected = .ok (committed, batch)) :
    (w.store.save A.kind (root.recordAt (plus root.version committed.length)) root.version
        batch).1 =
      if history.length = root.version then .ok (plus root.version batch.length)
      else .error (.conflict ⟨root.version, history.length⟩) := by
  obtain ⟨stream, hslot, hstream⟩ := Memory.recordOf_eq_ok.mp hrecord
  have hbatch := (Root.prepared_eq_ok hprepared).2
  have hslot : w.store.slot? A.kind
      (root.recordAt (plus root.version committed.length)).aggregate = some (.live stream) := by
    rw [hroot.aggregate_recordAt]
    exact hslot
  rw [Memory.save_of_live hslot (gap?_encodedFrom hbatch)
    (by rw [length_encodedFrom hbatch]; rfl), hstream, (h.record hrecord).2]
  by_cases hversion : history.length = root.version
  · simp only [hversion, if_true]
  · simp only [hversion, if_false]

variable (codec backend) in
/-- A client that saves a root of a live aggregate leaves the store as it is, or nothing has been
committed behind the version of its root. -/
theorem Waits.save {client : ι} {version : Nat} (h : w.Waits id client version)
    (hsound : w.Sound id history tenant) (expected : Option Nat) :
    (∃ root committed, w.roots client = some root ∧ root.version = version ∧
      version = history.length ∧
      (w.step codec backend id client (.save expected)).1 = .save (.ok committed) ∧
      (w.step codec backend id client (.save expected)).2.store.recordOf A id =
        .ok (root.recordAt (plus version committed.length))) ∨
    (∃ e, (w.step codec backend id client (.save expected)).1 = .save (.error e) ∧
      ((∃ conflict, e = .conflict conflict) ∨ ∃ kind reason, e = .codec kind reason) ∧
      (w.step codec backend id client (.save expected)).2.store = w.store) := by
  have hstepped := stepped_step codec backend id w client (.save expected)
  revert hstepped
  generalize w.step codec backend id client (.save expected) = result
  intro hstepped
  obtain ⟨record, hrecord⟩ := h.live
  obtain ⟨root, hroot, hversion⟩ := h.held
  have hown := hsound.held client root hroot
  cases hstepped with
  | nothing _ hnone =>
    rw [hroot] at hnone
    cases hnone
  | notSaved expected root' hroot' e m t hcommitted =>
    rw [hroot] at hroot'
    cases hroot'
    cases hcommitted with
    | unprepared e hprepared => exact .inr ⟨e, rfl, hown.refused hprepared, rfl⟩
    | refused committed batch e hprepared hsave =>
      refine .inr ⟨_, rfl, .inl ?_, rfl⟩
      have hanswer := hsound.save_prepared hrecord hown hprepared
      rw [hsave] at hanswer
      split at hanswer
      · cases hanswer
      · cases hanswer
        exact ⟨_, rfl⟩
  | saved expected root₁ hroot₁ committed root' m t hcommitted =>
    rw [hroot] at hroot₁
    cases hroot₁
    cases hcommitted with
    | accepted committed batch version' m hprepared hsave =>
      refine .inl ⟨root, committed, hroot, hversion, ?_, rfl, ?_⟩
      · have hanswer := hsound.save_prepared hrecord hown hprepared
        rw [hsave] at hanswer
        split at hanswer
        · rename_i hlength
          rw [hlength, hversion]
        · cases hanswer
      · rcases Memory.recordOf_save_ok hsave with hrecord' | ⟨-, hslot⟩
        · rw [hown.aggregate_recordAt, hversion] at hrecord'
          exact hrecord'
        · obtain ⟨stream, hslot', -⟩ := Memory.recordOf_eq_ok.mp hrecord
          rw [hown.aggregate_recordAt, hslot'] at hslot
          cases hslot

variable (codec backend) in
/-- A client that has loaded an aggregate holds a root of the version of its record. -/
theorem Sound.waits_load (h : w.Sound id history tenant) (client : ι)
    (hloaded : (w.step codec backend id client .load).1 = .load (.ok ())) :
    ∃ record, (w.step codec backend id client .load).2.store.recordOf A id = .ok record ∧
      record.tenant = tenant ∧
      (w.step codec backend id client .load).2.Waits id client record.version ∧
      (w.step codec backend id client .load).2.Sound id history tenant := by
  obtain ⟨batch, hsound, hlength⟩ := h.step codec backend client .load
  rw [hloaded] at hlength
  cases List.length_eq_zero_iff.mp hlength
  rw [List.append_nil] at hsound
  have hstepped := stepped_step codec backend id w client .load
  revert hloaded hsound hstepped
  generalize w.step codec backend id client .load = result
  intro hloaded hsound hstepped
  cases hstepped with
  | nothing | notLoaded => cases hloaded
  | loaded snapshot root t hroot =>
    obtain ⟨record, hrecord, -⟩ := Memory.loaded_eq_ok hroot
    obtain ⟨-, hversion⟩ := Memory.own_loaded hroot hrecord (h.record hrecord).1
    exact ⟨record, hrecord, h.stored record hrecord,
      ⟨⟨record, hrecord⟩, root, Function.update_self _ _ _, hversion⟩, hsound⟩

/-- **A client that saves knows of every event of the others.**  Clients work on an aggregate at
will; one of them loads it, only changes its root while the others go on, and saves it.  If the save
is accepted, nobody has committed an event since, and the record is the one that was loaded unless
somebody has saved without events; its version and tenant are the same in any case.  Otherwise the
store stays as the others have left it. -/
theorem save_unnoticed_or_refused {store : Memory Id} (hstore : store.Keeps A.kind id history)
    (codec : Codec) (backend : Option (SnapshotBackend τ Id)) (snapshots : τ)
    (before between : List (ι × Move A)) (client : ι) (expected : Option Nat)
    (hbetween : ∀ move, (client, move) ∈ between → ∃ change, move = .change change) :
    let before := ((start ι A store snapshots).run codec backend id before).2
    let loaded := before.step codec backend id client .load
    let waited := loaded.2.run codec backend id between
    let saved := waited.2.step codec backend id client (.save expected)
    loaded.1 = .load (.ok ()) →
      (∃ record found root committed,
        loaded.2.store.recordOf A id = .ok record ∧ waited.2.store.recordOf A id = .ok found ∧
        waited.2.roots client = some root ∧ saved.1 = .save (.ok committed) ∧
        (∀ outcome ∈ waited.1, outcome.committed = []) ∧
        (.save (.ok []) ∈ waited.1 ∨ found = record) ∧
        (found.version = record.version ∧ found.tenant = record.tenant) ∧
        saved.2.store.recordOf A id = .ok (root.recordAt (record.version + committed.length))) ∨
      (∃ e, saved.1 = .save (.error e) ∧
        ((∃ conflict, e = .conflict conflict) ∨ ∃ kind reason, e = .codec kind reason) ∧
        saved.2.store = waited.2.store) := by
  intro start loaded waited saved hloaded
  -- Follow the history through the four parts of the run.
  obtain ⟨tenant, hstart⟩ := sound_start ι snapshots hstore
  obtain ⟨first, hbefore, -⟩ := hstart.run codec backend before
  obtain ⟨record, hrecord, htenant, hwaits, hsound⟩ :=
    hbefore.waits_load codec backend client hloaded
  obtain ⟨batch, hwaited, hlength⟩ := hsound.run codec backend between
  have hwaits' := hwaits.run codec backend hsound hbetween
  obtain ⟨found, hfound⟩ := hwaits'.live
  rcases hwaits'.save codec backend hwaited expected with
    ⟨root, committed, hroot, hversion, hhistory, hanswer, hbehind⟩ | ⟨e, hanswer, he, hkept⟩
  · have hversion : record.version = (history ++ first).length := (hsound.record hrecord).2
    -- The root is at the end of the history, so nothing has been put there since it was loaded.
    have hnothing : ∀ outcome ∈ waited.1, outcome.committed = [] := by
      have hlength : batch.length = (waited.1.flatMap Outcome.committed).length := hlength
      rw [hhistory, List.length_append] at hversion
      have hzero : (waited.1.flatMap Outcome.committed).length = 0 := by omega
      exact List.flatMap_eq_nil_iff.mp (List.length_eq_zero_iff.mp hzero)
    refine .inl ⟨record, found, root, committed, hrecord, hfound, hroot, hanswer, hnothing, ?_, ?_,
      hbehind⟩
    · rcases store_run_of_nothing_committed codec backend loaded.2 between hnothing with
        hsaved | hkept
      · exact .inl hsaved
      · have hfound : waited.2.store.recordOf A id = .ok found := hfound
        rw [show waited.2.store = loaded.2.store from hkept, hrecord] at hfound
        exact .inr (Except.ok.inj hfound).symm
    · refine ⟨?_, (hwaited.stored found hfound).trans htenant.symm⟩
      rw [(hwaited.record hfound).2, hhistory]
  · exact .inr ⟨e, hanswer, he, hkept⟩

/-! ### A counter -/

open Sample

/-- A store with a counter that has been reset once. -/
def resetOnce : Memory String :=
  (Memory.empty.save "counter" ⟨"c", 1, none, false, none⟩ 0
    [⟨.nil, "reset", 1, [110, 117, 108, 108], .epoch, .unknown⟩]).2

/-- The root of that counter. -/
def resetRoot : Root counter := ⟨"c", 1, none, some ⟨0, 1⟩, [], false, none, .unknown⟩

omit [Identifier Id] in
/-- Whoever loads that counter holds its root. -/
theorem step_load_resetOnce (client : ι) (roots : ι → Option (Root counter)) :
    (Clients.mk resetOnce () roots).step .json none "c" client .load =
      (.load (.ok ()), ⟨resetOnce, (), Function.update roots client (some resetRoot)⟩) := by
  have hdecode : CounterEvent.set.decode .json "reset" [110, 117, 108, 108] = .ok .reset :=
    CounterEvent.roundTrips .reset _ rfl
  have hdecoded : resetOnce.decoded .json counter "c" (.since 0) =
      .ok [⟨.nil, "c", some 1, .reset, .epoch, .unknown⟩] := by
    show Except.mapError _ (List.mapM _ [_]) = _
    rw [List.mapM_cons, List.mapM_nil]
    show Except.mapError _ ((CounterEvent.set.decode .json "reset" [110, 117, 108, 108] >>=
      fun payload => _) >>= fun _ => _) = _
    rw [hdecode]
    rfl
  have hloaded : resetOnce.loaded .json counter "c" (fun _ => none) = .ok resetRoot := by
    show (resetOnce.decoded .json counter "c" (.since 0) >>= _) = _
    rw [hdecoded]
    rfl
  rw [step, Repository.load_memory _ _ _ _ _ _ (fun _ => none) fun _ => rfl, hloaded]

/-- A client saves an event, and the other one, who has loaded before, is refused. -/
theorem save_refused_behind_reset :
    let reset : Move counter := .change (.apply ⟨.nil, .epoch⟩ .reset)
    let others := [(false, .load), (false, reset), (false, .save none), (true, reset)]
    let loaded := (start Bool counter resetOnce ()).step .json none "c" true .load
    let waited := loaded.2.run .json none "c" others
    let saved := waited.2.step .json none "c" true (.save none)
    loaded.1 = .load (.ok ()) ∧ ∃ e, saved.1 = .save (.error e) ∧
      ((∃ conflict, e = .conflict conflict) ∨ ∃ kind reason, e = .codec kind reason) ∧
      saved.2.store = waited.2.store := by
  intro reset others loaded waited saved
  have hkeeps := ((Memory.keeps_empty "counter" "c").save "counter" ⟨"c", 1, none, false, none⟩ 0
    [⟨.nil, "reset", 1, [110, 117, 108, 108], .epoch, .unknown⟩]).1
  have hloaded : loaded.1 = .load (.ok ()) := by
    simp only [loaded, start, step_load_resetOnce]
  have hother : .save (.ok [⟨.nil, "c", some 2, .reset, .epoch, .unknown⟩]) ∈ waited.1 := by
    have hwaited : waited.1 = [.load (.ok ()), .change (.ok ()),
        .save (.ok [⟨.nil, "c", some 2, .reset, .epoch, .unknown⟩]), .change (.ok ())] := by
      simp only [waited, loaded, others, start, run, step_load_resetOnce]
      rfl
    rw [hwaited]
    exact .tail _ (.tail _ (.head _))
  have hbetween : ∀ move, (true, move) ∈ others → ∃ change, move = .change change := by
    intro move hmove
    exact ⟨.apply ⟨.nil, .epoch⟩ .reset, by simpa [others] using hmove⟩
  rcases save_unnoticed_or_refused (A := counter) hkeeps .json none () [] others true none hbetween
    hloaded with ⟨record, found, root, committed, -, -, -, -, hnothing, -⟩ | hrefused
  · cases hnothing _ hother
  · exact ⟨hloaded, hrefused⟩

/-- A client marks the counter as deleted and saves; the other one, who has loaded before, saves an
event and takes the mark away again without noticing. -/
theorem mark_of_deletion_overwritten :
    let reset : Move counter := .change (.apply ⟨.nil, .epoch⟩ .reset)
    let delete : Move counter := .change (.markDeleted .epoch)
    let others := [(false, .load), (false, delete), (false, .save none), (true, reset)]
    let loaded := (start Bool counter resetOnce ()).step .json none "c" true .load
    let waited := loaded.2.run .json none "c" others
    let saved := waited.2.step .json none "c" true (.save none)
    loaded.1 = .load (.ok ()) ∧
    loaded.2.store.recordOf counter "c" = .ok ⟨"c", 1, none, false, none⟩ ∧
    waited.1 = [.load (.ok ()), .change (.ok ()), .save (.ok []), .change (.ok ())] ∧
    waited.2.store.recordOf counter "c" = .ok ⟨"c", 1, none, true, some .epoch⟩ ∧
    saved.1 = .save (.ok [⟨.nil, "c", some 2, .reset, .epoch, .unknown⟩]) ∧
    saved.2.store.recordOf counter "c" = .ok ⟨"c", 2, none, false, none⟩ := by
  simp only [start, run, step_load_resetOnce]
  exact ⟨trivial, rfl, rfl, rfl, rfl, rfl⟩

end Clients

end EventSourcing
