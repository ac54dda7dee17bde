import EventSourcing.Proofs.Clients.Changes
import EventSourcing.Testing.Seeding
import Mathlib.Logic.Function.Basic

/-!
# An office

Any number of clients work on any number of aggregates of several kinds: they create and load roots,
change and save them, look at histories, move aggregates to the archive and back, and seed events.
All of it is done through one repository, with or without snapshots.  A root that is changed or
saved is held behind that as the call has left it, be it that the call has failed.

## Main Definitions

* `Office` — a store, and the roots that are held.
* `Office.Request`, `Office.Reply` — what clients ask for, and what they are told.
* `Office.step`, `Office.run`, `Office.trace` — an office at work.
* `Office.caching` — the snapshots of an office.

## Main Statements

* `Office.step_change`, `Office.step_save` — a root whose change or save fails is held as it was.
-/

namespace EventSourcing

/-- A store, and the roots that are held: at most one under a handle of a kind of aggregates. -/
structure Office (κ η : Type) {Id : Type} (subjects : κ → Aggregate Id) where
  store : Memory Id
  roots : (k : κ) → η → Option (Root (subjects k))

namespace Office

variable {κ η τ Id : Type} [DecidableEq κ] [DecidableEq η] [Identifier Id]

/-- What a client asks for.  Where events are made, their identifiers and times are given. -/
inductive Request (κ η : Type) {Id : Type} (subjects : κ → Aggregate Id) where
  | create (k : κ) (handle : η) (id : Id)
  | load (k : κ) (handle : η) (id : Id)
  | loadAt (k : κ) (handle : η) (id : Id) (version : Nat)
  | events (k : κ) (id : Id) (upTo : Option Nat)
  | change (k : κ) (handle : η) (change : Root.Change (subjects k))
  /-- An event of the client's own making. -/
  | record (k : κ) (handle : η) (e : Envelope Id (subjects k).Event)
  | tenant (k : κ) (handle : η) (tenant : Option String)
  | originator (k : κ) (handle : η) (originator : Originator)
  | save (k : κ) (handle : η) (expected : Option Nat)
  /-- A call of the store itself, among them those of the archive. -/
  | call (call : Call Id)
  | seed (k : κ) (ids : Nat → Uuid) (now : Instant) (id : Id) (events : List (subjects k).Event)
  | seedRaw (kind : String) (eventId : Uuid) (now : Instant) (id : Id) (eventKind : String)
      (data : Bytes)

/-- What a client is told.  Roots are left out, since they are there to be seen. -/
inductive Reply {κ Id : Type} (subjects : κ → Aggregate Id) where
  | create (answer : Except ConstructionError Unit)
  | load (answer : Except (LoadError Id) Unit)
  | events (k : κ) (answer : Except (LoadError Id) (List (Envelope Id (subjects k).Event)))
  | change (k : κ) (answer : Except (subjects k).Error Unit)
  | save (k : κ) (answer : Except (SaveError Id) (List (Envelope Id (subjects k).Event)))
  | stored (answer : Except StoreSaveError Nat)
  | boxed (answer : Except ArchiveError Unit)
  | unboxed (answer : Except ArchiveError (Record Id))
  | seed (answer : Except Seeding.SeedError Unit)
  | seedRaw (answer : Except StoreSaveError Unit)
  /-- It is done. -/
  | done
  /-- No root is held under the handle. -/
  | nothing

variable {subjects : κ → Aggregate Id}

/-- The office without aggregates and roots. -/
def empty (subjects : κ → Aggregate Id) : Office κ η subjects := ⟨.empty, fun _ _ => none⟩

/-- The office with another store. -/
def withStore (m : Memory Id) (w : Office κ η subjects) : Office κ η subjects :=
  { w with store := m }

/-- The office with a root held under a handle. -/
def hold (k : κ) (handle : η) (root : Root (subjects k)) (w : Office κ η subjects) :
    Office κ η subjects :=
  { w with roots := Function.update w.roots k (Function.update (w.roots k) handle (some root)) }

omit [Identifier Id] in
@[simp] theorem roots_hold_self (k : κ) (handle : η) (root : Root (subjects k))
    (w : Office κ η subjects) : (w.hold k handle root).roots k handle = some root := by
  show Function.update w.roots k (Function.update (w.roots k) handle (some root)) k handle = _
  rw [Function.update_self, Function.update_self]

omit [Identifier Id] in
/-- A root that is held under a handle may be put there again. -/
theorem hold_of_roots {k : κ} {handle : η} {root : Root (subjects k)} {w : Office κ η subjects}
    (h : w.roots k handle = some root) : w.hold k handle root = w := by
  rw [hold, ← h, Function.update_eq_self, Function.update_eq_self]

omit [Identifier Id] in
/-- What is held elsewhere stays. -/
theorem roots_hold_of_ne {k k' : κ} {handle handle' : η} (h : k' = k → handle' ≠ handle)
    (root : Root (subjects k)) (w : Office κ η subjects) :
    (w.hold k handle root).roots k' handle' = w.roots k' handle' := by
  show Function.update w.roots k (Function.update (w.roots k) handle (some root)) k' handle' = _
  by_cases hk : k' = k
  · subst hk
    rw [Function.update_self, Function.update_of_ne (h rfl)]
  · rw [Function.update_of_ne hk]

omit [Identifier Id] in
/-- What holds of all roots that are held does so with another one of which it holds. -/
theorem forall_roots_hold {P : (k : κ) → Root (subjects k) → Prop} {w : Office κ η subjects}
    (h : ∀ k handle root, w.roots k handle = some root → P k root) (k : κ) (handle : η)
    {root : Root (subjects k)} (hroot : P k root) (k' : κ) (handle' : η)
    (root' : Root (subjects k'))
    (hroot' : (w.hold k handle root).roots k' handle' = some root') : P k' root' := by
  by_cases hplace : k' = k ∧ handle' = handle
  · obtain ⟨rfl, hhandle⟩ := hplace
    cases hhandle
    rw [roots_hold_self] at hroot'
    cases hroot'
    exact hroot
  · rw [roots_hold_of_ne fun hk hhandle => hplace ⟨hk, hhandle⟩] at hroot'
    exact h k' handle' root' hroot'

/-- A root is held if it could be had. -/
def receive {ε : Type} (k : κ) (handle : η) (reply : Except ε Unit → Reply subjects)
    (answer : Except ε (Root (subjects k))) (w : Office κ η subjects) :
    Reply subjects × Office κ η subjects :=
  match answer with
  | .error e => (reply (.error e), w)
  | .ok root => (reply (.ok ()), w.hold k handle root)

omit [Identifier Id] in
/-- What holds of an office holds behind the receipt of a root if it holds once that is held. -/
theorem receive_induct {P : Office κ η subjects → Prop} {ε : Type} {k : κ} {handle : η}
    {reply : Except ε Unit → Reply subjects} {answer : Except ε (Root (subjects k))}
    {w : Office κ η subjects} (h : P w)
    (hhold : ∀ root, answer = .ok root → P (w.hold k handle root)) :
    P (w.receive k handle reply answer).2 := by
  cases answer with
  | error e => exact h
  | ok root => exact hhold root rfl

/-- Something is done with the root under a handle, if there is one. -/
def withRoot (k : κ) (handle : η) (s : Office κ η subjects × τ)
    (act : Root (subjects k) → Reply subjects × Office κ η subjects × τ) :
    Reply subjects × Office κ η subjects × τ :=
  match s.1.roots k handle with
  | none => (.nothing, s)
  | some root => act root

omit [DecidableEq κ] [DecidableEq η] [Identifier Id] in
/-- What holds in front of it holds behind it if it holds behind what is done with a root. -/
theorem withRoot_induct {P : Office κ η subjects × τ → Prop} {k : κ} {handle : η}
    {s : Office κ η subjects × τ}
    {act : Root (subjects k) → Reply subjects × Office κ η subjects × τ} (h : P s)
    (hact : ∀ root, s.1.roots k handle = some root → P (act root).2) :
    P (withRoot k handle s act).2 := by
  cases hroot : s.1.roots k handle with
  | none =>
    simp only [withRoot, hroot]
    exact h
  | some root =>
    simp only [withRoot, hroot]
    exact hact root hroot

/-- A call of a store and its reply. -/
def answerCall [Counting] (m : Memory Id) : Call Id → Reply subjects × Memory Id
  | .save kind record expected events =>
    let (answer, m) := m.save kind record expected events
    (.stored answer, m)
  | .box kind id encoding =>
    let (answer, m) := m.box kind id encoding
    (.boxed answer, m)
  | .unbox kind id encoding =>
    let (answer, m) := m.unbox kind id encoding
    (.unboxed answer, m)

variable [Counting] (codec : Codec) (snapshots : Option (SnapshotBackend τ Id))

/-- One request, through a repository on the store. -/
def step (request : Request κ η subjects) (s : Office κ η subjects × τ) :
    Reply subjects × Office κ η subjects × τ :=
  let repository := Repository.onMemory codec snapshots
  let (w, t) := s
  match request with
  | .create k handle id =>
    let (reply, w) := w.receive k handle .create (Repository.create (subjects k) id)
    (reply, w, t)
  | .load k handle id =>
    let (answer, m, t) := repository.load (subjects k) id (w.store, t)
    let (reply, w) := (w.withStore m).receive k handle .load answer
    (reply, w, t)
  | .loadAt k handle id version =>
    let (answer, m, t) := repository.loadAt (subjects k) id version (w.store, t)
    let (reply, w) := (w.withStore m).receive k handle .load answer
    (reply, w, t)
  | .events k id upTo =>
    let (answer, m, t) := repository.events (subjects k) id upTo (w.store, t)
    (.events k answer, w.withStore m, t)
  | .change k handle change =>
    withRoot k handle s fun root =>
      let (answer, root) := Root.InPlace.change change root
      (.change k answer, w.hold k handle root, t)
  | .record k handle e =>
    withRoot k handle s fun root => (.done, w.hold k handle (root.record e), t)
  | .tenant k handle tenant =>
    withRoot k handle s fun root =>
      (.done, w.hold k handle { root with tenant := tenant }, t)
  | .originator k handle originator =>
    withRoot k handle s fun root =>
      (.done, w.hold k handle { root with originator := originator }, t)
  | .save k handle expected =>
    withRoot k handle s fun root =>
      let (answer, root, m, t) := repository.saveInPlace expected (root, w.store, t)
      (.save k answer, (w.withStore m).hold k handle root, t)
  | .call call =>
    let (reply, m) := answerCall w.store call
    (reply, w.withStore m, t)
  | .seed k ids now id events =>
    let (answer, m, t) :=
      Seeding.seed (Memory.backend Id codec) (subjects k) ids now id events (w.store, t)
    (.seed answer, w.withStore m, t)
  | .seedRaw kind eventId now id eventKind data =>
    let (answer, m, t) :=
      Seeding.seedRaw (Memory.backend Id codec) kind eventId now id eventKind data (w.store, t)
    (.seedRaw answer, w.withStore m, t)

/-- A change that is refused leaves the office as it is. -/
theorem step_change (k : κ) (handle : η) (change : Root.Change (subjects k))
    (w : Office κ η subjects) (t : τ) :
    step codec snapshots (.change k handle change) (w, t) =
      withRoot k handle (w, t) fun root =>
        let (reply, w) := w.receive k handle (.change k) (root.changed change)
        (reply, w, t) := by
  cases hroot : w.roots k handle with
  | none => simp only [step, withRoot, hroot]
  | some root =>
    simp only [step, withRoot, hroot, Root.InPlace.run_change]
    cases root.changed change with
    | ok behind => rfl
    | error e =>
      show (_, w.hold k handle root, t) = (_, w, t)
      rw [hold_of_roots hroot]
      rfl

/-- A save that fails leaves the roots of the office as they are. -/
theorem step_save (k : κ) (handle : η) (expected : Option Nat) (w : Office κ η subjects) (t : τ) :
    step codec snapshots (.save k handle expected) (w, t) =
      withRoot k handle (w, t) fun root =>
        match (Repository.onMemory codec snapshots).save root expected (w.store, t) with
        | (.error e, m, t) => (.save k (.error e), w.withStore m, t)
        | (.ok (committed, root), m, t) =>
          (.save k (.ok committed), (w.withStore m).hold k handle root, t) := by
  cases hroot : w.roots k handle with
  | none => simp only [step, withRoot, hroot]
  | some root =>
    simp only [step, withRoot, hroot, Repository.saveInPlace_eq]
    generalize (Repository.onMemory codec snapshots).save root expected (w.store, t) = result
    obtain ⟨_ | ⟨committed, behind⟩, m, t'⟩ := result
    · show (_, (w.withStore m).hold k handle root, t') = (_, w.withStore m, t')
      rw [hold_of_roots (w := w.withStore m) hroot]
    · rfl

/-- The office behind requests. -/
def run (s : Office κ η subjects × τ) (requests : List (Request κ η subjects)) :
    Office κ η subjects × τ :=
  requests.foldl (fun s request => (step codec snapshots request s).2) s

/-- What is to be seen of an office at work: behind each request the reply, the store and the roots
that are held. -/
def trace (s : Office κ η subjects × τ) :
    List (Request κ η subjects) → List (Reply subjects × Office κ η subjects)
  | [] => []
  | request :: rest =>
    let (reply, w, t) := step codec snapshots request s
    (reply, w) :: trace (w, t) rest

/-- The snapshots of an office: a snapshot store in memory, or none. -/
def caching : (cached : Bool) → Option (SnapshotBackend (SnapshotMemory Id) Id)
  | true => some (SnapshotMemory.backend Id)
  | false => none

/-- The snapshot from which an office loads an aggregate at a version. -/
def usable (cached : Bool) (A : Aggregate Id) (id : Id) (t : SnapshotMemory Id) (version : Nat) :
    Option (Snapshot A.State) :=
  match cached with
  | true => Memory.usable (t.load A.form A.kind id) version
  | false => none

/-- Loading leaves the store and the snapshots. -/
theorem load_caching (codec : Codec) (cached : Bool) (A : Aggregate Id) (m : Memory Id)
    (t : SnapshotMemory Id) (id : Id) :
    (Repository.onMemory codec (caching cached)).load A id (m, t) =
      (m.loaded codec A id (usable cached A id t), (m, t)) := by
  refine Repository.load_memory codec (caching cached) A m t id _ fun version => ?_
  cases cached with
  | true => exact Repository.usableSnapshot?_memory codec A m t _ id version
  | false => rfl

end Office

end EventSourcing
