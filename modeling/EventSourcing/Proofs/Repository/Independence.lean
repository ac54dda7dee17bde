import EventSourcing.Proofs.Repository.Replay
import EventSourcing.Proofs.Store.Reachable

/-!
# Aggregates are independent

Whatever is done with an aggregate, be it a call of the store or of a repository or seeding, it is
confined to one slot: it leaves all others as they are, and what it answers and leaves there depends
on that slot only.  Things that are confined to different slots can be done in either order.

The slot is that of a kind and an identifier, and a save goes to the identifier that is in the
record.  Loading looks for the events under that identifier as well; that it is the one that is
asked for is a property of the stores that can be reached.

## Main Definitions

* `Access`, `Access.key`, `Access.perform` — what can be done with an aggregate, the slot that it is
  for, and its answer with the store behind it.
* `Memory.Looks`, `Memory.Confined` — looks at one slot, and what is confined to one.

## Main Statements

* `Memory.Confined.commute` — what is confined to different slots can be done in either order.
* `Access.confined_perform` — everything is confined to its slot.
* `Access.independent` — for any store that can be reached.
-/

namespace EventSourcing

attribute [local instance] Counting.exact

/-- Anything that can be done with one aggregate. -/
inductive Access (Id : Type) : Type 1 where
  | save (kind : String) (record : Record Id) (expected : Nat) (events : List NewEvent)
  | box (kind : String) (id : Id) (encoding : Encoding)
  | unbox (kind : String) (id : Id) (encoding : Encoding)
  | get (kind : String) (id : Id)
  | loadEvents (kind : String) (id : Id) (window : Window)
  | contains (kind : String) (id : Id)
  | containsAt (kind : String) (id : Id) (version : Nat)
  | saveRoot {τ : Type} (codec : Codec) (snapshots : Option (SnapshotBackend τ Id)) (t : τ)
      {A : Aggregate Id} (root : Root A) (expected : Option Nat)
  | load {τ : Type} (codec : Codec) (snapshots : Option (SnapshotBackend τ Id)) (t : τ)
      (A : Aggregate Id) (id : Id)
  | loadAt {τ : Type} (codec : Codec) (snapshots : Option (SnapshotBackend τ Id)) (t : τ)
      (A : Aggregate Id) (id : Id) (version : Nat)
  | events {τ : Type} (codec : Codec) (snapshots : Option (SnapshotBackend τ Id)) (t : τ)
      (A : Aggregate Id) (id : Id) (upTo : Option Nat)
  | seed (codec : Codec) (A : Aggregate Id) (ids : Nat → Uuid) (now : Instant) (id : Id)
      (events : List A.Event)
  | seedRaw (kind : String) (eventId : Uuid) (now : Instant) (id : Id) (eventKind : String)
      (data : Bytes)

namespace Access

variable {Id : Type}

/-- The kind and the identifier of the aggregate. -/
def key : Access Id → String × Id
  | .save kind record _ _ => (kind, record.aggregate)
  | .box kind id _ | .unbox kind id _ | .get kind id | .loadEvents kind id _
  | .contains kind id | .containsAt kind id _ | .seedRaw kind _ _ id _ _ => (kind, id)
  | .saveRoot (A := A) _ _ _ root _ => (A.kind, root.id)
  | .load _ _ _ A id | .loadAt _ _ _ A id _ | .events _ _ _ A id _ | .seed _ A _ _ id _ =>
    (A.kind, id)

/-- What is answered.  A repository that has been asked leaves a snapshot store behind. -/
def Answer : Access Id → Type
  | .save .. => Except StoreSaveError Nat
  | .box .. => Except ArchiveError Unit
  | .unbox .. => Except ArchiveError (Record Id)
  | .get .. => Lookup Id
  | .loadEvents .. => List (StoredEvent Id)
  | .contains .. | .containsAt .. => Bool
  | @saveRoot _ τ _ _ _ A _ _ =>
    Except (SaveError Id) (List (Envelope Id A.Event) × Root A) × τ
  | @load _ τ _ _ _ A _ | @loadAt _ τ _ _ _ A _ _ => Except (LoadError Id) (Root A) × τ
  | @events _ τ _ _ _ A _ _ => Except (LoadError Id) (List (Envelope Id A.Event)) × τ
  | .seed .. => Except Seeding.SeedError Unit
  | .seedRaw .. => Except StoreSaveError Unit

/-- The answer of a repository with the snapshot store behind it, and the store. -/
def ofRepository {α τ : Type} (result : α × Memory Id × τ) : (α × τ) × Memory Id :=
  ((result.1, result.2.2), result.2.1)

variable [Identifier Id]

/-- The answer, and the store behind it. -/
def perform : (access : Access Id) → Memory Id → access.Answer × Memory Id
  | .save kind record expected batch, m => m.save kind record expected batch
  | .box kind id encoding, m => m.box kind id encoding
  | .unbox kind id encoding, m => m.unbox kind id encoding
  | .get kind id, m => (m.get kind id, m)
  | .loadEvents kind id window, m => (m.loadEvents kind id window, m)
  | .contains kind id, m => (m.contains kind id, m)
  | .containsAt kind id version, m => (m.containsAt kind id version, m)
  | .saveRoot codec snapshots t root expected, m =>
    ofRepository ((Repository.onMemory codec snapshots).save root expected (m, t))
  | .load codec snapshots t A id, m =>
    ofRepository ((Repository.onMemory codec snapshots).load A id (m, t))
  | .loadAt codec snapshots t A id version, m =>
    ofRepository ((Repository.onMemory codec snapshots).loadAt A id version (m, t))
  | .events codec snapshots t A id upTo, m =>
    ofRepository ((Repository.onMemory codec snapshots).events A id upTo (m, t))
  | .seed codec A ids now id payloads, m =>
    let (answer, (m, ())) := Seeding.seed (Memory.backend Id codec) A ids now id payloads (m, ())
    (answer, m)
  | .seedRaw kind eventId now id eventKind data, m =>
    let (answer, (m, ())) :=
      Seeding.seedRaw (Memory.backend Id .json) kind eventId now id eventKind data (m, ())
    (answer, m)

end Access

namespace Memory

variable {Id : Type} [Identifier Id] {kind kind' : String} {id id' : Id} {α β : Type}

/-! ### Confinement -/

/-- The look at a store depends on one slot only, which keeps a history. -/
def Looks (kind : String) (id : Id) (look : Memory Id → α) : Prop :=
  ∀ ⦃m m' : Memory Id⦄ ⦃history⦄, m.Keeps kind id history →
    m.slot? kind id = m'.slot? kind id → look m = look m'

/-- What is confined to one slot leaves all others, and looks at no other. -/
structure Confined (kind : String) (id : Id) (f : Memory Id → α × Memory Id) : Prop where
  elsewhere : ∀ m kind' id', (kind, id) ≠ (kind', id') →
    (f m).2.slot? kind' id' = m.slot? kind' id'
  answer : Looks kind id fun m => (f m).1
  behind : Looks kind id fun m => (f m).2.slot? kind id

/-- What changes nothing. -/
theorem Confined.of_kept {f : Memory Id → α × Memory Id} (hkept : ∀ m, (f m).2 = m)
    (h : Looks kind id fun m => (f m).1) : Confined kind id f where
  elsewhere m _ _ _ := by rw [hkept]
  answer := h
  behind m m' _ _ hslot := by
    show (f m).2.slot? kind id = (f m').2.slot? kind id
    rw [hkept, hkept, hslot]

theorem Looks.confined {look : Memory Id → α} (h : Looks kind id look) :
    Confined kind id fun m => (look m, m) := .of_kept (fun _ => rfl) h

/-- What follows on a look. -/
theorem Looks.andThen {look : Memory Id → β} (h : Looks kind id look)
    {f : β → Memory Id → α × Memory Id}
    (hf : ∀ m b, look m = b → Confined kind id (f b)) :
    Confined kind id fun m => f (look m) m where
  elsewhere m := (hf m _ rfl).elsewhere m
  answer m m' _ hkeeps hslot := by
    show (f (look m) m).1 = (f (look m') m').1
    rw [← h hkeeps hslot]
    exact (hf m _ rfl).answer hkeeps hslot
  behind m m' _ hkeeps hslot := by
    show (f (look m) m).2.slot? kind id = (f (look m') m').2.slot? kind id
    rw [← h hkeeps hslot]
    exact (hf m _ rfl).behind hkeeps hslot

/-- Looking at the answer only. -/
theorem Confined.map {f : Memory Id → α × Memory Id} (h : Confined kind id f) (g : α → β) :
    Confined kind id fun m => (g (f m).1, (f m).2) where
  elsewhere := h.elsewhere
  answer _ _ _ hkeeps hslot := congrArg g (h.answer hkeeps hslot)
  behind := h.behind

/-- **What is confined to different slots can be done in either order.** -/
theorem Confined.commute {f : Memory Id → α × Memory Id} {g : Memory Id → β × Memory Id}
    (hf : Confined kind id f) (hg : Confined kind' id' g) (hne : (kind, id) ≠ (kind', id'))
    {m : Memory Id} {history history' : List (StoredEvent Id)} (hkeeps : m.Keeps kind id history)
    (hkeeps' : m.Keeps kind' id' history') :
    (f (g m).2).1 = (f m).1 ∧ (g (f m).2).1 = (g m).1 ∧
      ∀ kind'' id'', (f (g m).2).2.slot? kind'' id'' = (g (f m).2).2.slot? kind'' id'' := by
  have hslot := (hg.elsewhere m kind id hne.symm).symm
  have hslot' := (hf.elsewhere m kind' id' hne).symm
  refine ⟨(hf.answer hkeeps hslot).symm, (hg.answer hkeeps' hslot').symm, fun kind'' id'' => ?_⟩
  -- A slot is that of the first, or that of the second, or left by both.
  by_cases hkey : (kind, id) = (kind'', id'')
  · obtain ⟨rfl, rfl⟩ := Prod.mk.inj hkey
    calc (f (g m).2).2.slot? kind id
      _ = (f m).2.slot? kind id := (hf.behind hkeeps hslot).symm
      _ = (g (f m).2).2.slot? kind id := (hg.elsewhere _ kind id hne.symm).symm
  · rw [hf.elsewhere _ _ _ hkey]
    by_cases hkey' : (kind', id') = (kind'', id'')
    · obtain ⟨rfl, rfl⟩ := Prod.mk.inj hkey'
      exact hg.behind hkeeps' hslot'
    · rw [hg.elsewhere _ _ _ hkey', hg.elsewhere _ _ _ hkey', hf.elsewhere _ _ _ hkey]

/-- Stores with the same slots have the same entries, in whatever order. -/
theorem perm_entries {m m' : Memory Id} (h : ∀ kind id, m.slot? kind id = m'.slot? kind id) :
    m.slots.entries.Perm m'.slots.entries :=
  Table.perm_entries fun key => h key.1 key.2

/-! ### Looks -/

theorem looks_get (kind : String) (id : Id) : Looks kind id (get kind id) :=
  fun m m' _ _ hslot => by rw [get, get, hslot]

theorem looks_loadEvents (kind : String) (id : Id) (window : Window) :
    Looks kind id (loadEvents kind id window) :=
  fun m m' _ _ hslot => by rw [loadEvents, loadEvents, stream?, stream?, hslot]

theorem looks_contains (kind : String) (id : Id) : Looks kind id (contains kind id) :=
  fun m m' _ _ hslot => by rw [contains, contains, stream?, stream?, hslot]

theorem looks_containsAt (kind : String) (id : Id) (version : Nat) :
    Looks kind id (containsAt kind id version) :=
  fun m m' _ _ hslot => by rw [containsAt, containsAt, stream?, stream?, hslot]

section Aggregate

variable (codec : Codec) (A : Aggregate Id) (id : Id)

theorem looks_recordOf : Looks A.kind id (recordOf A id) :=
  fun m m' _ hkeeps hslot => by rw [recordOf, recordOf, looks_get A.kind id hkeeps hslot]

theorem looks_decoded (window : Window) : Looks A.kind id (decoded codec A id window) :=
  fun m m' _ hkeeps hslot => by
    rw [decoded, decoded, looks_loadEvents A.kind id window hkeeps hslot]

theorem looks_loadedAt (version : Nat) : Looks A.kind id (loadedAt codec A id version) :=
  fun m m' _ hkeeps hslot => by
    rw [loadedAt, loadedAt, looks_recordOf A id hkeeps hslot,
      looks_decoded codec A id (.through version) hkeeps hslot]

/-- The events that are replayed are those of the aggregate that is asked for. -/
theorem looks_loaded (snapshot : Nat → Option (Snapshot A.State)) :
    Looks A.kind id (loaded codec A id snapshot) := by
  intro m m' history hkeeps hslot
  rw [loaded, loaded, ← looks_recordOf A id hkeeps hslot]
  cases hrecord : m.recordOf A id with
  | error e => rfl
  | ok record =>
    show (Repository.base A record (snapshot record.version) >>= fun root => _) =
      (Repository.base A record (snapshot record.version) >>= fun root => _)
    cases hbase : Repository.base A record (snapshot record.version) with
    | error e => rfl
    | ok root =>
      have hid : root.id = id :=
        (base_eq_ok hbase).1.trans (hkeeps.of_record hrecord).2.aggregate
      show m.replayed codec root record = m'.replayed codec root record
      rw [replayed, replayed, hid, looks_decoded codec A id (.since root.version) hkeeps hslot]

theorem looks_seedBatch (ids : Nat → Uuid) (now : Instant) (events : List A.Event) :
    Looks A.kind id (seedBatch codec A ids now id events) :=
  fun m m' _ hkeeps hslot => by rw [seedBatch, seedBatch, looks_get A.kind id hkeeps hslot]

end Aggregate

theorem looks_rawBatch (kind : String) (eventId : Uuid) (now : Instant) (id : Id)
    (eventKind : String) (data : Bytes) :
    Looks kind id (rawBatch kind eventId now id eventKind data) :=
  fun m m' _ hkeeps hslot => by rw [rawBatch, rawBatch, looks_get kind id hkeeps hslot]

/-! ### Calls -/

/-- The store with a slot replaced, if there is anything to replace it. -/
def putSlot (kind : String) (id : Id) : Option (Slot Id) → Memory Id → Memory Id
  | none, m => m
  | some slot, m => m.setSlot kind id slot

theorem slot?_putSlot (new : Option (Slot Id)) (m : Memory Id) :
    (m.putSlot kind id new).slot? kind' id' =
      if (kind, id) = (kind', id') then new.or (m.slot? kind' id') else m.slot? kind' id' := by
  cases new with
  | none => exact (ite_self _).symm
  | some slot => exact slot?_setSlot kind kind' id id' slot m

/-- What finds an answer and a replacement in one slot is confined to it. -/
theorem Confined.of_slot {f : Memory Id → α × Memory Id}
    (h : ∀ slot, ∃ answer new, ∀ m : Memory Id, m.slot? kind id = slot →
      f m = (answer, m.putSlot kind id new)) : Confined kind id f where
  elsewhere m kind' id' hne := by
    obtain ⟨answer, new, hf⟩ := h (m.slot? kind id)
    rw [hf m rfl, slot?_putSlot, if_neg hne]
  answer m m' _ _ hslot := by
    obtain ⟨answer, new, hf⟩ := h (m.slot? kind id)
    show (f m).1 = (f m').1
    rw [hf m rfl, hf m' hslot.symm]
  behind m m' _ _ hslot := by
    obtain ⟨answer, new, hf⟩ := h (m.slot? kind id)
    show (f m).2.slot? kind id = (f m').2.slot? kind id
    rw [hf m rfl, hf m' hslot.symm, slot?_putSlot, slot?_putSlot, hslot]

/-- **A save is confined to the aggregate of its record.** -/
theorem confined_save (kind : String) (record : Record Id) (expected : Nat)
    (events : List NewEvent) :
    Confined kind record.aggregate (save kind record expected events) := by
  refine .of_slot fun slot => ?_
  -- The checks in the order in which a save makes them.
  unfold save
  cases gap? expected events with
  | some found => exact ⟨_, none, fun m hslot => rfl⟩
  | none =>
    by_cases hversion : record.version = plus expected events.length
    · simp only [hversion, ne_eq, not_true_eq_false, if_false]
      cases slot with
      | none =>
        by_cases hexpected : expected = 0
        · by_cases hevents : events = []
          · exact ⟨_, none, fun m hslot => by simp only [hslot, hexpected, hevents]; rfl⟩
          · exact ⟨_, some _, fun m hslot => by
              simp only [hslot, hexpected, hevents, not_true_eq_false, if_false]; rfl⟩
        · exact ⟨_, none, fun m hslot => by
            simp only [hslot, hexpected, not_false_eq_true, if_true]; rfl⟩
      | some slot =>
        cases slot with
        | archived encoding document => exact ⟨_, none, fun m hslot => by rw [hslot]; rfl⟩
        | live stream =>
          by_cases hexpected : stream.record.version = expected
          · exact ⟨_, some _, fun m hslot => by simp only [hslot, hexpected, if_true]; rfl⟩
          · exact ⟨_, none, fun m hslot => by simp only [hslot, hexpected, if_false]; rfl⟩
    · exact ⟨_, none, fun m hslot => if_pos hversion⟩

/-- What goes to the archive stays in its slot. -/
theorem confined_box (kind : String) (id : Id) (encoding : Encoding) :
    Confined kind id (box kind id encoding) := by
  refine .of_slot fun slot => ?_
  unfold box
  cases slot with
  | none => exact ⟨_, none, fun m hslot => by rw [hslot]; rfl⟩
  | some slot =>
    cases slot with
    | archived _ _ => exact ⟨_, none, fun m hslot => by rw [hslot]; rfl⟩
    | live stream =>
      cases harchive : stream.archive encoding with
      | ok document => exact ⟨_, some _, fun m hslot => by simp only [hslot, harchive]; rfl⟩
      | error reason => exact ⟨_, none, fun m hslot => by simp only [hslot, harchive]; rfl⟩

/-- What comes back from the archive comes back to where it was. -/
theorem confined_unbox (kind : String) (id : Id) (encoding : Encoding) :
    Confined kind id (unbox kind id encoding) := by
  refine .of_slot fun slot => ?_
  unfold unbox
  cases slot with
  | none => exact ⟨_, none, fun m hslot => by rw [hslot]; rfl⟩
  | some slot =>
    cases slot with
    | live _ => exact ⟨_, none, fun m hslot => by rw [hslot]; rfl⟩
    | archived written document =>
      by_cases hwritten : written = encoding
      · cases hrestore : (Stream.restore document : Except Json.Failure (Stream Id)) with
        | ok stream =>
          exact ⟨_, some _, fun m hslot => by
            simp only [hslot, hwritten, ne_eq, not_true_eq_false, if_false, hrestore]; rfl⟩
        | error failure =>
          exact ⟨_, none, fun m hslot => by
            simp only [hslot, hwritten, ne_eq, not_true_eq_false, if_false, hrestore]; rfl⟩
      · exact ⟨_, none, fun m hslot => by
          simp only [hslot, ne_eq, hwritten, not_false_eq_true, if_true]; rfl⟩

end Memory

/-! ### Repositories and seeding -/

namespace Access

open Memory

variable {Id τ : Type} [Identifier Id]

section SaveRoot

variable {codec : Codec} (snapshots : Option (SnapshotBackend τ Id)) (t : τ) {A : Aggregate Id}
  {root : Root A} {expected : Option Nat}

/-- What saving a root answers, given what the store answers to the batch. -/
def saveAnswer (root : Root A) (committed : List (Envelope Id A.Event)) :
    Except StoreSaveError Nat → Except (SaveError Id) (List (Envelope Id A.Event) × Root A) × τ
  | .error e => (.error (.ofStore A.kind root.id e), t)
  | .ok _ => (.ok (committed, root.complete committed),
      Repository.offered snapshots (root.complete committed) root.version committed.length t)

/-- Saving a root that has a batch is saving the batch. -/
theorem perform_saveRoot {committed : List (Envelope Id A.Event)} {batch : List NewEvent}
    (hprepared : root.prepared codec expected = .ok (committed, batch)) (m : Memory Id) :
    let record := root.recordAt (plus root.version committed.length)
    perform (.saveRoot codec snapshots t root expected) m =
      (saveAnswer snapshots t root committed (m.save A.kind record root.version batch).1,
        (m.save A.kind record root.version batch).2) := by
  intro record
  cases hanswer : (m.save A.kind record root.version batch).1 with
  | error e =>
    have hsave := save_of_error hanswer
    rw [hsave]
    exact congrArg ofRepository (Repository.save_of_refused snapshots t hprepared hsave)
  | ok version =>
    have hsave : m.save A.kind record root.version batch = (.ok version, _) := Prod.ext hanswer rfl
    exact congrArg ofRepository (Repository.save_of_accepted snapshots t hprepared hsave)

variable (codec root expected)

/-- **Saving a root is confined to its aggregate.** -/
theorem confined_saveRoot :
    Confined A.kind root.id (perform (.saveRoot codec snapshots t root expected)) := by
  cases hprepared : root.prepared codec expected with
  | error e =>
    have hsave : perform (.saveRoot codec snapshots t root expected) =
        fun m => ((.error e, t), m) :=
      funext fun m => congrArg ofRepository (Repository.save_of_unprepared snapshots t hprepared)
    rw [hsave]
    exact Looks.confined fun _ _ _ _ _ => rfl
  | ok prepared =>
    obtain ⟨committed, batch⟩ := prepared
    rw [funext (perform_saveRoot snapshots t hprepared)]
    exact (confined_save A.kind (root.recordAt (plus root.version committed.length)) root.version
      batch).map (saveAnswer snapshots t root committed)

end SaveRoot

section Load

variable (codec : Codec) (snapshots : Option (SnapshotBackend τ Id)) (t : τ) (A : Aggregate Id)
  (id : Id)

/-- **Loading looks at its aggregate and leaves the store as it is.** -/
theorem confined_load :
    Confined A.kind id (perform (.load codec snapshots t A id)) := by
  obtain ⟨snapshot, t', -, hload⟩ := Repository.exists_load_of_record codec snapshots A t id
  -- Whether the snapshot store is asked depends on whether there is a record.
  have hfound (m : Memory Id) (record : Record Id) (hrecord : m.recordOf A id = .ok record) :
      perform (.load codec snapshots t A id) m = ((m.loaded codec A id snapshot, t'), m) :=
    congrArg ofRepository (hload m record hrecord)
  have hnone (m : Memory Id) (e : LoadError Id) (hrecord : m.recordOf A id = .error e) :
      perform (.load codec snapshots t A id) m = ((.error e, t), m) :=
    congrArg ofRepository (Repository.load_of_no_record codec snapshots t hrecord)
  refine .of_kept (fun m => ?_) fun m m' _ hkeeps hslot => ?_
  · cases hrecord : m.recordOf A id with
    | error e => rw [hnone m e hrecord]
    | ok record => rw [hfound m record hrecord]
  · have hsame : m.recordOf A id = m'.recordOf A id := looks_recordOf A id hkeeps hslot
    show (perform _ m).1 = (perform _ m').1
    cases hrecord : m.recordOf A id with
    | error e => rw [hnone m e hrecord, hnone m' e (hsame ▸ hrecord)]
    | ok record =>
      rw [hfound m record hrecord, hfound m' record (hsame ▸ hrecord),
        looks_loaded codec A id snapshot hkeeps hslot]

theorem confined_loadAt (version : Nat) :
    Confined A.kind id (perform (.loadAt codec snapshots t A id version)) := by
  have hperform : perform (.loadAt codec snapshots t A id version) = fun m =>
      ((m.loadedAt codec A id version, t), m) := funext fun m =>
    congrArg ofRepository (Repository.loadAt_memory codec snapshots A m t id version)
  rw [hperform]
  exact (looks_loadedAt codec A id version).confined.map fun answer => (answer, t)

theorem confined_events (upTo : Option Nat) :
    Confined A.kind id (perform (.events codec snapshots t A id upTo)) := by
  have hperform : perform (.events codec snapshots t A id upTo) = fun m =>
      ((m.recordOf A id >>= fun _ => m.decoded codec A id ⟨none, upTo⟩, t), m) := funext fun m =>
    congrArg ofRepository (Repository.events_memory codec snapshots A m t id upTo)
  rw [hperform]
  refine Looks.confined fun m m' _ hkeeps hslot => ?_
  rw [looks_recordOf A id hkeeps hslot, looks_decoded codec A id _ hkeeps hslot]

end Load

/-- What seeding does with what it saves, if there is anything to save. -/
def seeding {ε : Type} (failure : StoreSaveError → ε) (kind : String)
    (batch : Except ε (Record Id × Nat × List NewEvent)) (m : Memory Id) :
    Except ε Unit × Memory Id :=
  match batch with
  | .error e => (.error e, m)
  | .ok (record, expected, batch) =>
    (((m.save kind record expected batch).1.mapError failure).map fun _ => (),
      (m.save kind record expected batch).2)

theorem perform_seed (codec : Codec) (A : Aggregate Id) (ids : Nat → Uuid) (now : Instant) (id : Id)
    (payloads : List A.Event) (m : Memory Id) :
    perform (.seed codec A ids now id payloads) m =
      seeding .save A.kind (m.seedBatch codec A ids now id payloads) m := by
  simp only [perform, Seeding.seed_memory, seeding]
  rcases m.seedBatch codec A ids now id payloads with e | ⟨record, expected, batch⟩
  · rfl
  · dsimp only
    rcases m.save A.kind record expected batch with ⟨_ | _, m'⟩ <;> rfl

theorem perform_seedRaw (kind : String) (eventId : Uuid) (now : Instant) (id : Id)
    (eventKind : String) (data : Bytes) (m : Memory Id) :
    perform (.seedRaw kind eventId now id eventKind data) m =
      seeding (fun e => e) kind (.ok (m.rawBatch kind eventId now id eventKind data)) m := by
  simp only [perform, Seeding.seedRaw_memory, seeding]
  rcases m.rawBatch kind eventId now id eventKind data with ⟨record, expected, batch⟩
  dsimp only
  rcases m.save kind record expected batch with ⟨_ | _, m'⟩ <;> rfl

/-- Seeding is confined to the aggregate of what it saves. -/
theorem confined_seeding {ε : Type} (failure : StoreSaveError → ε) (kind : String) {id : Id}
    {batch : Except ε (Record Id × Nat × List NewEvent)}
    (h : ∀ saved, batch = .ok saved → saved.1.aggregate = id) :
    Confined kind id (seeding failure kind batch) := by
  rcases batch with e | ⟨record, expected, batch⟩
  · exact Looks.confined fun _ _ _ _ _ => rfl
  · obtain rfl : record.aggregate = id := h _ rfl
    exact (confined_save kind record expected batch).map fun answer =>
      (answer.mapError failure).map fun _ => ()

/-- **Seeding is confined to its aggregate.** -/
theorem confined_seed (codec : Codec) (A : Aggregate Id) (ids : Nat → Uuid) (now : Instant)
    (id : Id) (payloads : List A.Event) :
    Confined A.kind id (perform (.seed codec A ids now id payloads)) := by
  rw [funext (perform_seed codec A ids now id payloads)]
  refine (looks_seedBatch codec A id ids now payloads).andThen fun m batch hbatch => ?_
  refine confined_seeding _ _ fun saved hsaved => ?_
  exact (Seeding.seedBatch_eq_ok codec m (hbatch.trans hsaved)).1

theorem confined_seedRaw (kind : String) (eventId : Uuid) (now : Instant) (id : Id)
    (eventKind : String) (data : Bytes) :
    Confined kind id (perform (.seedRaw kind eventId now id eventKind data)) := by
  rw [funext (perform_seedRaw kind eventId now id eventKind data)]
  refine (looks_rawBatch kind eventId now id eventKind data).andThen
    (f := fun batch => seeding (fun e => e) kind (.ok batch)) fun m batch hbatch => ?_
  refine confined_seeding _ _ fun saved hsaved => ?_
  cases hsaved
  subst hbatch
  rfl

/-- **Whatever is done with an aggregate is confined to its slot.** -/
theorem confined_perform (access : Access Id) :
    Confined access.key.1 access.key.2 access.perform := by
  cases access with
  | save kind record expected batch => exact confined_save kind record expected batch
  | box kind id encoding => exact confined_box kind id encoding
  | unbox kind id encoding => exact confined_unbox kind id encoding
  | get kind id => exact (looks_get kind id).confined
  | loadEvents kind id window => exact (looks_loadEvents kind id window).confined
  | contains kind id => exact (looks_contains kind id).confined
  | containsAt kind id version => exact (looks_containsAt kind id version).confined
  | saveRoot codec snapshots t root expected =>
    exact confined_saveRoot codec snapshots t root expected
  | load codec snapshots t A id => exact confined_load codec snapshots t A id
  | loadAt codec snapshots t A id version =>
    exact confined_loadAt codec snapshots t A id version
  | events codec snapshots t A id upTo => exact confined_events codec snapshots t A id upTo
  | seed codec A ids now id payloads => exact confined_seed codec A ids now id payloads
  | seedRaw kind eventId now id eventKind data =>
    exact confined_seedRaw kind eventId now id eventKind data

/-- **Aggregates are independent.**  Take any store that can be reached, and anything that can be
done with one aggregate and with another one, which may have the same identifier under another kind.
The first leaves the slots of all aggregates but its own.  And the two can be done in either order:
each has the same answer, and the stores behind them have the same slots, so the same entries. -/
theorem independent [Identifier.Unmistakable Id] (operations : List (Operation Id))
    (first second : Access Id) :
    let m := (Memory.empty : Memory Id).runAll operations
    (∀ kind id, first.key ≠ (kind, id) → (first.perform m).2.slot? kind id = m.slot? kind id) ∧
    (first.key ≠ second.key →
      (first.perform (second.perform m).2).1 = (first.perform m).1 ∧
      (second.perform (first.perform m).2).1 = (second.perform m).1 ∧
      (∀ kind id, (first.perform (second.perform m).2).2.slot? kind id =
        (second.perform (first.perform m).2).2.slot? kind id) ∧
      (first.perform (second.perform m).2).2.slots.entries.Perm
        (second.perform (first.perform m).2).2.slots.entries) := by
  intro m
  refine ⟨(confined_perform first).elsewhere m, fun hne => ?_⟩
  have hkeeps (kind : String) (id : Id) : ∃ history, m.Keeps kind id history :=
    let ⟨_, h⟩ := (Memory.keeps_empty kind id).runAll operations
    ⟨_, h⟩
  obtain ⟨history, hfirst⟩ := hkeeps first.key.1 first.key.2
  obtain ⟨history', hsecond⟩ := hkeeps second.key.1 second.key.2
  obtain ⟨hanswer, hanswer', hslots⟩ :=
    (confined_perform first).commute (confined_perform second) hne hfirst hsecond
  exact ⟨hanswer, hanswer', hslots, perm_entries hslots⟩

/-- A counter and a ledger of one identifier come into being, in either order; a second counter
does not. -/
theorem independent_of_kind :
    let event : NewEvent := ⟨.nil, "opened", 1, [], .epoch, .unknown⟩
    let counter : Access String := .save "counter" ⟨"c", 1, none, false, none⟩ 0 [event]
    let ledger : Access String := .save "ledger" ⟨"c", 1, none, false, none⟩ 0 [event]
    let m := (Memory.empty : Memory String)
    counter.key ≠ ledger.key ∧
      (counter.perform m).1 = .ok 1 ∧ (counter.perform (counter.perform m).2).1 =
        .error (.conflict ⟨0, 1⟩) ∧
      (counter.perform (ledger.perform m).2).1 = .ok 1 ∧
      (ledger.perform (counter.perform m).2).1 = .ok 1 ∧
      (counter.perform (ledger.perform m).2).2.slots.entries.Perm
        (ledger.perform (counter.perform m).2).2.slots.entries := by
  intro event counter ledger m
  have hkeys : counter.key ≠ ledger.key := by decide
  obtain ⟨hcounter, hledger, -, hperm⟩ := (independent [] counter ledger).2 hkeys
  exact ⟨hkeys, rfl, rfl, hcounter, hledger, hperm⟩

end Access

end EventSourcing
