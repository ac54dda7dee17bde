import EventSourcing.Proofs.Repository.OnMemory
import EventSourcing.Testing.Seeding

/-!
# Seeding stores in memory

Seeding looks at the record of an aggregate and then saves once.

## Main Definitions

* `Memory.seedBatch`, `Memory.rawBatch` — what seeding saves.
* `Seeding.Seeded` — what seeding can do.

## Main Statements

* `Seeding.seed_memory`, `Seeding.seedRaw_memory`, `Seeding.seeded_seed`, `Seeding.seeded_seedRaw` —
  what seeding does.
* `Seeding.exists_seed`, `Seeding.exists_seedRaw` — seeding is at most one call of the store.
* `Seeding.seed_again`, `Seeding.seedRaw_again` — seeding that fails changes nothing and fails
  again.
-/

namespace EventSourcing

variable [Counting] {τ Id : Type} [Identifier Id]

/-- What seeding events saves: the record, the version that it presents and the batch; or why it
saves nothing. -/
def Memory.seedBatch (codec : Codec) (A : Aggregate Id) (ids : Nat → Uuid) (now : Instant) (id : Id)
    (events : List A.Event) (m : Memory Id) :
    Except Seeding.SeedError (Record Id × Nat × List NewEvent) := do
  let current ←
    match m.get A.kind id with
    | .found record => pure (some record)
    | .notFound => pure none
    | .archived => throw (.save .archived)
  let batch ← Seeding.encodedFrom A codec now ids (Seeding.versionOf current) events
  return (Seeding.recordBehind id current (plus (Seeding.versionOf current) batch.length),
    Seeding.versionOf current, batch)

/-- What seeding an event of any kind saves. -/
def Memory.rawBatch (kind : String) (eventId : Uuid) (now : Instant) (id : Id) (eventKind : String)
    (data : Bytes) (m : Memory Id) : Record Id × Nat × List NewEvent :=
  let current :=
    match m.get kind id with
    | .found record => some record
    | _ => none
  (Seeding.recordBehind id current (plus (Seeding.versionOf current) 1),
    Seeding.versionOf current,
    [⟨eventId, eventKind, plus (Seeding.versionOf current) 1, data, now, Seeding.originator⟩])

namespace Seeding

variable (codec : Codec) (m : Memory Id) (t : τ)

/-- The last step of seeding: a save whose answer is of no interest. -/
theorem save_memory {ε : Type} (failure : StoreSaveError → ε) (kind : String) (record : Record Id)
    (expected : Nat) (batch : List NewEvent) :
    ((do
      let _ ← Action.onStore failure ((Memory.backend Id codec).save kind record expected batch)) :
      Action (Memory Id) τ ε Unit) (m, t) =
      match m.save kind record expected batch with
      | (.error e, m') => (.error (failure e), (m', t))
      | (.ok _, m') => (.ok (), (m', t)) := by
  obtain ⟨answer, m', hsave⟩ : ∃ answer m', m.save kind record expected batch = (answer, m') :=
    ⟨_, _, rfl⟩
  have hcall : (Action.onStore failure ((Memory.backend Id codec).save kind record expected batch) :
      Action (Memory Id) τ ε Nat) (m, t) = (answer.mapError failure, (m', t)) := by
    show ((m.save _ _ _ _).1.mapError _, ((m.save _ _ _ _).2, t)) = _
    rw [hsave]
  rw [hsave]
  cases answer with
  | error e => exact bind_of_error hcall
  | ok version => exact bind_of_ok hcall

theorem seed_memory (A : Aggregate Id) (ids : Nat → Uuid) (now : Instant) (id : Id)
    (events : List A.Event) :
    seed (Memory.backend Id codec) A ids now id events (m, t) =
      match m.seedBatch codec A ids now id events with
      | .error e => (.error e, (m, t))
      | .ok (record, expected, batch) =>
        match m.save A.kind record expected batch with
        | (.error e, m') => (.error (.save e), (m', t))
        | (.ok _, m') => (.ok (), (m', t)) := by
  have hget : (Action.onStore (fun e => SeedError.save (.store e))
      ((Memory.backend Id codec).get A.kind id) : Action (Memory Id) τ SeedError _) (m, t) =
      (.ok (m.get A.kind id), (m, t)) := rfl
  -- A new aggregate and a live one differ in the record only.
  have hbehind (current : Option (Record Id)) :
      ((do
        let batch ← Action.of (encodedFrom A codec now ids (versionOf current) events)
        let _ ← Action.onStore .save ((Memory.backend Id codec).save A.kind
          (recordBehind id current (plus (versionOf current) batch.length)) (versionOf current)
          batch) :
        Action (Memory Id) τ SeedError Unit)) (m, t) =
      match (do
        let batch ← encodedFrom A codec now ids (versionOf current) events
        return (recordBehind id current (plus (versionOf current) batch.length), versionOf current,
          batch)) with
      | .error e => (.error e, (m, t))
      | .ok (record, expected, batch) =>
        match m.save A.kind record expected batch with
        | (.error e, m') => (.error (.save e), (m', t))
        | (.ok _, m') => (.ok (), (m', t)) := by
    cases encodedFrom A codec now ids (versionOf current) events with
    | error e => rfl
    | ok batch => exact save_memory codec m t SeedError.save A.kind _ _ batch
  rw [seed, bind_of_ok hget, Memory.seedBatch]
  cases m.get A.kind id with
  | archived => rfl
  | notFound => exact hbehind none
  | found record => exact hbehind (some record)

theorem seedRaw_memory (kind : String) (eventId : Uuid) (now : Instant) (id : Id)
    (eventKind : String) (data : Bytes) :
    seedRaw (Memory.backend Id codec) kind eventId now id eventKind data (m, t) =
      match m.rawBatch kind eventId now id eventKind data with
      | (record, expected, batch) =>
        match m.save kind record expected batch with
        | (.error e, m') => (.error e, (m', t))
        | (.ok _, m') => (.ok (), (m', t)) := by
  have hget : (Action.onStore StoreSaveError.store ((Memory.backend Id codec).get kind id) :
      Action (Memory Id) τ StoreSaveError _) (m, t) = (.ok (m.get kind id), (m, t)) := rfl
  rw [seedRaw, bind_of_ok hget, Memory.rawBatch]
  cases m.get kind id with
  | archived => exact save_memory codec m t (fun e => e) kind _ _ _
  | notFound => exact save_memory codec m t (fun e => e) kind _ _ _
  | found record => exact save_memory codec m t (fun e => e) kind _ _ _

omit [Identifier Id] in
/-- There is an encoded event for each that is seeded. -/
theorem length_encodedFrom {A : Aggregate Id} {now : Instant} {ids : Nat → Uuid} {version : Nat}
    {events : List A.Event} {batch : List NewEvent}
    (h : encodedFrom A codec now ids version events = .ok batch) :
    batch.length = events.length := by
  induction events generalizing ids version batch with
  | nil =>
    cases h
    rfl
  | cons e rest ih =>
    rw [encodedFrom] at h
    split at h
    · cases h
    · obtain ⟨batch', hbatch, h⟩ := bind_eq_ok.mp h
      cases h
      rw [List.length_cons, ih hbatch, List.length_cons]

/-- What seeding saves is of the aggregate. -/
theorem seedBatch_eq_ok {A : Aggregate Id} {ids : Nat → Uuid} {now : Instant} {id : Id}
    {events : List A.Event} {record : Record Id} {expected : Nat} {batch : List NewEvent}
    (h : m.seedBatch codec A ids now id events = .ok (record, expected, batch)) :
    record.aggregate = id ∧ batch.length = events.length := by
  rw [Memory.seedBatch] at h
  cases hget : m.get A.kind id with
  | archived =>
    rw [hget] at h
    cases h
  | notFound | found =>
    rw [hget] at h
    obtain ⟨current, -, h⟩ := bind_eq_ok.mp h
    obtain ⟨batch', hbatch, h⟩ := bind_eq_ok.mp h
    cases h
    exact ⟨rfl, length_encodedFrom codec hbatch⟩

/-- The last step of seeding leaves the store behind its save. -/
theorem exists_answer {ε : Type} (failure : StoreSaveError → ε) (kind : String) (record : Record Id)
    (expected : Nat) (batch : List NewEvent) :
    ∃ answer : Except ε Unit, ∀ (τ : Type) (t : τ),
      (match m.save kind record expected batch with
        | (.error e, m') => (.error (failure e), (m', t))
        | (.ok _, m') => (.ok (), (m', t)) : Except ε Unit × Memory Id × τ) =
        (answer, ((m.save kind record expected batch).2, t)) := by
  obtain ⟨answer, m', hsave⟩ : ∃ answer m', m.save kind record expected batch = (answer, m') :=
    ⟨_, _, rfl⟩
  rw [hsave]
  cases answer with
  | error e => exact ⟨.error (failure e), fun τ t => rfl⟩
  | ok version => exact ⟨.ok (), fun τ t => rfl⟩

/-- What seeding saves says of tenant and deletion what is stored of them. -/
theorem record_of_seedBatch {A : Aggregate Id} {ids : Nat → Uuid} {now : Instant} {id : Id}
    {events : List A.Event} {record : Record Id} {expected : Nat} {batch : List NewEvent}
    (h : m.seedBatch codec A ids now id events = .ok (record, expected, batch)) :
    ∃ current version, (∀ stored, current = some stored → m.get A.kind id = .found stored) ∧
      record = recordBehind id current version := by
  rw [Memory.seedBatch] at h
  cases hget : m.get A.kind id with
  | archived =>
    rw [hget] at h
    cases h
  | notFound | found =>
    rw [hget] at h
    obtain ⟨current, hcurrent, h⟩ := bind_eq_ok.mp h
    obtain ⟨batch', -, h⟩ := bind_eq_ok.mp h
    cases h
    cases hcurrent
    exact ⟨_, _, fun stored hstored => by cases hstored <;> rfl, rfl⟩

theorem record_of_rawBatch {kind : String} {eventId : Uuid} {now : Instant} {id : Id}
    {eventKind : String} {data : Bytes} {record : Record Id} {expected : Nat}
    {batch : List NewEvent}
    (h : m.rawBatch kind eventId now id eventKind data = (record, expected, batch)) :
    ∃ current version, (∀ stored, current = some stored → m.get kind id = .found stored) ∧
      record = recordBehind id current version := by
  cases h
  refine ⟨_, _, fun stored hstored => ?_, rfl⟩
  cases hget : m.get kind id with
  | archived | notFound =>
    rw [hget] at hstored
    cases hstored
  | found =>
    rw [hget] at hstored
    cases hstored
    rfl

/-- What seeding can do: it fails and changes nothing, or the store accepts a batch of the
aggregate. -/
inductive Seeded {ε : Type} (kind : String) (id : Id) (count : Nat) (m : Memory Id) :
    Except ε Unit × Memory Id → Prop where
  | refused (e : ε) : Seeded kind id count m (.error e, m)
  | accepted (record : Record Id) (expected : Nat) (batch : List NewEvent) (version : Nat)
      (m' : Memory Id) (haggregate : record.aggregate = id) (hlength : batch.length = count)
      (hsave : m.save kind record expected batch = (.ok version, m')) :
      Seeded kind id count m (.ok (), m')

/-- The last step of seeding does what seeding can do. -/
theorem seeded_save {ε : Type} (failure : StoreSaveError → ε) (kind : String) (record : Record Id)
    (expected : Nat) (batch : List NewEvent) :
    ∃ result, Seeded kind record.aggregate batch.length m result ∧ ∀ (τ : Type) (t : τ),
      (match m.save kind record expected batch with
        | (.error e, m') => (.error (failure e), (m', t))
        | (.ok _, m') => (.ok (), (m', t)) : Except ε Unit × Memory Id × τ) =
        (result.1, (result.2, t)) := by
  obtain ⟨answer, m', hsave⟩ : ∃ answer m', m.save kind record expected batch = (answer, m') :=
    ⟨_, _, rfl⟩
  rw [hsave]
  cases answer with
  | error e =>
    have hkept := Memory.save_of_error (congrArg Prod.fst hsave)
    rw [hsave] at hkept
    cases hkept
    exact ⟨_, .refused (failure e), fun τ t => rfl⟩
  | ok version =>
    exact ⟨_, .accepted record expected batch version m' rfl rfl hsave, fun τ t => rfl⟩

/-- **Seeding does what it can.** -/
theorem seeded_seed (A : Aggregate Id) (ids : Nat → Uuid) (now : Instant) (id : Id)
    (events : List A.Event) :
    ∃ result, Seeded A.kind id events.length m result ∧ ∀ (τ : Type) (t : τ),
      seed (Memory.backend Id codec) A ids now id events (m, t) = (result.1, (result.2, t)) := by
  simp only [seed_memory]
  cases hbatch : m.seedBatch codec A ids now id events with
  | error e => exact ⟨_, .refused e, fun τ t => rfl⟩
  | ok batch =>
    obtain ⟨record, expected, batch⟩ := batch
    obtain ⟨rfl, hlength⟩ := seedBatch_eq_ok codec m hbatch
    rw [← hlength]
    exact seeded_save m SeedError.save A.kind record expected batch

theorem seeded_seedRaw (kind : String) (eventId : Uuid) (now : Instant) (id : Id)
    (eventKind : String) (data : Bytes) :
    ∃ result, Seeded kind id 1 m result ∧ ∀ (τ : Type) (t : τ),
      seedRaw (Memory.backend Id codec) kind eventId now id eventKind data (m, t) =
        (result.1, (result.2, t)) := by
  obtain ⟨record, expected, batch, hbatch, rfl, hlength⟩ : ∃ record expected batch,
      m.rawBatch kind eventId now id eventKind data = (record, expected, batch) ∧
      record.aggregate = id ∧ batch.length = 1 := ⟨_, _, _, rfl, rfl, rfl⟩
  simp only [seedRaw_memory, hbatch]
  rw [← hlength]
  exact seeded_save m (fun e => e) kind record expected batch

/-- Whatever seeding does is at most one call of the store. -/
theorem Seeded.of_after {ε : Type} {kind : String} {id : Id} {count : Nat}
    {result : Except ε Unit × Memory Id} (h : Seeded kind id count m result) :
    result.2 = m ∨ ∃ call, result.2 = m.after call := by
  cases h with
  | refused e => exact .inl rfl
  | accepted record expected batch version m' haggregate hlength hsave =>
    exact .inr ⟨.save kind record expected batch, by rw [Memory.after, hsave]⟩

/-- Seeding is at most one call of the store. -/
theorem exists_seed (A : Aggregate Id) (ids : Nat → Uuid) (now : Instant) (id : Id)
    (events : List A.Event) :
    ∃ answer m', (m' = m ∨ ∃ call, m' = m.after call) ∧ ∀ (τ : Type) (t : τ),
      seed (Memory.backend Id codec) A ids now id events (m, t) = (answer, (m', t)) := by
  obtain ⟨result, hseeded, hseed⟩ := seeded_seed codec m A ids now id events
  exact ⟨result.1, result.2, hseeded.of_after, hseed⟩

theorem exists_seedRaw (kind : String) (eventId : Uuid) (now : Instant) (id : Id)
    (eventKind : String) (data : Bytes) :
    ∃ answer m', (m' = m ∨ ∃ call, m' = m.after call) ∧ ∀ (τ : Type) (t : τ),
      seedRaw (Memory.backend Id codec) kind eventId now id eventKind data (m, t) =
        (answer, (m', t)) := by
  obtain ⟨result, hseeded, hseed⟩ := seeded_seedRaw codec m kind eventId now id eventKind data
  exact ⟨result.1, result.2, hseeded.of_after, hseed⟩

/-! ### Seeding again -/

variable {codec m t}

omit [Identifier Id] in
/-- Whether events can be encoded does not depend on the identifiers and times that they get, nor do
their versions. -/
theorem encodedFrom_again {A : Aggregate Id} (now now' : Instant) (ids ids' : Nat → Uuid)
    (version : Nat) (events : List A.Event) :
    (∃ e, encodedFrom A codec now ids version events = .error e ∧
      encodedFrom A codec now' ids' version events = .error e) ∨
    ∃ batch batch', encodedFrom A codec now ids version events = .ok batch ∧
      encodedFrom A codec now' ids' version events = .ok batch' ∧
      batch.map NewEvent.version = batch'.map NewEvent.version := by
  induction events generalizing ids ids' version with
  | nil => exact .inr ⟨[], [], rfl, rfl, rfl⟩
  | cons e rest ih =>
    rw [encodedFrom, encodedFrom]
    cases A.events.encode codec e with
    | error reason => exact .inl ⟨_, rfl, rfl⟩
    | ok data =>
      rcases ih (fun i => ids (i + 1)) (fun i => ids' (i + 1)) (plus version 1) with
        ⟨e', hrest, hrest'⟩ | ⟨batch, batch', hrest, hrest', hversions⟩
      · exact .inl ⟨e', by simp only [hrest]; rfl, by simp only [hrest']; rfl⟩
      · refine .inr ⟨_, _, by simp only [hrest]; rfl, by simp only [hrest']; rfl, ?_⟩
        rw [List.map_cons, List.map_cons, hversions]

/-- What seeding saves depends on the identifiers and times of the events in the batch only, and
there in nothing but them. -/
theorem seedBatch_again {A : Aggregate Id} (now now' : Instant) (ids ids' : Nat → Uuid) (id : Id)
    (events : List A.Event) :
    (∃ e, m.seedBatch codec A ids now id events = .error e ∧
      m.seedBatch codec A ids' now' id events = .error e) ∨
    ∃ record expected batch batch',
      m.seedBatch codec A ids now id events = .ok (record, expected, batch) ∧
      m.seedBatch codec A ids' now' id events = .ok (record, expected, batch') ∧
      batch.map NewEvent.version = batch'.map NewEvent.version := by
  have hbehind (current : Option (Record Id)) (batchOf : (Nat → Uuid) → Instant →
      Except SeedError (Record Id × Nat × List NewEvent))
      (h : ∀ ids now, batchOf ids now = do
        let batch ← encodedFrom A codec now ids (versionOf current) events
        return (recordBehind id current (plus (versionOf current) batch.length), versionOf current,
          batch)) :
      (∃ e, batchOf ids now = .error e ∧ batchOf ids' now' = .error e) ∨
      ∃ record expected batch batch', batchOf ids now = .ok (record, expected, batch) ∧
        batchOf ids' now' = .ok (record, expected, batch') ∧
        batch.map NewEvent.version = batch'.map NewEvent.version := by
    rw [h, h]
    rcases encodedFrom_again now now' ids ids' (versionOf current) events with
      ⟨e, hbatch, hbatch'⟩ | ⟨batch, batch', hbatch, hbatch', hversions⟩
    · rw [hbatch, hbatch']
      exact .inl ⟨e, rfl, rfl⟩
    · have hlength := congrArg List.length hversions
      rw [List.length_map, List.length_map] at hlength
      rw [hbatch, hbatch']
      refine .inr ⟨_, _, batch, batch', rfl, ?_, hversions⟩
      rw [hlength]
      rfl
  unfold Memory.seedBatch
  cases m.get A.kind id with
  | archived => exact .inl ⟨_, rfl, rfl⟩
  | notFound => exact hbehind none _ fun ids now => rfl
  | found record => exact hbehind (some record) _ fun ids now => rfl

/-- The last step of seeding, if it fails, changes nothing and fails again with another batch of the
same versions. -/
theorem save_again {ε : Type} {failure : StoreSaveError → ε} {kind : String} {record : Record Id}
    {expected : Nat} {batch batch' : List NewEvent} {e : ε}
    (hversions : batch.map NewEvent.version = batch'.map NewEvent.version)
    (h : (match m.save kind record expected batch with
      | (.error e, m') => (.error (failure e), (m', t))
      | (.ok _, m') => (.ok (), (m', t)) : Except ε Unit × Memory Id × τ).1 = .error e) :
    (match m.save kind record expected batch' with
      | (.error e, m') => (.error (failure e), (m', t))
      | (.ok _, m') => (.ok (), (m', t)) : Except ε Unit × Memory Id × τ) =
      (.error e, (m, t)) := by
  obtain ⟨answer, m', hsave⟩ : ∃ answer m', m.save kind record expected batch = (answer, m') :=
    ⟨_, _, rfl⟩
  rw [hsave] at h
  cases answer with
  | ok version => cases h
  | error refusal =>
    cases h
    have hrefused : (m.save kind record expected batch').1 = .error refusal := by
      rw [← Memory.save_congr hversions, hsave]
    rw [Memory.save_of_error hrefused]

/-- Seeding that fails changes nothing, and fails again with other identifiers at another time. -/
theorem seed_again {A : Aggregate Id} {ids : Nat → Uuid} {now : Instant} {id : Id}
    {events : List A.Event} {e : SeedError}
    (h : (seed (Memory.backend Id codec) A ids now id events (m, t)).1 = .error e)
    (ids' : Nat → Uuid) (now' : Instant) :
    seed (Memory.backend Id codec) A ids' now' id events (m, t) = (.error e, (m, t)) := by
  rw [seed_memory] at h ⊢
  rcases seedBatch_again now now' ids ids' id events with
    ⟨e', hbatch, hbatch'⟩ | ⟨record, expected, batch, batch', hbatch, hbatch', hversions⟩
  · rw [hbatch] at h
    cases h
    rw [hbatch']
  · simp only [hbatch] at h
    simp only [hbatch']
    exact save_again hversions h

theorem seedRaw_again {kind : String} {eventId : Uuid} {now : Instant} {id : Id}
    {eventKind : String} {data : Bytes} {e : StoreSaveError}
    (h : (seedRaw (Memory.backend Id codec) kind eventId now id eventKind data (m, t)).1 = .error e)
    (eventId' : Uuid) (now' : Instant) :
    seedRaw (Memory.backend Id codec) kind eventId' now' id eventKind data (m, t) =
      (.error e, (m, t)) := by
  obtain ⟨record, expected, hbatch⟩ : ∃ record expected, ∀ eventId now,
      m.rawBatch kind eventId now id eventKind data =
        (record, expected, [⟨eventId, eventKind, plus expected 1, data, now, originator⟩]) :=
    ⟨_, _, fun _ _ => rfl⟩
  rw [seedRaw_memory] at h ⊢
  simp only [hbatch] at h ⊢
  refine save_again ?_ h
  rfl

end Seeding

end EventSourcing
