import EventSourcing.Testing.Session.Basic

/-!
# Running sessions

## Main Definitions

* `Session.onHandle`, `Session.onRequest` — the reply to a request and the session behind it.
* `Session.mint` — the identifiers of new events.
-/

namespace EventSourcing.Session

variable {Id : Type} [Identifier Id] {subjects : List (Subject Id)}

/-- A step of a session. -/
abbrev Step (subjects : List (Subject Id)) (α : Type) : Type :=
  ExceptT (SessionError Id) (StateM (Session subjects)) α

/-- The time in the identifiers of new events, in milliseconds. -/
def mintTime : Nat := 0x5EED00000000

/-- The identifier of the `n`-th new event. -/
def mint (n : Nat) : Uuid := .timeOrdered mintTime n

/-- The identifiers of the next new events. -/
def ids (s : Session subjects) (i : Nat) : Uuid := mint (s.minted + 1 + i)

/-- The stamps of the next new events. -/
def stamps (s : Session subjects) (i : Nat) : Stamp := ⟨s.ids i, s.clock⟩

/-- Uses up the identifiers of new events. -/
def took (n : Nat) : Step subjects Unit := modify fun s => { s with minted := s.minted + n }

/-- An answer that is there already. -/
def answer {ε α : Type} (failure : ε → SessionError Id) : Except ε α → Step subjects α
  | .ok a => pure a
  | .error e => throw (failure e)

/-- What there is, or the failure that there is no such thing. -/
def known {α : Type} : Option α → Step subjects α
  | some a => pure a
  | none => throw .unknown

/-- An action on the stores. -/
def act {ε α : Type} (failure : ε → SessionError Id)
    (action : Action (FaultyMemory Id) (FaultySnapshots Id) ε α) : Step subjects α := do
  let s ← get
  let (result, (store, snapshots)) := action (s.store, s.snapshots)
  set { s with store := store, snapshots := snapshots }
  answer failure result

/-- An operation of the store. -/
def onStore {ε α : Type} (failure : ε → SessionError Id)
    (op : Backend (FaultyMemory Id) Id → StateM (FaultyMemory Id) (Except ε α)) :
    Step subjects α :=
  act failure (Action.onStore (fun e => e) (op (FaultyMemory.backend Id)))

/-- The repository of the session, with snapshots or without. -/
def repository (s : Session subjects) (plain : Bool) :
    Repository (FaultyMemory Id) (FaultySnapshots Id) Id where
  store := FaultyMemory.backend Id
  snapshots := if s.snapshotting && !plain then some (FaultySnapshots.backend Id) else none

/-- The event of a specification. -/
def event (A : Aggregate Id) (spec : EventSpec) : Step subjects A.Event :=
  answer .decode (A.events.decode .json spec.kind spec.data)

/-- The envelope of a specification; `id` is the aggregate that is meant if none is given. -/
def envelope (A : Aggregate Id) (id : Id) (spec : EnvelopeSpec Id) :
    Step subjects (Envelope Id A.Event) := do
  let payload ← event A spec.event
  let aggregate := spec.aggregate.getD id
  match spec.version with
  | some _ => return ⟨spec.id, aggregate, spec.version, payload, spec.time, spec.originator⟩
  | none =>
    let s ← get
    took 1
    return .new ⟨s.ids 0, spec.time⟩ aggregate spec.originator payload

/-- The index of a kind. -/
def indexOf (kind : String) : Step subjects (Fin subjects.length) :=
  known ((List.finRange subjects.length).find? fun i => (subjects.get i).aggregate.kind = kind)

/-! ### Roots that the client holds -/

/-- Keeps events under a name. -/
def keep (name : Option String) (held : HeldEvents subjects) : Step subjects (Reply subjects) := do
  if let some name := name then
    modify fun s => { s with kept := (name, held) :: s.kept }
  return .events held

/-- Changes the root of a handle. -/
def put (name : String) (held : Held subjects) : Step subjects Unit :=
  modify fun s => { s with handles := s.handles.set name held }

/-- The events of a kept list as those of a kind.  Kinds that share their types of events can take
each other's lists. -/
def keptEvents (held : HeldEvents subjects) (i : Fin subjects.length) :
    Option (List (Envelope Id (subjects.get i).aggregate.Event)) :=
  if h : held.index = i then some (h ▸ held.events)
  else
    held.events.mapM fun e =>
      ((subjects.get held.index).aggregate.events.carry? (subjects.get i).aggregate.events
        e.payload).map e.withPayload

/-- A call on the root of a handle, which is there behind the call whatever it answers. -/
def call {ε α : Type} (failure : ε → SessionError Id) (name : String) (held : Held subjects)
    (call : Root.InPlace (subjects.get held.index).aggregate ε α) : Step subjects α := do
  let (result, root) := call held.root
  put name { held with root := root }
  answer failure result

/-- An action on the root of a handle and on the stores. -/
def actOn {ε α : Type} (failure : ε → SessionError Id) (name : String) (held : Held subjects)
    (action : ActionOn (subjects.get held.index).aggregate (FaultyMemory Id) (FaultySnapshots Id)
      ε α) : Step subjects α := do
  let s ← get
  let (result, root, store, snapshots) := action (held.root, s.store, s.snapshots)
  set { s with store := store, snapshots := snapshots }
  put name { held with root := root }
  answer failure result

/-- The reply to a request about a root. -/
def onHandle (name : String) (request : HandleRequest Id) : Step subjects (Reply subjects) := do
  let s ← get
  let held ← known (s.handles.get? name)
  let A := (subjects.get held.index).aggregate
  match request with
  | .state => return .nothing
  | .apply spec =>
    let payload ← event A spec
    put name { held with root := held.root.apply (s.stamps 0) payload }
    took 1
    return .nothing
  | .execute command arguments =>
    let command ← known ((subjects.get held.index).command? command arguments)
    let violation := (subjects.get held.index).violation
    let n ← call (fun e => .violation (violation e)) name held (.execute s.stamps command)
    took n
    return .number n
  | .record spec =>
    let e ← envelope A held.root.id spec
    put name { held with root := held.root.record e }
    return .nothing
  | .changes kept => keep kept ⟨held.index, held.root.pending⟩
  | .flush kept =>
    let events ← call .flush name held .flush
    keep kept ⟨held.index, events⟩
  | .save expected plain kept =>
    let events ← actOn .save name held ((s.repository plain).saveInPlace expected)
    keep kept ⟨held.index, events⟩
  | .rehydrate history =>
    let events ← history.mapM (envelope A held.root.id)
    call .replay name held (.rehydrate events)
    return .nothing
  | .rehydrateKept list start stop =>
    let events ← known ((s.kept.lookup list).bind fun kept => keptEvents kept held.index)
    let events := (events.take (stop.getD events.length)).drop (start.getD 0)
    call .replay name held (.rehydrate events)
    return .nothing
  | .markDeleted =>
    put name { held with root := held.root.markDeleted s.clock }
    return .nothing
  | .undelete =>
    put name { held with root := held.root.undelete }
    return .nothing
  | .setOriginator originator =>
    put name { held with root := { held.root with originator := originator } }
    return .nothing
  | .rootClock => return .time s.clock
  | .diagnostic =>
    return .text (if s.handles.isShared name then held.root.sharedDiagnostic
      else held.root.diagnostic)
  | .share =>
    set { s with handles := s.handles.share name }
    return .nothing
  | .clone copy =>
    set { s with handles := s.handles.clone name copy }
    return .nothing
  | .unwrap =>
    let (unwrapped, handles) := s.handles.unwrap name
    set { s with handles := handles }
    return .truth unwrapped
  | .drop =>
    set { s with handles := s.handles.drop name }
    return .nothing

/-! ### Other requests -/

/-- The root that is asked for. -/
def rootOf (A : Aggregate Id) (id : Id) (request : RootRequest) : Step subjects (Root A) := do
  let s ← get
  match request with
  | .create version tenant originator =>
    let root ← answer .construction
      (match version with
        | some version => Root.start A id version
        | none => Repository.create A id)
    return { root with tenant := tenant, originator := originator }
  | .shell version tenant => answer .construction (Root.shell A id version tenant)
  | .load plain => act .load ((s.repository plain).load A id)
  | .loadAt version => act .load ((s.repository true).loadAt A id version)

/-- The reply to any other request. -/
def onRequest (request : Request Id) : Step subjects (Reply subjects) := do
  let s ← get
  match request with
  | .root kind id name request =>
    let i ← indexOf kind
    let held : Held subjects := ⟨i, ← rootOf (subjects.get i).aggregate id request⟩
    modify fun s => { s with handles := s.handles.own name held }
    return .root held
  | .events kind id upTo =>
    let i ← indexOf kind
    let events ← act .load ((s.repository true).events (subjects.get i).aggregate id upTo)
    return .events ⟨i, events⟩
  | .seed kind id specs =>
    let i ← indexOf kind
    let A := (subjects.get i).aggregate
    let events ← specs.mapM (event A)
    act .seed (Seeding.seed (FaultyMemory.backend Id) A s.ids s.clock id events)
    took events.length
    return .nothing
  | .seedRaw kind id spec =>
    act .storeSave
      (Seeding.seedRaw (FaultyMemory.backend Id) kind (s.ids 0) s.clock id spec.kind spec.data)
    took 1
    return .nothing
  | .contains kind id => return .truth (← onStore .store fun b => b.contains kind id)
  | .containsAt kind id version =>
    return .truth (← onStore .store fun b => b.containsAt kind id version)
  | .box kind id encoding =>
    onStore .archive fun b => b.box kind id encoding
    return .nothing
  | .unbox kind id encoding =>
    return .lookup (.found (← onStore .archive fun b => b.unbox kind id encoding))
  | .get kind id => return .lookup (← onStore .store fun b => b.get kind id)
  | .loadEvents kind id window =>
    return .storedEvents (← onStore .store fun b => b.loadEvents kind id window)
  | .save kind record expected events =>
    return .number (← onStore .storeSave fun b => b.save kind record expected events)
  | .archiveEncoding kind id =>
    return .optionalText ((s.store.memory.archiveEncoding? kind id).map Encoding.name)
  | .putSnapshot kind id snapshot =>
    let memory := s.snapshots.memory.put kind id snapshot
    set { s with snapshots := { s.snapshots with memory := memory } }
    return .nothing
  | .snapshot kind id =>
    return .snapshot (s.snapshots.memory.versionOf? kind id) s.snapshots.memory.size
      s.snapshots.calls
  | .expired kind cutoff => return .identifiers (← onStore .store fun b => b.expired kind cutoff)
  | .clock start advance =>
    let clock := start.getD s.clock
    match clock.addMicros? (advance.getD 0) with
    | some clock =>
      set { s with clock := clock }
      return .time clock
    | none =>
      set { s with clock := clock }
      throw .clockOverflow
  | .storeDiagnostic => return .text s.store.memory.diagnostic
  | .repositoryDiagnostic =>
    return .text (Repository.diagnostic s.store.memory.diagnostic "FSnaps")
  | .snapshotsFail failing =>
    set { s with snapshots := { s.snapshots with failing := failing } }
    return .nothing
  | .codecFail failing =>
    set { s with store := { s.store with codecFails := failing } }
    return .nothing
  | .fault call fault =>
    set { s with store := s.store.expect call fault }
    return .nothing

end EventSourcing.Session
