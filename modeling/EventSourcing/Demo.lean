import EventSourcing.Json.Inspect
import EventSourcing.Repository.Save
import EventSourcing.Sample.Account
import EventSourcing.Testing.Seeding

/-!
# A tour of an account's life

The demonstration opens an account, saves it, meets a broken rule and a conflict, tries again, takes
a snapshot, and moves the account to the archive and back.  It is a pure function of the stamps that
new events get; it reports each step by a line.

## Main Definitions

* `Demo.tour` — the lines, and how it ended.
-/

namespace EventSourcing.Demo

open Sample

/-- The stores of the tour: a memory, and snapshots at every fifth version. -/
abbrev Stores : Type := Memory AccountId × SnapshotMemory AccountId

/-- The tour at work: it reports lines and may end early with a message. -/
abbrev Tour (α : Type) : Type := ExceptT String (StateM (Stores × List String)) α

/-- The repository of the tour. -/
def repository : Repository (Memory AccountId) (SnapshotMemory AccountId) AccountId where
  store := Memory.backend AccountId .json
  snapshots := some (SnapshotMemory.backend AccountId)

/-- Reports a line. -/
def say (line : String) : Tour Unit := modify fun (stores, lines) => (stores, lines ++ [line])

/-- An action on the stores with its answer. -/
def act {ε α : Type} (action : Action (Memory AccountId) (SnapshotMemory AccountId) ε α) :
    Tour (Except ε α) := do
  let (stores, lines) ← get
  let (answer, stores) := action stores
  set (stores, lines)
  return answer

/-- An answer that ends the tour if it is a failure. -/
def must {ε α : Type} (message : ε → String) : Except ε α → Tour α
  | .ok a => pure a
  | .error e => throw (message e)

/-- Carries out a command that must pass. -/
def command (stamps : Nat → Stamp) (c : Command account) (r : Root account) :
    Tour (Root account) := do
  return (← must Violation.text (r.execute stamps c)).2

/-- A truth value as the report shows it. -/
def shown (b : Bool) : String := if b then "true" else "false"

/-- The steps of the tour. -/
def steps (id : AccountId) (stamps : Nat → Stamp) : Tour Unit := do
  let after (n i : Nat) : Stamp := stamps (n + i)
  let root ← must ConstructionError.message (Repository.create account id)
  let root ← command (after 0) (Account.openFor "ada") root
  let root ← command (after 1) (Account.deposit 100) root
  let root ← command (after 2) (Account.withdraw 30) root
  let (committed, root) ← must SaveError.message (← act (repository.save root none))
  say ("committed " ++ toString committed.length ++ " events, now at version " ++
    toString root.version)
  match root.execute (after 3) (Account.withdraw 500) with
  | .error v => say ("rejected: " ++ v.message ++ " " ++ Json.inspectMembers v.parameters)
  | .ok _ => pure ()
  must Seeding.SeedError.message (← act
    (Seeding.seed repository.store account (fun i => (after 3 i).id) (stamps 3).time id
      [AccountEvent.deposited 1]))
  let root ← command (after 4) (Account.deposit 5) root
  match ← act (repository.save root none) with
  | .error (.conflict c) => say c.message
  | .error e => say ("unexpected: " ++ e.message)
  | .ok _ => say "unexpected: saved"
  let root ← must LoadError.message (← act (repository.load account id))
  let root ← command (after 5) (Account.deposit 5) root
  let (_, root) ← must SaveError.message (← act (repository.save root none))
  let ((_, snapshots), _) ← get
  say ("balance " ++ toString (root.state.elim 0 fun s : Account => s.balance.toInt) ++
    " at version " ++ toString root.version ++ ", snapshot at " ++
    Text.optional ((snapshots.versionOf? account.kind id).map fun n => toString n))
  let root := root.markDeleted (stamps 6).time
  let _ ← must SaveError.message (← act (repository.save root none))
  must ArchiveError.message (← act (Action.onStore (fun e => e)
    (repository.store.box account.kind id .json)))
  let alive ← must StoreError.message (← act (Action.onStore (fun e => e)
    (repository.store.contains account.kind id)))
  say ("archived: exists = " ++ shown alive)
  let _ ← must ArchiveError.message (← act (Action.onStore (fun e => e)
    (repository.store.unbox account.kind id .json)))
  let restored ← must LoadError.message (← act (repository.load account id))
  say ("restored version " ++ toString restored.version ++ " (deleted = " ++
    shown restored.deleted ++ ")")

/-- The lines of the tour, and the failure if it ended early. -/
def tour (id : AccountId) (stamps : Nat → Stamp) : List String × Option String :=
  let (answer, (_, lines)) := steps id stamps ((Memory.empty, .empty (.interval 5)), [])
  match answer with
  | .ok () => (lines, none)
  | .error message => (lines, some message)

/-- The stamps of events that come into being one millisecond after the other. -/
def everyMillisecond (start : Nat) (i : Nat) : Stamp where
  id := .timeOrdered (start + i) i
  time := (Instant.ofMicros? ((start + i) * 1000)).getD .epoch

end EventSourcing.Demo
