import EventSourcing.Aggregate.Root
import EventSourcing.Store.Failure

/-!
# Why loading and saving fail

## Main Definitions

* `LoadError`, `SaveError` — the causes, each with its wording.
-/

namespace EventSourcing

/-- Why an aggregate is not loaded. -/
inductive LoadError (Id : Type) where
  | notFound (kind : String) (id : Id)
  | archived (kind : String) (id : Id)
  | versionNotFound (kind : String) (id : Id) (requested current : Nat)
  | construction (e : ConstructionError)
  | replay (e : ReplayError Id)
  | eventDecode (e : DecodeError)
  /-- The history that was read does not end at the version that it should. -/
  | inconsistent (recorded found : Nat)
  | store (e : StoreError)
  deriving DecidableEq

/-- An aggregate as messages name it. -/
def aggregateName {Id : Type} [Identifier Id] (kind : String) (id : Id) : String :=
  "aggregate `" ++ kind ++ "` " ++ Identifier.text id

/-- The wording of a failure. -/
def LoadError.message {Id : Type} [Identifier Id] : LoadError Id → String
  | .notFound kind id => aggregateName kind id ++ " not found"
  | .archived kind id => aggregateName kind id ++ " is archived"
  | .versionNotFound kind id requested current =>
    aggregateName kind id ++ " has no version " ++ toString requested ++ "; current version is " ++
      toString current
  | .construction e => e.message
  | .replay e => "failed to replay history: " ++ e.message
  | .eventDecode e => "failed to decode stored event: " ++ e.message
  | .inconsistent recorded found =>
    "stored history ends at version " ++ toString found ++ ", expected " ++ toString recorded
  | .store e => "failed to load aggregate: " ++ e.message

/-- Why an aggregate is not saved. -/
inductive SaveError (Id : Type) where
  | conflict (c : Conflict)
  | flush (e : FlushError Id)
  /-- An event cannot be encoded. -/
  | codec (kind reason : String)
  | archived (kind : String) (id : Id)
  | invalidBatch (expected found : Nat)
  | store (e : StoreError)
  deriving DecidableEq

/-- The wording of an event that cannot be encoded. -/
def encodeFailureMessage (kind reason : String) : String :=
  "failed to encode `" ++ kind ++ "` event: " ++ reason

/-- The wording of a failure. -/
def SaveError.message {Id : Type} [Identifier Id] : SaveError Id → String
  | .conflict c => c.message
  | .flush e => "cannot commit buffered events: " ++ e.message
  | .codec kind reason => encodeFailureMessage kind reason
  | .archived kind id => aggregateName kind id ++ " is archived"
  | .invalidBatch expected found =>
    "store rejected event batch: expected version " ++ toString expected ++ ", found " ++
      toString found
  | .store e => "failed to persist events: " ++ e.message

end EventSourcing
