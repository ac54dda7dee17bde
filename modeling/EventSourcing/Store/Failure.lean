/-!
# Why a store refuses

Failures of a store as causes, each with its wording.

## Main Definitions

* `Conflict` — another version is stored than the one that the caller expected.
* `Encoding` — how archived aggregates are written.
* `StoreError` — the store itself fails.
* `StoreSaveError`, `ArchiveError` — why a batch is not saved, an aggregate not moved to or from
  the archive.
-/

namespace EventSourcing

/-- Another version is stored than the one that the caller expected. -/
structure Conflict where
  expected : Nat
  actual : Nat
  deriving Repr, DecidableEq

/-- The wording of a conflict. -/
def Conflict.message (c : Conflict) : String :=
  if c.expected = 0 then
    "concurrency conflict: expected new aggregate, found version " ++ toString c.actual ++
      " (hint: another process created this aggregate; reload and retry)"
  else
    "concurrency conflict: expected version " ++ toString c.expected ++ ", found " ++
      toString c.actual ++ " (hint: aggregate was modified; reload and retry)"

/-- How archived aggregates are written. -/
inductive Encoding where
  | json
  | prettyJson
  deriving Repr, DecidableEq, Inhabited

/-- The name of an encoding. -/
def Encoding.name : Encoding → String
  | .json => "json"
  | .prettyJson => "pretty-json"

/-- The store itself fails. -/
inductive StoreError where
  /-- An aggregate cannot be written to the archive. -/
  | encodeArchive (kind : String) (encoding : Encoding) (reason : String)
  /-- An aggregate cannot be read from the archive. -/
  | decodeArchive (kind typeName reason : String)
  /-- The store cannot be reached. -/
  | unavailable (reason : String)
  deriving Repr, DecidableEq

/-- The wording of a failure. -/
def StoreError.message : StoreError → String
  | .encodeArchive kind encoding reason =>
    "failed to encode archive of `" ++ kind ++ "` as " ++ encoding.name ++ ": " ++ reason
  | .decodeArchive kind typeName reason =>
    "failed to decode archive of `" ++ kind ++ "` as " ++ typeName ++ ": " ++ reason
  | .unavailable reason => reason

/-- Why a batch is not saved. -/
inductive StoreSaveError where
  | conflict (c : Conflict)
  | archived
  /-- The versions of the batch leave a gap: one version should stand where another is found. -/
  | nonContiguous (expected found : Nat)
  | store (e : StoreError)
  deriving Repr, DecidableEq

/-- The wording of a failure. -/
def StoreSaveError.message : StoreSaveError → String
  | .conflict c => c.message
  | .archived => "aggregate is archived; unbox it before saving"
  | .nonContiguous expected found =>
    "event batch is not contiguous: expected version " ++ toString expected ++ ", found " ++
      toString found
  | .store e => "store error: " ++ e.message

/-- Why an aggregate is not moved to or from the archive. -/
inductive ArchiveError where
  | notFound
  | alreadyArchived
  | notArchived
  | encodingMismatch (stored requested : Encoding)
  | store (e : StoreError)
  deriving Repr, DecidableEq

/-- The wording of a failure. -/
def ArchiveError.message : ArchiveError → String
  | .notFound => "aggregate not found"
  | .alreadyArchived => "aggregate is already archived"
  | .notArchived => "aggregate is not archived"
  | .encodingMismatch stored requested =>
    "archive was written as " ++ stored.name ++ ", not " ++ requested.name
  | .store e => "store error: " ++ e.message

end EventSourcing
