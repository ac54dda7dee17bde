import EventSourcing.Identifier.Basic
import EventSourcing.Text.Search

/-!
# Identifiers of the sample aggregates

Each kind of aggregates has identifiers of its own, wrapped around one of the basic types.

## Main Definitions

* `PostId`, `AccountId`, `Slug`, `SeqId`, `OffsetId` — the wrapped types.
* `FragileId` — an identifier that cannot always be stored.
-/

namespace EventSourcing.Sample

/-- The identifier of a post. -/
structure PostId where
  uuid : Uuid

instance : Identifier PostId := .wrapped "PostId" PostId.mk PostId.uuid fun _ => rfl

/-- The identifier of an account. -/
structure AccountId where
  uuid : Uuid

instance : Identifier AccountId := .wrapped "AccountId" AccountId.mk AccountId.uuid fun _ => rfl

/-- A short name. -/
structure Slug where
  text : String

instance : Identifier Slug := .wrapped "Slug" Slug.mk Slug.text fun _ => rfl

/-- A number in a sequence. -/
structure SeqId where
  number : UInt64

instance : Identifier SeqId := .wrapped "SeqId" SeqId.mk SeqId.number fun _ => rfl

/-- A signed offset. -/
structure OffsetId where
  offset : Int64

instance : Identifier OffsetId := .wrapped "OffsetId" OffsetId.mk OffsetId.offset fun _ => rfl

/-- A text that cannot always be stored. -/
structure FragileId where
  text : String
  deriving DecidableEq

namespace FragileId

/-- Whether the text contains a word. -/
def mentions (word : String) (a : FragileId) : Bool := Text.contains word a.text

/-- A text that contains `no-write` is not stored at all; one that contains `no-read` is stored as
nothing and cannot be read again. -/
instance : Identifier FragileId where
  typeName := "FragileId"
  sentinel := ⟨""⟩
  isEmpty a := Text.isBlank a.text
  text a := a.text
  diagnostic a := "FragileId(" ++ Text.quoted a.text ++ ")"
  order a b := compareOfLessAndEq a.text b.text
  schema := .option .string
  write a :=
    if a.mentions "no-write" then .error "identifier refuses to be written"
    else if a.mentions "no-read" then .ok none
    else .ok (some a.text)
  read
    | some text => .ok ⟨text⟩
    | none => .error (.wrongType .null "a string")
  decEq := inferInstance

end FragileId
end EventSourcing.Sample
