import EventSourcing.Json.Printer
import EventSourcing.Schema.TextReader
import EventSourcing.Schema.Writer

/-!
# Identifiers

What tells aggregates of one kind apart.  Identifiers are compared, shown in messages and stored in
records.  One of them is the identifier of no aggregate; an identifier that counts as empty is
refused wherever an aggregate comes into being.

## Main Definitions

* `Identifier` — a type of identifiers.
* `Identifier.Faithful` — what is stored of an identifier is read back as it was.
* Instances for texts, unsigned and signed integers, and UUIDs.
-/

namespace EventSourcing

/-- A type of identifiers. -/
class Identifier (Id : Type) where
  /-- The name of the type in messages. -/
  typeName : String
  /-- The identifier of no aggregate. -/
  sentinel : Id
  /-- Whether an identifier names no aggregate. -/
  isEmpty : Id → Bool
  /-- The form in messages. -/
  text : Id → String
  /-- The form in diagnostics, which shows the type as well. -/
  diagnostic : Id → String
  /-- The order of identifiers. -/
  order : Id → Id → Ordering
  /-- The stored form. -/
  schema : Schema
  /-- What is stored; some identifiers refuse. -/
  write : Id → Except String schema.Value
  /-- The identifier that has been stored. -/
  read : schema.Value → Except Json.Failure Id
  decEq : DecidableEq Id

namespace Identifier

attribute [reducible, instance] Identifier.decEq

variable {Id : Type} [Identifier Id]

/-- Equal identifiers have equal hashes, as they have equal texts. -/
instance : Hashable Id := ⟨fun a => hash (text a)⟩

/-- The JSON text of an identifier. -/
def jsonText (a : Id) : Except String String := do
  return ((schema Id).toJson (← write a)).text

/-- The identifier of a JSON document. -/
def parse (b : Bytes) : Except Json.Failure Id := do
  read (← (schema Id).parse b)

/-- What is stored of an identifier is read back as it was. -/
class Faithful (Id : Type) [Identifier Id] : Prop where
  read_write : ∀ (a : Id) v, write a = .ok v → read v = .ok a

end Identifier

/-! ### The basic types -/

instance : Identifier String where
  typeName := "String"
  sentinel := ""
  isEmpty := Text.isBlank
  text a := a
  diagnostic := Text.quoted
  order a b := compareOfLessAndEq a b
  schema := .string
  write := .ok
  read := .ok
  decEq := inferInstance

instance : Identifier UInt64 where
  typeName := "u64"
  sentinel := 0
  isEmpty a := a = 0
  text a := toString a.toNat
  diagnostic a := toString a.toNat
  order a b := compare a.toNat b.toNat
  schema := .u64
  write := .ok
  read := .ok
  decEq := inferInstance

instance : Identifier Int64 where
  typeName := "i64"
  sentinel := 0
  isEmpty a := a = 0
  text a := toString a.toInt
  diagnostic a := toString a.toInt
  order a b := compare a.toInt b.toInt
  schema := .i64
  write := .ok
  read := .ok
  decEq := inferInstance

instance : Identifier Uuid where
  typeName := "Uuid"
  sentinel := .nil
  isEmpty a := a = .nil
  text := Uuid.text
  diagnostic := Uuid.text
  order a b := compare (Hex.value a.digits) (Hex.value b.digits)
  schema := .uuid
  write := .ok
  read := .ok
  decEq := inferInstance

instance : Identifier.Faithful String := ⟨fun _ _ h => Except.ok.inj h ▸ rfl⟩
instance : Identifier.Faithful UInt64 := ⟨fun _ _ h => Except.ok.inj h ▸ rfl⟩
instance : Identifier.Faithful Int64 := ⟨fun _ _ h => Except.ok.inj h ▸ rfl⟩
instance : Identifier.Faithful Uuid := ⟨fun _ _ h => Except.ok.inj h ▸ rfl⟩

/-! ### Identifiers in a wrapper of their own -/

/-- The identifiers of a wrapper around another type: everything is that of the content, and only
diagnostics show the name of the wrapper. -/
@[reducible] def Identifier.wrapped {Id Inner : Type} [inner : Identifier Inner] (name : String)
    (wrap : Inner → Id) (content : Id → Inner) (wrap_content : ∀ a, wrap (content a) = a) :
    Identifier Id where
  typeName := name
  sentinel := wrap inner.sentinel
  isEmpty a := inner.isEmpty (content a)
  text a := inner.text (content a)
  diagnostic a := name ++ "(" ++ inner.diagnostic (content a) ++ ")"
  order a b := inner.order (content a) (content b)
  schema := inner.schema
  write a := inner.write (content a)
  read v := (inner.read v).map wrap
  decEq a b :=
    decidable_of_iff (content a = content b)
      ⟨fun h => by rw [← wrap_content a, h, wrap_content], fun h => by rw [h]⟩

end EventSourcing
