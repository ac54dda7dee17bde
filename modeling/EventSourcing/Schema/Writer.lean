import EventSourcing.Json.Printer
import EventSourcing.Schema.Basic

/-!
# Writing by a schema

Fields are written in the order of their declaration, also those without a value, and the entries
of a map in key order.  A variant without content is written as its name, and one with content as
an object with its name as the only key.

## Main Definitions

* `Schema.toJson` — the JSON form of a value.
* `Schema.print` — its bytes.
-/

namespace EventSourcing

mutual

/-- The JSON form of a value. -/
def Schema.toJson : (s : Schema) → s.Value → Json
  | .bool, b => .bool b
  | .string, t => .str t
  | .u8, n => .int n.toNat
  | .u32, n => .int n.toNat
  | .u64, n => .int n.toNat
  | .i32, n => .int n.toInt
  | .i64, n => .int n.toInt
  | .uuid, u => .str u.text
  | .instant, t => .str (Timestamp.write t)
  | .unit _, _ => .null
  | .option _, none => .null
  | .option s, some v => s.toJson v
  | .list s, vs => .arr (vs.map s.toJson)
  | .map s, m => .obj (m.entries.map fun e => (e.1, s.toJson e.2))
  | .record _ fs, row => .obj (fs.toMembers row)
  | .choice _ vs, c => vs.toJson c

/-- The members that show a row. -/
def Fields.toMembers : (fs : Fields) → fs.Row → List (String × Json)
  | .nil, _ => []
  | .cons name s rest, (v, row) => (name, s.toJson v) :: rest.toMembers row

/-- The JSON form of a variant. -/
def Variants.toJson : (vs : Variants) → vs.Choice → Json
  | .bare name _, .inl _ => .str name
  | .bare _ rest, .inr c => rest.toJson c
  | .holding name s _, .inl v => .obj [(name, s.toJson v)]
  | .holding _ _ rest, .inr c => rest.toJson c
  | .record name fs _, .inl row => .obj [(name, .obj (fs.toMembers row))]
  | .record _ _ rest, .inr c => rest.toJson c

end

/-- The bytes of a value. -/
def Schema.print (s : Schema) (layout : Json.Layout) (v : s.Value) : Bytes :=
  (s.toJson v).print layout

end EventSourcing
