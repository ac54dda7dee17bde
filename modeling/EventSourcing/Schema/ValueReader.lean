import EventSourcing.Schema.TextReader

/-!
# Reading JSON values by a schema

A value that is already a tree is checked against the schema from the outside in, and the members
of an object in the order in which they stand.  The rules are those for text, with two differences:
a list with too many items is reported by its length, and the components of a variant are read from
an object only.

## Main Definitions

* `Json.found` — the description of a value in messages.
* `Schema.ofJson` — the value of a JSON tree.
-/

namespace EventSourcing

open Json (Failure Found)

/-- The description of a value in messages. -/
def Json.found : Json → Found
  | .null => .null
  | .bool b => .bool b
  | .int n => .int n
  | .decimal _ => .decimal
  | .str s => .str s
  | .arr _ => .list
  | .obj _ => .object

/-- An integer of the range `lo` to `hi`. -/
def integerOfJson (expected : String) (lo hi : Int) : Json → Except Failure Int
  | .int n => if lo ≤ n ∧ n ≤ hi then .ok n else .error (.wrongValue (.int n) expected)
  | v => .error (.wrongType v.found expected)

/-- A text. -/
def textOfJson (expected : String) : Json → Except Failure String
  | .str t => .ok t
  | v => .error (.wrongType v.found expected)

mutual

/-- The value of a JSON tree. -/
def Schema.ofJson : (s : Schema) → Json → Except Failure s.Value
  | .bool, v =>
    match v with
    | .bool b => .ok b
    | v => .error (.wrongType v.found "a boolean")
  | .string, v => textOfJson "a string" v
  | .u8, v => do return UInt8.ofNat (← integerOfJson "u8" 0 255 v).toNat
  | .u32, v => do return UInt32.ofNat (← integerOfJson "u32" 0 4294967295 v).toNat
  | .u64, v => do return UInt64.ofNat (← integerOfJson "u64" 0 18446744073709551615 v).toNat
  | .i32, v => do return Int32.ofInt (← integerOfJson "i32" (-2147483648) 2147483647 v)
  | .i64, v => do
    return Int64.ofInt (← integerOfJson "i64" (-9223372036854775808) 9223372036854775807 v)
  | .uuid, v => do uuidOfText (← textOfJson uuidName v)
  | .instant, v => do instantOfText (← textOfJson instantName v)
  | .unit name, v =>
    match v with
    | .null => .ok ()
    | v => .error (.wrongType v.found ("unit struct " ++ name))
  | .option s, v =>
    match v with
    | .null => .ok none
    | v => do return some (← s.ofJson v)
  | .list s, v =>
    match v with
    | .arr vs => vs.mapM fun v => s.ofJson v
    | v => .error (.wrongType v.found "a sequence")
  | .map s, v =>
    match v with
    | .obj ms => ms.foldlM (fun m e => do return m.insert e.1 (← s.ofJson e.2)) TextMap.empty
    | v => .error (.wrongType v.found "a map")
  | .record name fs, v =>
    match v with
    | .arr vs => do
      let row ← fs.ofItems (withLength (recordName name) fs.length) 0 vs
      if fs.length < vs.length then
        throw (.wrongLength vs.length "fewer elements in array")
      return row
    | .obj ms => do
      fs.complete (← ms.foldlM (fun gathered e => fs.gather e.1 e.2 gathered) fs.noneGathered)
    | v => .error (.wrongType v.found (recordName name))
  | .choice _ vs, v =>
    match v with
    | .str variant =>
      if vs.names.contains variant then vs.withoutContent variant
      else .error (.unknownVariant variant vs.names)
    | .obj [(variant, v)] =>
      if vs.names.contains variant then vs.ofContent variant v
      else .error (.unknownVariant variant vs.names)
    | .obj _ => .error (.wrongValue .object "map with a single key")
    | v => .error (.wrongType v.found "string or map")

/-- Reads the components of a row from the items of a list, of which `index` have been read. -/
def Fields.ofItems : (fs : Fields) → (expected : String) → (index : Nat) → List Json →
    Except Failure fs.Row
  | .nil, _, _, _ => .ok ()
  | .cons _ _ _, expected, index, [] => .error (.wrongLength index expected)
  | .cons _ s rest, expected, index, v :: vs => do
    return (← s.ofJson v, ← rest.ofItems expected (index + 1) vs)

/-- Adds a member to what has been gathered; an unknown member is passed over. -/
def Fields.gather : (fs : Fields) → (key : String) → Json → fs.Gathered →
    Except Failure fs.Gathered
  | .nil, _, _, gathered => .ok gathered
  | .cons name s rest, key, v, (found, gathered) =>
    if key = name then
      match found with
      | some _ => .error (.duplicateField name)
      | none => do return (some (← s.ofJson v), gathered)
    else do return (found, ← rest.gather key v gathered)

/-- The variant of a name with its content. -/
def Variants.ofContent : (vs : Variants) → (variant : String) → Json → Except Failure vs.Choice
  | .nil, variant, _ => .error (.unknownVariant variant [])
  | .bare name rest, variant, v =>
    if variant = name then
      match v with
      | .null => .ok (.inl ())
      | v => .error (.wrongType v.found "unit")
    else (rest.ofContent variant v).map .inr
  | .holding name s rest, variant, v =>
    if variant = name then (s.ofJson v).map .inl else (rest.ofContent variant v).map .inr
  | .record name fs rest, variant, v =>
    if variant = name then
      match v with
      | .obj ms => do
        let gathered ← ms.foldlM (fun gathered e => fs.gather e.1 e.2 gathered) fs.noneGathered
        return .inl (← fs.complete gathered)
      | v => .error (.wrongType v.found "struct variant")
    else (rest.ofContent variant v).map .inr

end

end EventSourcing
