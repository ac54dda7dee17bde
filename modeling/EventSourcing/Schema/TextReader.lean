import EventSourcing.Json.Reader
import EventSourcing.Schema.Basic

/-!
# Reading text by a schema

A document is read from left to right, and each value is checked against the schema as it is met,
so the first problem of either kind ends the reading.

A structure is read from an object or from a list of all its fields.  In an object fields that the
schema does not know are passed over, no field may stand twice, and only optional fields may be
left out; the first missing one in the order of declaration is reported when the object ends.

## Main Definitions

* `Schema.readText` — reads a value from the front of a document.
* `Schema.parse` — reads a document that holds one value.
-/

namespace EventSourcing

open Json (Failure Found)

/-! ### Gathering fields -/

/-- The components of a row that have been met. -/
@[reducible] def Fields.Gathered : Fields → Type
  | .nil => Unit
  | .cons _ s rest => Option s.Value × rest.Gathered

/-- No component has been met. -/
def Fields.noneGathered : (fs : Fields) → fs.Gathered
  | .nil => ()
  | .cons _ _ rest => (none, rest.noneGathered)

/-- The row, if every component has been met that may not be left out. -/
def Fields.complete : (fs : Fields) → fs.Gathered → Except Failure fs.Row
  | .nil, _ => .ok ()
  | .cons name s rest, (v, gathered) =>
    match v <|> s.absent? with
    | some v => do return (v, ← rest.complete gathered)
    | none => .error (.missingField name)

/-- A structure with its number of fields, as messages about its length name it. -/
def withLength (what : String) (length : Nat) : String :=
  what ++ " with " ++ toString length ++ if length = 1 then " element" else " elements"

/-- A structure as messages name it. -/
def recordName (name : String) : String := "struct " ++ name

/-- A variant with named components as messages name it. -/
def recordVariantName (choice name : String) : String :=
  "struct variant " ++ choice ++ "::" ++ name

/-! ### Words -/

/-- An integer of the range `lo` to `hi`. -/
def readInteger (limit : Nat) (expected : String) (lo hi : Int) (s : Bytes) :
    Except Failure (Int × Bytes) :=
  match Json.skipSpace s with
  | [] => .error (.endOfInput .value)
  | b :: rest =>
    if Json.startsNumber b then do
      match ← Json.number (b :: rest) with
      | (.int n, rest) =>
        if lo ≤ n ∧ n ≤ hi then return (n, rest) else throw (.wrongValue (.int n) expected)
      | (.decimal _, _) => throw (.wrongType .decimal expected)
    else .error (Json.wrongTypeAt limit expected (b :: rest))

/-- A text. -/
def readString (limit : Nat) (expected : String) (s : Bytes) :
    Except Failure (String × Bytes) :=
  match Json.skipSpace s with
  | [] => .error (.endOfInput .value)
  | b :: rest =>
    if b = Json.quote then Json.string limit rest
    else .error (Json.wrongTypeAt limit expected (b :: rest))

/-- A truth value. -/
def readBool (limit : Nat) (s : Bytes) : Except Failure (Bool × Bytes) :=
  match Json.skipSpace s with
  | [] => .error (.endOfInput .value)
  | b :: rest =>
    if b = 0x74 then do return (true, ← Json.literal Json.trueRest rest)
    else if b = 0x66 then do return (false, ← Json.literal Json.falseRest rest)
    else .error (Json.wrongTypeAt limit "a boolean" (b :: rest))

/-- A `null` that stands for the only value of a type. -/
def readNull (limit : Nat) (expected : String) (s : Bytes) : Except Failure (Unit × Bytes) :=
  match Json.skipSpace s with
  | [] => .error (.endOfInput .value)
  | b :: rest =>
    if b = 0x6E then do return ((), ← Json.literal Json.nullRest rest)
    else .error (Json.wrongTypeAt limit expected (b :: rest))

/-- The identifier of a text. -/
def uuidOfText (t : String) : Except Failure Uuid :=
  match Uuid.read t with
  | .ok u => .ok u
  | .error fault => .error (.refused ("UUID parsing failed: " ++ fault.message))

/-- The instant of a text. -/
def instantOfText (t : String) : Except Failure Instant :=
  match Timestamp.read t with
  | .ok u => .ok u
  | .error fault => .error (.refused fault.message)

/-- How messages name the text of an instant. -/
def instantName : String := "an RFC 3339 formatted date and time string"

/-- How messages name the text of an identifier. -/
def uuidName : String := "a formatted UUID string"

/-! ### Brackets -/

/-- Reads behind an opening bracket what `list` or `object` reads, with one nesting less to go. -/
def readBracketed {α : Type} (limit room : Nat) (expected : String)
    (list object : Option (Nat → Bytes → Except Failure (α × Bytes))) (s : Bytes) :
    Except Failure (α × Bytes) :=
  match Json.skipSpace s with
  | [] => .error (.endOfInput .value)
  | b :: rest =>
    let inside := if b = 0x5B then list else if b = 0x7B then object else none
    match inside with
    | none => .error (Json.wrongTypeAt limit expected (b :: rest))
    | some read =>
      match room with
      | 0 => .error .tooDeep
      | room + 1 => read room rest

/-- Checks what stands behind the opening brace of an object that holds one variant: the name of a
variant, which is a string. -/
def openVariant (s : Bytes) : Except Failure Bytes :=
  match Json.skipSpace s with
  | [] => .error (.endOfInput .object)
  | b :: rest =>
    if b = Json.quote then .ok (b :: rest)
    else if b = 0x7D then .error .expectedValue
    else .error .keyIsNoString

/-- Reads the name of a variant. -/
def readVariantName (limit : Nat) (vs : Variants) (s : Bytes) :
    Except Failure (String × Bytes) := do
  let (name, rest) ← readString limit "variant identifier" s
  if vs.names.contains name then return (name, rest)
  else throw (.unknownVariant name vs.names)

/-- The end of an object that holds one variant. -/
def closeVariant (s : Bytes) : Except Failure Bytes :=
  match Json.skipSpace s with
  | [] => .error (.endOfInput .object)
  | b :: rest => if b = 0x7D then .ok rest else .error .expectedValue

mutual

/-- Reads a value from the front of a document, with at most `room` nested brackets. -/
def Schema.readText (limit : Nat) :
    (s : Schema) → (room : Nat) → Bytes → Except Failure (s.Value × Bytes)
  | .bool, _, b => readBool limit b
  | .string, _, b => readString limit "a string" b
  | .u8, _, b => do
    let (n, rest) ← readInteger limit "u8" 0 255 b
    return (UInt8.ofNat n.toNat, rest)
  | .u32, _, b => do
    let (n, rest) ← readInteger limit "u32" 0 4294967295 b
    return (UInt32.ofNat n.toNat, rest)
  | .u64, _, b => do
    let (n, rest) ← readInteger limit "u64" 0 18446744073709551615 b
    return (UInt64.ofNat n.toNat, rest)
  | .i32, _, b => do
    let (n, rest) ← readInteger limit "i32" (-2147483648) 2147483647 b
    return (Int32.ofInt n, rest)
  | .i64, _, b => do
    let (n, rest) ← readInteger limit "i64" (-9223372036854775808) 9223372036854775807 b
    return (Int64.ofInt n, rest)
  | .uuid, _, b => do
    let (t, rest) ← readString limit uuidName b
    return (← uuidOfText t, rest)
  | .instant, _, b => do
    let (t, rest) ← readString limit instantName b
    return (← instantOfText t, rest)
  | .unit name, _, b => readNull limit ("unit struct " ++ name) b
  | .option s, room, b =>
    match Json.skipSpace b with
    | 0x6E :: rest => do return (none, ← Json.literal Json.nullRest rest)
    | b => do
      let (v, rest) ← s.readText limit room b
      return (some v, rest)
  | .list s, room, b =>
    readBracketed limit room "a sequence"
      (some fun room => Json.items (s.readText limit room) limit true) none b
  | .map s, room, b =>
    let member := fun (room : Nat) (key : String) (m : TextMap s.Value) (b : Bytes) => do
      let (v, rest) ← s.readText limit room (← Json.colon b)
      return (m.insert key v, rest)
    readBracketed limit room "a map" none
      (some fun room => Json.members (member room) limit true TextMap.empty) b
  | .record name fs, room, b => fs.readRecord limit (recordName name) room b
  | .choice name vs, room, b =>
    match Json.skipSpace b with
    | [] => .error (.endOfInput .value)
    | c :: rest =>
      if c = 0x7B then
        match room with
        | 0 => .error .tooDeep
        | room + 1 => do
          let (variant, rest) ← readVariantName limit vs (← openVariant rest)
          let (v, rest) ← vs.readContent limit name variant room (← Json.colon rest)
          return (v, ← closeVariant rest)
      else if c = Json.quote then do
        let (variant, rest) ← readVariantName limit vs (c :: rest)
        return (← vs.withoutContent variant, rest)
      else .error .expectedValue

/-- Reads a row from an object, or from a list of all its components. -/
def Fields.readRecord (limit : Nat) :
    (fs : Fields) → (what : String) → (room : Nat) → Bytes → Except Failure (fs.Row × Bytes)
  | fs, what, room, b =>
    let member := fun (room : Nat) (key : String) (gathered : fs.Gathered) (b : Bytes) =>
      match fs.readMember limit key room gathered b with
      | some read => read
      | none => do return (gathered, ← Json.passOver limit (← Json.colon b))
    readBracketed limit room what
      (some fun room b => do
        let (row, rest) ← fs.readItems limit (withLength what fs.length) 0 room b
        return (row, ← Json.closeList rest))
      (some fun room b => do
        let (gathered, rest) ← Json.members (member room) limit true fs.noneGathered b
        return (← fs.complete gathered, rest))
      b

/-- Reads the components of a row from the items of a list, of which `index` have been read. -/
def Fields.readItems (limit : Nat) : (fs : Fields) → (expected : String) → (index room : Nat) →
    Bytes → Except Failure (fs.Row × Bytes)
  | .nil, _, _, _, b => .ok ((), b)
  | .cons _ s rest, expected, index, room, b => do
    match ← Json.nextItem (index == 0) b with
    | .closed _ => throw (.wrongLength index expected)
    | .item b =>
      let (v, b) ← s.readText limit room b
      let (row, b) ← rest.readItems limit expected (index + 1) room b
      return ((v, row), b)

/-- Reads the member of a known key from the bytes in front of its colon. -/
def Fields.readMember (limit : Nat) : (fs : Fields) → (key : String) → (room : Nat) →
    fs.Gathered → Bytes → Option (Except Failure (fs.Gathered × Bytes))
  | .nil, _, _, _, _ => none
  | .cons name s rest, key, room, (v, gathered), b =>
    if key = name then
      some <|
        match v with
        | some _ => .error (.duplicateField name)
        | none => do
          let (v, b) ← s.readText limit room (← Json.colon b)
          return ((some v, gathered), b)
    else
      (rest.readMember limit key room gathered b).map fun read => do
        let (gathered, b) ← read
        return ((v, gathered), b)

/-- Reads the content of a variant. -/
def Variants.readContent (limit : Nat) : (vs : Variants) → (choice variant : String) →
    (room : Nat) → Bytes → Except Failure (vs.Choice × Bytes)
  | .nil, _, variant, _, _ => .error (.unknownVariant variant [])
  | .bare name rest, choice, variant, room, b =>
    if variant = name then do
      let (v, b) ← readNull limit "unit" b
      return (.inl v, b)
    else do
      let (v, b) ← rest.readContent limit choice variant room b
      return (.inr v, b)
  | .holding name s rest, choice, variant, room, b =>
    if variant = name then do
      let (v, b) ← s.readText limit room b
      return (.inl v, b)
    else do
      let (v, b) ← rest.readContent limit choice variant room b
      return (.inr v, b)
  | .record name fs rest, choice, variant, room, b =>
    if variant = name then do
      let (v, b) ← fs.readRecord limit (recordVariantName choice name) room b
      return (.inl v, b)
    else do
      let (v, b) ← rest.readContent limit choice variant room b
      return (.inr v, b)

/-- The variant of a bare name. -/
def Variants.withoutContent : (vs : Variants) → (variant : String) → Except Failure vs.Choice
  | .nil, variant => .error (.unknownVariant variant [])
  | .bare name rest, variant =>
    if variant = name then .ok (.inl ()) else (rest.withoutContent variant).map .inr
  | .holding name _ rest, variant =>
    if variant = name then .error (.wrongType .bareVariant "newtype variant")
    else (rest.withoutContent variant).map .inr
  | .record name _ rest, variant =>
    if variant = name then .error (.wrongType .bareVariant "struct variant")
    else (rest.withoutContent variant).map .inr

end

/-- Reads a document that holds one value. -/
def Schema.parse (s : Schema) (b : Bytes) : Except Failure s.Value :=
  Json.finish (s.readText (Json.limitOf b) Json.maxDepth b)

end EventSourcing
