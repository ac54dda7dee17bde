import EventSourcing.Json.Lexeme

/-!
# Reading JSON

A document is read from left to right and the first problem ends the reading.  Lists and objects
are read by loops over what each item or member needs, so that the reader of any value and the
readers of values of a known form share them.

Brackets may be nested 127 deep.  Inside a value that nobody asked for any depth is allowed: such a
value is passed over with an explicit stack of the open brackets.

## Main Definitions

* `Json.items`, `Json.members` — the loops behind an opening bracket.
* `Json.value`, `Json.parse` — any value; the members of an object are put in key order, and of
  two members of one key the later one stays.
* `Json.passOver` — passes over a value that nobody asked for.
-/

namespace EventSourcing.Json

/-- How many brackets may be nested. -/
def maxDepth : Nat := 127

/-- What stands at a place where an item may follow: the start of one, or what is behind the
closing bracket. -/
inductive Next where
  | item (s : Bytes)
  | closed (s : Bytes)

/-- Whether another item follows in a list. -/
def nextItem (first : Bool) (s : Bytes) : Except Failure Next :=
  match skipSpace s with
  | [] => .error (.endOfInput .list)
  | b :: rest =>
    if b = 0x5D then .ok (.closed rest)
    else if first then .ok (.item (b :: rest))
    else if b = 0x2C then
      match skipSpace rest with
      | [] => .error (.endOfInput .value)
      | c :: rest => if c = 0x5D then .error .trailingComma else .ok (.item (c :: rest))
    else .error (.expectedCommaOrEnd .list)

/-- Whether another member follows in an object; its key's opening quote is passed. -/
def nextKey (first : Bool) (s : Bytes) : Except Failure Next :=
  match skipSpace s with
  | [] => .error (.endOfInput .object)
  | b :: rest =>
    if b = 0x7D then .ok (.closed rest)
    else if first then
      if b = quote then .ok (.item rest) else .error .keyIsNoString
    else if b = 0x2C then
      match skipSpace rest with
      | [] => .error (.endOfInput .value)
      | c :: rest =>
        if c = quote then .ok (.item rest)
        else if c = 0x7D then .error .trailingComma
        else .error .keyIsNoString
    else .error (.expectedCommaOrEnd .object)

/-- The end of a list all of whose wanted items have been read. -/
def closeList (s : Bytes) : Except Failure Bytes :=
  match skipSpace s with
  | [] => .error (.endOfInput .list)
  | b :: rest =>
    if b = 0x5D then .ok rest
    else if b = 0x2C then
      match skipSpace rest with
      | c :: _ => if c = 0x5D then .error .trailingComma else .error .trailingCharacters
      | [] => .error .trailingCharacters
    else .error .trailingCharacters

/-- The colon between a key and its value. -/
def colon (s : Bytes) : Except Failure Bytes :=
  match skipSpace s with
  | [] => .error (.endOfInput .object)
  | b :: rest => if b = 0x3A then .ok rest else .error .expectedColon

/-- The items of a list behind its opening bracket. -/
def items {α : Type} (item : Bytes → Except Failure (α × Bytes)) :
    (limit : Nat) → (first : Bool) → Bytes → Except Failure (List α × Bytes)
  | 0, _, _ => .error (.endOfInput .list)
  | limit + 1, first, s => do
    match ← nextItem first s with
    | .closed rest => return ([], rest)
    | .item s =>
      let (a, s) ← item s
      let (as, rest) ← items item limit false s
      return (a :: as, rest)

/-- Runs over the members of an object behind its opening bracket.  `member` gets the key, what has
been gathered so far and the bytes in front of the colon. -/
def members {σ : Type} (member : String → σ → Bytes → Except Failure (σ × Bytes)) :
    (limit : Nat) → (first : Bool) → σ → Bytes → Except Failure (σ × Bytes)
  | 0, _, _, _ => .error (.endOfInput .object)
  | limit + 1, first, gathered, s => do
    match ← nextKey first s with
    | .closed rest => return (gathered, rest)
    | .item s =>
      let (key, s) ← string limit s
      let (gathered, s) ← member key gathered s
      members member limit false gathered s

/-- Any value with at most `room` nested brackets. -/
def value (limit : Nat) (room : Nat) (s : Bytes) : Except Failure (Json × Bytes) :=
  match skipSpace s with
  | [] => .error (.endOfInput .value)
  | b :: rest =>
    if b = 0x6E then do return (.null, ← literal nullRest rest)
    else if b = 0x74 then do return (.bool true, ← literal trueRest rest)
    else if b = 0x66 then do return (.bool false, ← literal falseRest rest)
    else if startsNumber b then do
      let (n, rest) ← number (b :: rest)
      return (n.toJson, rest)
    else if b = quote then do
      let (t, rest) ← string limit rest
      return (.str t, rest)
    else if b = 0x5B then
      match room with
      | 0 => .error .tooDeep
      | room + 1 => do
        let (vs, rest) ← items (value limit room) limit true rest
        return (.arr vs, rest)
    else if b = 0x7B then
      match room with
      | 0 => .error .tooDeep
      | room + 1 => do
        let member := fun key gathered s => do
          let s ← colon s
          let (v, s) ← value limit room s
          return (insert key v gathered, s)
        let (ms, rest) ← members member limit true [] rest
        return (.obj ms, rest)
    else .error .expectedValue

/-- Requires that nothing but white space is left. -/
def finish {α : Type} (read : Except Failure (α × Bytes)) : Except Failure α := do
  let (a, rest) ← read
  match skipSpace rest with
  | [] => return a
  | _ :: _ => throw .trailingCharacters

/-- A number that bounds every loop over a document. -/
def limitOf (s : Bytes) : Nat := s.length + 1

/-- Reads a document that holds one value. -/
def parse (s : Bytes) : Except Failure Json := finish (value (limitOf s) maxDepth s)

/-! ### Values that nobody asked for -/

/-- Passes over a number. -/
def passNumber (s : Bytes) : Except Failure Bytes :=
  match numeral s with
  | .ok (_, rest) => .ok rest
  | .error _ => .error .invalidNumber

/-- Passes over a string behind its opening quote.  Its content need not be text. -/
def passString : (limit : Nat) → Bytes → Except Failure Bytes
  | 0, _ => .error (.endOfInput .string)
  | _ + 1, [] => .error (.endOfInput .string)
  | limit + 1, b :: s =>
    if b = quote then .ok s
    else if b = backslash then
      match s with
      | [] => .error (.endOfInput .string)
      | c :: s =>
        if (unletter? c).isSome then passString limit s
        else if c = 0x75 then do
          let (_, s) ← hexEscape s
          passString limit s
        else .error .invalidEscape
    else if b < 0x20 then .error .controlCharacter
    else passString limit s

/-- Passes over the key of a member and its colon. -/
def passKey (limit : Nat) (s : Bytes) : Except Failure Bytes :=
  match skipSpace s with
  | [] => .error (.endOfInput .object)
  | b :: rest => if b = quote then do colon (← passString limit rest) else .error .keyIsNoString

/-- The bracket that ends a place. -/
def Place.closing : Place → UInt8
  | .object => 0x7D
  | _ => 0x5D

mutual

/-- Passes over the value at the front and then over what `pending` brackets still hold. -/
def passValue : (fuel limit : Nat) → (pending : List Place) → Bytes → Except Failure Bytes
  | 0, _, _, _ => .error (.endOfInput .value)
  | fuel + 1, limit, pending, s =>
    match skipSpace s with
    | [] => .error (.endOfInput .value)
    | b :: rest =>
      if b = 0x6E then do passRest fuel limit true pending (← literal nullRest rest)
      else if b = 0x74 then do passRest fuel limit true pending (← literal trueRest rest)
      else if b = 0x66 then do passRest fuel limit true pending (← literal falseRest rest)
      else if startsNumber b then do
        passRest fuel limit true pending (← passNumber (b :: rest))
      else if b = quote then do passRest fuel limit true pending (← passString limit rest)
      else if b = 0x5B then passRest fuel limit false (.list :: pending) rest
      else if b = 0x7B then passRest fuel limit false (.object :: pending) rest
      else .error .expectedValue

/-- Passes over the rest of the innermost open bracket.  `comma` tells whether an item stands in
front, so that a comma may follow. -/
def passRest : (fuel limit : Nat) → (comma : Bool) → (pending : List Place) → Bytes →
    Except Failure Bytes
  | 0, _, _, _, _ => .error (.endOfInput .value)
  | _ + 1, _, _, [], s => .ok s
  | fuel + 1, limit, comma, place :: outer, s =>
    match skipSpace s with
    | [] => .error (.endOfInput place)
    | b :: rest =>
      if b = place.closing then passRest fuel limit true outer rest
      else if comma && b ≠ 0x2C then .error (.expectedCommaOrEnd place)
      else do
        let s := if comma then rest else b :: rest
        let s ← if place = .object then passKey limit s else .ok s
        passValue fuel limit (place :: outer) s

end

/-- Passes over one value.  Each byte is looked at in at most two steps. -/
def passOver (limit : Nat) (s : Bytes) : Except Failure Bytes :=
  passValue (2 * limit + 2) limit [] s

end EventSourcing.Json
