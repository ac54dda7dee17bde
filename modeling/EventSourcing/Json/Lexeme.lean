import EventSourcing.Json.Failure
import EventSourcing.Json.Printer

/-!
# The lexemes of a JSON document

White space, literals, numbers and strings, read from the front of a sequence of bytes.  Each
function returns what it has read together with the bytes behind it, or the first problem.

A string may be longer in its written form than in its content, so the loop over a string is
bounded by an explicit number, `limit`; the length of the document always suffices.

## Main Definitions

* `Json.skipSpace`, `Json.literal` — white space and the letters of `null`, `true`, `false`.
* `Json.number` — a number, which is an integer only if it fits 64 bits.
* `Json.string` — a string behind its opening quote.
* `Json.wrongTypeAt` — the problem that a value of another type stands at the front.
-/

namespace EventSourcing.Json

/-- The white space of the format: space, tabulator, line feed and carriage return. -/
def isSpaceByte (b : UInt8) : Bool := b = 0x20 || b = 0x09 || b = 0x0A || b = 0x0D

/-- Drops white space. -/
def skipSpace (s : Bytes) : Bytes := s.dropWhile isSpaceByte

/-- Reads the rest of a literal. -/
def literal : (letters : Bytes) → Bytes → Except Failure Bytes
  | [], s => .ok s
  | _ :: _, [] => .error (.endOfInput .value)
  | l :: letters, b :: s => if b = l then literal letters s else .error .expectedLiteral

/-- The letters of `null` behind the first one. -/
def nullRest : Bytes := [0x75, 0x6C, 0x6C]

/-- The letters of `true` behind the first one. -/
def trueRest : Bytes := [0x72, 0x75, 0x65]

/-- The letters of `false` behind the first one. -/
def falseRest : Bytes := [0x61, 0x6C, 0x73, 0x65]

/-! ### Numbers -/

/-- A decimal digit. -/
def isDigit (b : UInt8) : Bool := 0x30 ≤ b && b ≤ 0x39

/-- The values of decimal digits. -/
def digitValues (ds : Bytes) : List Nat := ds.map fun d => d.toNat - 48

/-- The number that decimal digits write. -/
def digitsValue (ds : Bytes) : Nat := (digitValues ds).foldl (fun n d => n * 10 + d) 0

/-- A number: an integer of 64 bits, signed or not, or anything else. -/
inductive Numeral where
  | int (n : Int)
  | decimal (d : Decimal)
  deriving Repr, DecidableEq

/-- The number that is written by a sign and digits alone. -/
def Numeral.ofDigits (negative : Bool) (ds : Bytes) : Numeral :=
  let n := digitsValue ds
  let decimal := Numeral.decimal (.ofDigits negative (digitValues ds) [] 0)
  if negative then if 0 < n && n ≤ 9223372036854775808 then .int (-(n : Int)) else decimal
  else if n < 18446744073709551616 then .int n
  else decimal

/-- What the number is, as a description. -/
def Numeral.found : Numeral → Found
  | .int n => .int n
  | .decimal _ => .decimal

/-- The number as a value. -/
def Numeral.toJson : Numeral → Json
  | .int n => .int n
  | .decimal d => .decimal d

/-- The digits at the front, at least one. -/
def digits (s : Bytes) : Except Failure (Bytes × Bytes) :=
  match s with
  | [] => .error (.endOfInput .value)
  | b :: _ =>
    if isDigit b then .ok (s.takeWhile isDigit, s.dropWhile isDigit) else .error .invalidNumber

/-- The sign and digits of an exponent. -/
def exponent (s : Bytes) : Except Failure (Int × Bytes) :=
  match s with
  | 0x2B :: s => do
    let (ds, rest) ← digits s
    return (digitsValue ds, rest)
  | 0x2D :: s => do
    let (ds, rest) ← digits s
    return (-(digitsValue ds : Int), rest)
  | s => do
    let (ds, rest) ← digits s
    return (digitsValue ds, rest)

/-- Ends a number whose digits in front of the point and behind it have been read: an exponent may
follow. -/
def scaled (negative : Bool) (whole places : Bytes) (s : Bytes) :
    Except Failure (Numeral × Bytes) :=
  let decimal (e : Int) : Numeral :=
    .decimal (.ofDigits negative (digitValues whole) (digitValues places) e)
  match s with
  | [] => .ok (decimal 0, [])
  | b :: rest =>
    if b = 0x65 || b = 0x45 then do
      let (e, rest) ← exponent rest
      return (decimal e, rest)
    else .ok (decimal 0, s)

/-- Reads a number behind its sign.  The integer part has no needless zero in front. -/
def unsigned (negative : Bool) (s : Bytes) : Except Failure (Numeral × Bytes) := do
  let (ds, rest) ← digits s
  if ds.head? = some 0x30 && ds.length ≠ 1 then throw .invalidNumber
  match rest with
  | [] => return (Numeral.ofDigits negative ds, rest)
  | b :: behind =>
    if b = 0x2E then
      let (places, rest) ← digits behind
      scaled negative ds places rest
    else if b = 0x65 || b = 0x45 then scaled negative ds [] rest
    else return (Numeral.ofDigits negative ds, rest)

/-- Whether a byte starts a number. -/
def startsNumber (b : UInt8) : Bool := b = 0x2D || isDigit b

/-- Reads the number that starts at the front, of any magnitude. -/
def numeral (s : Bytes) : Except Failure (Numeral × Bytes) :=
  match s with
  | 0x2D :: rest => unsigned true rest
  | s => unsigned false s

/-- Reads the number that starts at the front. -/
def number (s : Bytes) : Except Failure (Numeral × Bytes) := do
  let (n, rest) ← numeral s
  match n with
  | .decimal d => if d.toDouble?.isNone then throw .numberOutOfRange else return (n, rest)
  | .int _ => return (n, rest)

/-! ### Strings -/

/-- Reads the four hexadecimal digits of an escape. -/
def hexEscape (s : Bytes) : Except Failure (Nat × Bytes) :=
  match s with
  | a :: b :: c :: d :: rest =>
    match [a, b, c, d].mapM Hex.digit? with
    | some ds => .ok (Hex.value ds, rest)
    | none => .error .invalidEscape
  | _ => .error (.endOfInput .string)

/-- The UTF-8 form of a code point. -/
def codePoint (n : Nat) : Bytes := String.utf8EncodeChar (Char.ofNat n)

/-- The second half of a pair of escapes that stands for one character beyond U+FFFF, whose first
half is `high`. -/
def lowHalf (high : Nat) (s : Bytes) : Except Failure (Bytes × Bytes) :=
  match s with
  | [] => .error (.endOfInput .string)
  | b :: s =>
    if b ≠ backslash then .error .unfinishedPair
    else
      match s with
      | [] => .error (.endOfInput .string)
      | c :: s =>
        if c ≠ 0x75 then .error .unfinishedPair
        else do
          let (low, rest) ← hexEscape s
          if 0xDC00 ≤ low && low ≤ 0xDFFF then
            return (codePoint (0x10000 + (high - 0xD800) * 0x400 + (low - 0xDC00)), rest)
          else throw .loneSurrogate

/-- Reads an escape by number behind its letter. -/
def unicodeEscape (s : Bytes) : Except Failure (Bytes × Bytes) := do
  let (n, rest) ← hexEscape s
  if 0xDC00 ≤ n && n ≤ 0xDFFF then throw .loneSurrogate
  else if 0xD800 ≤ n && n ≤ 0xDBFF then lowHalf n rest
  else return (codePoint n, rest)

/-- The byte that a letter behind a backslash stands for. -/
def unletter? (b : UInt8) : Option UInt8 :=
  if b = quote then some quote
  else if b = backslash then some backslash
  else if b = 0x2F then some 0x2F
  else if b = 0x62 then some 0x08
  else if b = 0x66 then some 0x0C
  else if b = 0x6E then some 0x0A
  else if b = 0x72 then some 0x0D
  else if b = 0x74 then some 0x09
  else none

/-- Reads what follows a backslash. -/
def escape (s : Bytes) : Except Failure (Bytes × Bytes) :=
  match s with
  | [] => .error (.endOfInput .string)
  | b :: rest =>
    match unletter? b with
    | some c => .ok ([c], rest)
    | none => if b = 0x75 then unicodeEscape rest else .error .invalidEscape

/-- The bytes of a string up to its closing quote, with escapes replaced. -/
def stringBytes : (limit : Nat) → Bytes → Except Failure (Bytes × Bytes)
  | 0, _ => .error (.endOfInput .string)
  | _ + 1, [] => .error (.endOfInput .string)
  | limit + 1, b :: s =>
    if b = quote then .ok ([], s)
    else if b = backslash then do
      let (c, s) ← escape s
      let (cs, rest) ← stringBytes limit s
      return (c ++ cs, rest)
    else if b < 0x20 then .error .controlCharacter
    else do
      let (cs, rest) ← stringBytes limit s
      return (b :: cs, rest)

/-- Reads a string behind its opening quote. -/
def string (limit : Nat) (s : Bytes) : Except Failure (String × Bytes) := do
  let (bytes, rest) ← stringBytes limit s
  match Bytes.text? bytes with
  | some text => return (text, rest)
  | none => throw .invalidCodePoint

/-- The problem that the value at the front is not of the expected type.  A broken value is a
problem of its own. -/
def wrongTypeAt (limit : Nat) (expected : String) (s : Bytes) : Failure :=
  match s with
  | [] => .expectedValue
  | b :: rest =>
    let found : Except Failure Found :=
      if b = 0x6E then do let _ ← literal nullRest rest; return .null
      else if b = 0x74 then do let _ ← literal trueRest rest; return .bool true
      else if b = 0x66 then do let _ ← literal falseRest rest; return .bool false
      else if startsNumber b then do let (n, _) ← number s; return n.found
      else if b = quote then do let (t, _) ← string limit rest; return .str t
      else if b = 0x5B then return .list
      else if b = 0x7B then return .object
      else throw .expectedValue
    match found with
    | .ok found => .wrongType found expected
    | .error problem => problem

end EventSourcing.Json
