import EventSourcing.Decimal.Shortest
import EventSourcing.Json.Basic
import EventSourcing.Text.Hex

/-!
# Writing JSON

A value is written as UTF-8 bytes in one of two layouts.  The compact layout has no white space.
The indented layout puts every item and member on a line of its own, two spaces deeper than its
brackets; empty brackets stay closed.  Members are written in the order in which they stand.

In strings only what must be escaped is escaped: the quote, the backslash and the control
characters below U+0020, five of them by a letter.  Everything else is written as it is.

A number that is no integer is written by the fewest digits that read back as the same double.

## Main Definitions

* `Json.Layout` — the two layouts.
* `Json.escapeByte`, `Json.printString` — the written form of a string.
* `Json.printScaled`, `Json.printDecimal` — the written form of a number that is no integer.
* `Json.print` — the written form of a value.
-/

namespace EventSourcing.Json

/-- How white space is put around items and members. -/
inductive Layout where
  | compact
  | indented
  deriving Repr, DecidableEq, Inhabited

/-- The byte of a quote. -/
def quote : UInt8 := 0x22

/-- The byte of a backslash. -/
def backslash : UInt8 := 0x5C

/-- The letter that stands for a control character behind a backslash. -/
def letter? (b : UInt8) : Option UInt8 :=
  if b = 0x08 then some 0x62
  else if b = 0x09 then some 0x74
  else if b = 0x0A then some 0x6E
  else if b = 0x0C then some 0x66
  else if b = 0x0D then some 0x72
  else none

/-- The written form of one byte of a string. -/
def escapeByte (b : UInt8) : Bytes :=
  if b = quote then [backslash, quote]
  else if b = backslash then [backslash, backslash]
  else if b < 0x20 then
    match letter? b with
    | some l => [backslash, l]
    | none =>
      [backslash, 0x75, 0x30, 0x30, Hex.byte (Hex.low (b.toNat / 16)),
        Hex.byte (Hex.low b.toNat)]
  else [b]

/-- A string between quotes. -/
def printString (s : String) : Bytes :=
  quote :: ((Bytes.ofText s).flatMap escapeByte ++ [quote])

/-- The decimal digits of a natural number, most significant first, in front of `tail`. -/
def digitsOnto (tail : Bytes) : (fuel n : Nat) → Bytes
  | 0, _ => tail
  | fuel + 1, n =>
    let front := UInt8.ofNat (48 + n % 10) :: tail
    if n < 10 then front else digitsOnto front fuel (n / 10)

/-- A natural number in decimal. -/
def printNat (n : Nat) : Bytes := digitsOnto [] (n + 1) n

/-- An integer in decimal. -/
def printInt : Int → Bytes
  | .ofNat n => printNat n
  | .negSucc n => 0x2D :: printNat (n + 1)

/-- An integer in decimal, always with its sign. -/
def printSigned (n : Int) : Bytes := if 0 ≤ n then 0x2B :: printInt n else printInt n

/-- Digits that count a power of ten.  A point is set by position if it is at most sixteen places
behind the first digit or four in front of it, and there is always a digit on both sides of it;
otherwise it stands behind the first digit and an exponent follows with its sign. -/
def printScaled (ds : Bytes) (exponent : Int) : Bytes :=
  let point : Int := ds.length + exponent
  if 0 ≤ exponent && point ≤ 16 then
    ds ++ List.replicate exponent.toNat 0x30 ++ [0x2E, 0x30]
  else if 0 < point && point ≤ 16 then ds.take point.toNat ++ 0x2E :: ds.drop point.toNat
  else if -5 < point && point ≤ 0 then
    0x30 :: 0x2E :: (List.replicate (-point).toNat 0x30 ++ ds)
  else
    ds.take 1 ++ (if ds.length = 1 then [] else 0x2E :: ds.drop 1) ++
      0x65 :: printSigned (point - 1)

/-- A decimal by the fewest digits that read back as its double. -/
def printDecimal (d : Decimal) : Bytes :=
  let scaled := (d.toDouble?.map Double.shortest).getD (d.digits, d.exponent)
  (if d.negative then [0x2D] else []) ++ printScaled (printNat scaled.1) scaled.2

/-- The line break and indentation that the indented layout puts at a depth. -/
def Layout.line (layout : Layout) (depth : Nat) : Bytes :=
  match layout with
  | .compact => []
  | .indented => 0x0A :: List.replicate (2 * depth) 0x20

/-- What stands between a key and its value. -/
def Layout.colon : Layout → Bytes
  | .compact => [0x3A]
  | .indented => [0x3A, 0x20]

mutual

/-- The written form of a value whose brackets stand at the given depth. -/
def printAt (layout : Layout) (depth : Nat) : Json → Bytes
  | .null => [0x6E, 0x75, 0x6C, 0x6C]
  | .bool true => [0x74, 0x72, 0x75, 0x65]
  | .bool false => [0x66, 0x61, 0x6C, 0x73, 0x65]
  | .int n => printInt n
  | .decimal d => printDecimal d
  | .str s => printString s
  | .arr [] => [0x5B, 0x5D]
  | .arr (v :: rest) =>
    0x5B :: (layout.line (depth + 1) ++ v.printAt layout (depth + 1) ++
      printItems layout (depth + 1) rest ++ layout.line depth ++ [0x5D])
  | .obj [] => [0x7B, 0x7D]
  | .obj ((k, v) :: rest) =>
    0x7B :: (layout.line (depth + 1) ++ printString k ++ layout.colon ++
      v.printAt layout (depth + 1) ++
      printMembers layout (depth + 1) rest ++ layout.line depth ++ [0x7D])

/-- The items after the first one, each behind a comma. -/
def printItems (layout : Layout) (depth : Nat) : List Json → Bytes
  | [] => []
  | v :: rest =>
    0x2C :: (layout.line depth ++ v.printAt layout depth ++ printItems layout depth rest)

/-- The members after the first one, each behind a comma. -/
def printMembers (layout : Layout) (depth : Nat) : List (String × Json) → Bytes
  | [] => []
  | (k, v) :: rest =>
    0x2C :: (layout.line depth ++ printString k ++ layout.colon ++ v.printAt layout depth ++
      printMembers layout depth rest)

end

/-- The written form of a value. -/
def print (layout : Layout) (v : Json) : Bytes := v.printAt layout 0

/-- The compact written form of a value, as text. -/
def text (v : Json) : String := Bytes.shown (v.print .compact)

example : (Json.obj [("a", .arr [.int (-12), .null]), ("b", .str "\n\u0001")]).text =
    "\x7b\"a\":[-12,null],\"b\":\"\\n\\u0001\"\x7d" := by decide +kernel

example : (Json.arr [.decimal (.mk false 10 (-1)), .decimal (.mk true 0 0),
    .decimal (.mk false 1 16), .decimal (.mk false 125 (-8)),
    .decimal (.mk false 18446744073709551615 0)]).text =
    "[1.0,-0.0,1e+16,1.25e-6,1.8446744073709552e+19]" := by decide +kernel

end EventSourcing.Json
