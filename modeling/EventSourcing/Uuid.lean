import EventSourcing.Text.Hex

/-!
# Universally unique identifiers

An identifier of 128 bits, kept as its 32 hexadecimal digits.  It is written in lower case in five
groups, `018f3f6e-7b7a-7c6d-8000-0123456789ab`, and read in either case, with or without hyphens,
in braces or behind `urn:uuid:`.

A text that is no identifier is refused for the first of these reasons that holds: it is longer
than any written form, a character has no place in it, it is not made of five groups, or one of the
groups has a wrong length.

## Main Definitions

* `Uuid` — the digits of an identifier.
* `Uuid.text`, `Uuid.read` — its written form, and the identifier of a text or why there is none.
* `Uuid.timeOrdered` — the identifier of a time and a serial number, of version 7.
-/

namespace EventSourcing

/-- An identifier of 128 bits. -/
structure Uuid where
  /-- The hexadecimal digits, most significant first. -/
  digits : List (Fin 16)
  length_digits : digits.length = 32
  deriving DecidableEq

namespace Uuid

/-- The identifier of no thing: all digits are zero. -/
def nil : Uuid := ⟨List.replicate 32 (Hex.low 0), by decide⟩

instance : Inhabited Uuid := ⟨nil⟩

/-- The digits with a hyphen behind the eighth, twelfth, sixteenth and twentieth. -/
def hyphenated (ds : List (Fin 16)) : List Char :=
  let cs := ds.map Hex.char
  cs.take 8 ++ '-' :: (cs.drop 8).take 4 ++ '-' :: (cs.drop 12).take 4 ++
    '-' :: (cs.drop 16).take 4 ++ '-' :: cs.drop 20

/-- The written form of an identifier. -/
def text (u : Uuid) : String := String.ofList (hyphenated u.digits)

/-- The digit that a character stands for, in either case. -/
def digit? (c : Char) : Option (Fin 16) :=
  if c.toNat < 0x80 then Hex.digit? (UInt8.ofNat c.toNat) else none

/-- The identifier of 32 digits. -/
def ofChars? (cs : List Char) : Option Uuid := do
  let ds ← cs.mapM digit?
  if h : ds.length = 32 then some ⟨ds, h⟩ else none

/-- The characters of five groups of digits, without their hyphens. -/
def ungrouped? (cs : List Char) : Option (List Char) :=
  if cs.length = 36 && [8, 13, 18, 23].all (fun i => cs[i]? = some '-') then
    some (cs.take 8 ++ (cs.drop 9).take 4 ++ (cs.drop 14).take 4 ++ (cs.drop 19).take 4 ++
      cs.drop 24)
  else none

/-- What stands in front of a written identifier that is a name in the world of URIs. -/
def urn : List Char := "urn:uuid:".toList

/-- The part of a text between braces, or behind `urn:uuid:` in any letter case, and how many
characters stand in front of it. -/
def unwrapped? (cs : List Char) : Option (List Char × Nat) :=
  if cs.head? = some '\x7b' && cs.getLast? = some '\x7d' && 2 ≤ cs.length then
    some (cs.tail.dropLast, 1)
  else if (cs.take urn.length).map Char.toLower = urn then
    some (cs.drop urn.length, urn.length)
  else none

/-- The part of a text that has to be made of five groups if the text has the length of a written
form: all of 36 bytes, what stands between braces in 38, what stands behind `urn:uuid:` in 45. -/
def grouped? (s : String) : Option (List Char) :=
  if s.utf8ByteSize = 36 then some s.toList
  else
    match unwrapped? s.toList with
    | some (inside, front) =>
      if (s.utf8ByteSize = 38 && front = 1) || (s.utf8ByteSize = 45 && front = urn.length) then
        some inside
      else none
    | none => none

/-- The identifier of a text. -/
def ofText? (s : String) : Option Uuid :=
  if s.utf8ByteSize = 32 then ofChars? s.toList
  else ((grouped? s).bind ungrouped?).bind ofChars?

/-- How many bytes the longest written form of an identifier has: five groups behind `urn:uuid:`. -/
def longest : Nat := 45

/-- Why a text is no identifier. -/
inductive Fault where
  | character (c : Char) (position : Nat)
  | length (found : Nat)
  | groupCount (found : Nat)
  | groupLength (group found : Nat)
  deriving Repr, DecidableEq

/-- The wording of a fault. -/
def Fault.message : Fault → String
  | .character c position =>
    "invalid character: found `" ++ c.toString ++ "` at " ++ toString position
  | .length found => "invalid length: found " ++ toString found
  | .groupCount found => "invalid group count: expected 5, found " ++ toString found
  | .groupLength group found =>
    "invalid group length in group " ++ toString group ++ ": expected " ++
      toString ([8, 4, 4, 4, 12].getD group 0) ++ ", found " ++ toString found

/-- The first of the five groups whose length is not the wanted one.  The last one is taken to hold
all that the text has behind the twenty-fourth byte, whatever it is wrapped in. -/
def wrongGroup (size : Nat) : (group : Nat) → (wanted : List Nat) → (found : List Nat) → Fault
  | group, [_], _ => .groupLength group (size - 24)
  | group, w :: wanted, f :: found =>
    if w = f then wrongGroup size (group + 1) wanted found else .groupLength group f
  | group, _, _ => .groupLength group 0

/-- What is wrong with characters that are no identifier.  They are a part of a text of `size`
bytes, and their positions are counted from `front`.  Without hyphens they are one group; only if
they are `alone` they may be meant as digits without groups. -/
def faultOf (size front : Nat) (alone : Bool) (cs : List Char) : Fault :=
  match cs.findIdx? fun c => c ≠ '-' && (digit? c).isNone with
  | some i => .character (cs.getD i '-') (front + i)
  | none =>
    let groups := (cs.splitOnP (· = '-')).map List.length
    if groups.length = 1 && alone then .length size
    else if groups.length ≠ 5 then .groupCount groups.length
    else wrongGroup size 0 [8, 4, 4, 4, 12] groups

/-- What is wrong with a text that is no identifier.  The length of a text may settle which written
form it is meant to have, and then it is judged by this form alone. -/
def diagnose (s : String) : Fault :=
  let size := s.utf8ByteSize
  if size = 32 then faultOf size 0 true s.toList
  else if longest < size then .length size
  else
    match grouped? s, unwrapped? s.toList with
    | some cs, _ => faultOf size 0 false cs
    | none, some (cs, front) => faultOf size front false cs
    | none, none => faultOf size 0 true s.toList

/-- The identifier of a text, or why there is none. -/
def read (s : String) : Except Fault Uuid :=
  match ofText? s with
  | some u => .ok u
  | none => .error (diagnose s)

/-! ### New identifiers -/

/-- The last `width` hexadecimal digits of a number. -/
def lowDigits : (width n : Nat) → List (Fin 16)
  | 0, _ => []
  | width + 1, n => lowDigits width (n / 16) ++ [Hex.low n]

@[simp] theorem length_lowDigits (width n : Nat) : (lowDigits width n).length = width := by
  induction width generalizing n with
  | zero => rfl
  | succ width ih => simp [lowDigits, ih]

/-- The identifier of a time in milliseconds and a serial number: 48 bits of time, version 7, and
the number in the bits that are left. -/
def timeOrdered (millis serial : Nat) : Uuid where
  digits :=
    lowDigits 12 millis ++ Hex.low 7 :: lowDigits 3 (serial / Nat.pow 16 15) ++
      Hex.low 8 :: lowDigits 15 serial
  length_digits := by simp

/-- The version of an identifier: its thirteenth digit. -/
def version (u : Uuid) : Nat := (u.digits.getD 12 (Hex.low 0)).val

example : (timeOrdered 1704067200000 5).text = "018cc251-f400-7000-8000-000000000005" := by
  decide +kernel

end Uuid
end EventSourcing
