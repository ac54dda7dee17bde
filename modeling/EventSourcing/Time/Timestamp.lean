import EventSourcing.Text.Blank
import EventSourcing.Time.Instant

/-!
# Timestamps

An instant is written as date and time of day in UTC, in the manner of RFC 3339:
`2024-02-29T23:59:59.125Z`.  The fraction has three, six or nine digits, the fewest that keep it,
and none if it is zero.  A year outside 0 to 9999 is written with its sign.

The reader takes more than the writer gives: any offset, a space or a small `t` before the time,
white space around the parts, and a fraction of any length, of which nine digits count.

## Main Definitions

* `Timestamp.write` — the timestamp of an instant.
* `Timestamp.read` — the instant of a timestamp, or why the text is none.
-/

namespace EventSourcing.Timestamp

/-! ### Writing -/

/-- The last `width` decimal digits of a number, with leading zeros. -/
def padded : (width n : Nat) → List Char
  | 0, _ => []
  | width + 1, n => padded width (n / 10) ++ [Char.ofNat (48 + n % 10)]

/-- A year: four digits, or a sign and as many digits as it needs, at least four. -/
def writeYear (year : Int) : List Char :=
  if 0 ≤ year ∧ year ≤ 9999 then padded 4 year.toNat
  else (if year < 0 then '-' else '+') :: padded (max 4 (toString year.natAbs).length) year.natAbs

/-- The fraction of a second: as many groups of three digits as it needs. -/
def writeFraction (nano : Nat) : List Char :=
  if nano = 0 then []
  else if nano % 1000000 = 0 then '.' :: padded 3 (nano / 1000000)
  else if nano % 1000 = 0 then '.' :: padded 6 (nano / 1000)
  else '.' :: padded 9 nano

/-- The characters of the timestamp of an instant. -/
def writeChars (t : Instant) : List Char :=
  let date := Date.ofDays (t.second / 86400)
  let time := (t.second % 86400).toNat
  let leap := t.nano / 1000000000
  writeYear date.year ++ '-' :: padded 2 date.month ++ '-' :: padded 2 date.day ++
    'T' :: padded 2 (time / 3600) ++ ':' :: padded 2 (time / 60 % 60) ++
    ':' :: padded 2 (time % 60 + leap) ++ writeFraction (t.nano % 1000000000) ++ ['Z']

/-- The timestamp of an instant. -/
def write (t : Instant) : String := String.ofList (writeChars t)

/-! ### Reading -/

/-- Why a text is no timestamp. -/
inductive Fault where
  | outOfRange
  | impossible
  | invalid
  | tooShort
  | tooLong
  deriving Repr, DecidableEq

/-- The wording of a fault. -/
def Fault.message : Fault → String
  | .outOfRange => "input is out of range"
  | .impossible => "no possible date and time matching input"
  | .invalid => "input contains invalid characters"
  | .tooShort => "premature end of input"
  | .tooLong => "trailing input"

/-- Drops white space. -/
def trimStart (s : List Char) : List Char := s.dropWhile Text.isSpace

/-- The value of decimal digits. -/
def digitsValue (ds : List Char) : Nat := ds.foldl (fun n c => n * 10 + (c.toNat - 48)) 0

/-- A number of at most `width` digits, at least one. -/
def number (width : Nat) (s : List Char) : Except Fault (Nat × List Char) :=
  match (s.take width).takeWhile Char.isDigit with
  | [] => .error (if s = [] then .tooShort else .invalid)
  | ds =>
    let n := digitsValue ds
    if n < 9223372036854775808 then .ok (n, s.drop ds.length) else .error .outOfRange

/-- A number in a range, behind white space. -/
def field (width lo hi : Nat) (s : List Char) : Except Fault (Nat × List Char) := do
  let (n, s) ← number width (trimStart s)
  if lo ≤ n && n ≤ hi then return (n, s) else throw .outOfRange

/-- A year: four digits at most, or a sign and any number of digits. -/
def year (s : List Char) : Except Fault (Int × List Char) := do
  let (y, s) ← match trimStart s with
    | '-' :: s => do
      let (n, s) ← number s.length s
      pure (-(n : Int), s)
    | '+' :: s => do
      let (n, s) ← number s.length s
      pure ((n : Int), s)
    | s => do
      let (n, s) ← number 4 s
      pure ((n : Int), s)
  if -2147483648 ≤ y ∧ y ≤ 2147483647 then return (y, s) else throw .outOfRange

/-- One given character, behind white space. -/
def mark (c : Char) (s : List Char) : Except Fault (List Char) :=
  match trimStart s with
  | [] => .error .tooShort
  | d :: s => if d = c then .ok s else .error .invalid

/-- What stands between date and time. -/
def divider (s : List Char) : Except Fault (List Char) :=
  match s with
  | [] => .error .tooShort
  | c :: s => if c = 't' || c = 'T' || c = ' ' then .ok s else .error .invalid

/-- The fraction of a second in nanoseconds, if one stands here. -/
def fraction (s : List Char) : Except Fault (Nat × List Char) :=
  match s with
  | '.' :: s => do
    let (n, rest) ← number 9 s
    return (n * Nat.pow 10 (9 - (s.length - rest.length)), rest.dropWhile Char.isDigit)
  | s => .ok (0, s)

/-- Two digits, the first one at most `tens`.  The text is too short for them if fewer than two
bytes are left, so that a single character beyond ASCII is a wrong one. -/
def twoDigits (tens : Nat) (s : List Char) : Except Fault (Nat × List Char) :=
  match s with
  | a :: b :: s =>
    if a.isDigit && b.isDigit then
      if a.toNat - 48 ≤ tens then .ok (digitsValue [a, b], s) else .error .outOfRange
    else .error .invalid
  | [a] => .error (if a.utf8Size = 1 then .tooShort else .invalid)
  | [] => .error .tooShort

/-- The sign of an offset: whether it is negative. -/
def sign (s : List Char) : Except Fault (Bool × List Char) :=
  match s with
  | [] => .error .tooShort
  | c :: s =>
    if c = '+' then .ok (false, s)
    else if c = '-' || c = '\u2212' then .ok (true, s)
    else .error .invalid

/-- The offset from UTC in seconds: a `Z`, the letters `UTC`, or hours and minutes. -/
def offset (s : List Char) : Except Fault (Int × List Char) :=
  match s with
  | 'Z' :: s => .ok (0, s)
  | 'z' :: s => .ok (0, s)
  | s =>
    if (s.take 3).map Char.toUpper = ['U', 'T', 'C'] then .ok (0, s.drop 3)
    else do
      let (negative, s) ← sign s
      let (hours, s) ← twoDigits 9 s
      let (minutes, s) ← twoDigits 5 (s.dropWhile fun c => c = ':' || Text.isSpace c)
      let seconds : Int := hours * 3600 + minutes * 60
      return (if negative then -seconds else seconds, s)

/-- The instant of a date, a time of day and an offset. -/
def assemble (date : Date) (hour minute second nano : Nat) (offset : Int) :
    Except Fault Instant := do
  if ¬ (date.IsValid ∧ -262143 ≤ date.year ∧ date.year ≤ 262142) then throw .outOfRange
  if ¬ (-86400 < offset ∧ offset < 86400) then throw .outOfRange
  let whole := date.toDays * 86400 + hour * 3600 + minute * 60 + min second 59 - offset
  match Instant.ofParts? whole (if second = 60 then nano + 1000000000 else nano) with
  | some t => return t
  | none => throw .impossible

/-- Reads the characters of a timestamp. -/
def readChars (s : List Char) : Except Fault Instant := do
  let (y, s) ← year s
  let s ← mark '-' s
  let (month, s) ← field 2 1 12 s
  let s ← mark '-' s
  let (day, s) ← field 2 1 31 s
  let s ← divider s
  let (hour, s) ← field 2 0 23 s
  let s ← mark ':' s
  let (minute, s) ← field 2 0 59 s
  let s ← mark ':' s
  let (second, s) ← field 2 0 60 s
  let (nano, s) ← fraction s
  let (offset, s) ← offset (trimStart s)
  if trimStart s ≠ [] then throw .tooLong
  assemble ⟨y, month, day⟩ hour minute second nano offset

/-- The instant of a timestamp. -/
def read (s : String) : Except Fault Instant := readChars s.toList

end EventSourcing.Timestamp
