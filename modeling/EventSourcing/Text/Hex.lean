import EventSourcing.Text.Bytes

/-!
# Hexadecimal digits

Identifiers and string escapes are written in hexadecimal.  Letters are written in lower case and
read in either.

## Main Definitions

* `Hex.low` — the last digit of a number.
* `Hex.byte`, `Hex.digit?` — a digit as an ASCII byte and back.
* `Hex.value` — the number that digits write.
-/

namespace EventSourcing.Hex

/-- The last digit of a number. -/
def low (n : Nat) : Fin 16 := ⟨n % 16, Nat.mod_lt n (Nat.succ_pos 15)⟩

/-- The ASCII byte of a digit, in lower case. -/
def byte (d : Fin 16) : UInt8 :=
  if d.val < 10 then 48 + UInt8.ofNat d.val else 87 + UInt8.ofNat d.val

/-- The digit that an ASCII byte stands for, in either case. -/
def digit? (b : UInt8) : Option (Fin 16) :=
  if 48 ≤ b && b ≤ 57 then some (low (b.toNat - 48))
  else if 97 ≤ b && b ≤ 102 then some (low (b.toNat - 87))
  else if 65 ≤ b && b ≤ 70 then some (low (b.toNat - 55))
  else none

@[simp] theorem digit?_byte (d : Fin 16) : digit? (byte d) = some d := by
  revert d; decide

/-- The character of a digit, in lower case. -/
def char (d : Fin 16) : Char := Char.ofNat (byte d).toNat

/-- The number that a list of digits writes, most significant first. -/
def value (ds : List (Fin 16)) : Nat := ds.foldl (fun n d => n * 16 + d.val) 0

end EventSourcing.Hex
