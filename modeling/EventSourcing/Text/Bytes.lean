/-!
# Bytes and text

Payloads, archives and JSON documents are sequences of bytes; identifiers, kinds and messages are
text.  This module holds the two directions between them.

## Main Definitions

* `Bytes` — a sequence of bytes.
* `Bytes.ofText` — the UTF-8 form of a text.
* `Bytes.text?` — the text whose UTF-8 form the bytes are, if there is one.
* `Bytes.shown` — a readable form of any bytes: what is no UTF-8 is shown as U+FFFD.

`text?_ofText` says that every text is read back from its own bytes.
-/

namespace EventSourcing

/-- A sequence of bytes. -/
abbrev Bytes : Type := List UInt8

namespace Bytes

/-- The UTF-8 form of a text. -/
def ofText (s : String) : Bytes := s.toUTF8.data.toList

/-- The text whose UTF-8 form the bytes are; nothing if they are no UTF-8. -/
def text? (b : Bytes) : Option String := String.fromUTF8? ⟨b.toArray⟩

/-- Every text is read back from its own bytes. -/
@[simp] theorem text?_ofText (s : String) : text? (ofText s) = some s := by
  have h : ByteArray.mk (ofText s).toArray = s.toUTF8 := by simp [ofText]
  rw [text?, h, String.fromUTF8?, String.toUTF8_eq_toByteArray, dif_pos s.isValidUTF8]
  rfl

/-- A byte that continues a character: `10xxxxxx`. -/
def isContinuation (b : UInt8) : Bool := 0x80 ≤ b && b ≤ 0xBF

/-- The least and greatest second byte of a three-byte character that starts with `lead`. -/
def secondOfThree (lead : UInt8) : UInt8 × UInt8 :=
  if lead = 0xE0 then (0xA0, 0xBF) else if lead = 0xED then (0x80, 0x9F) else (0x80, 0xBF)

/-- The least and greatest second byte of a four-byte character that starts with `lead`. -/
def secondOfFour (lead : UInt8) : UInt8 × UInt8 :=
  if lead = 0xF0 then (0x90, 0xBF) else if lead = 0xF4 then (0x80, 0x8F) else (0x80, 0xBF)

/-- The low six bits of a continuation byte. -/
def low (b : UInt8) : Nat := b.toNat % 64

/-- What stands for bytes that are no UTF-8. -/
def replacement : Char := '\uFFFD'

/-- Decodes UTF-8 and puts one `replacement` for each longest piece that starts like a character
and does not end like one. -/
def shownChars : Bytes → List Char
  | [] => []
  | a :: s =>
    if a < 0x80 then Char.ofNat a.toNat :: shownChars s
    else if 0xC2 ≤ a && a ≤ 0xDF then
      match s with
      | b :: s =>
        if isContinuation b then Char.ofNat (a.toNat % 32 * 64 + low b) :: shownChars s
        else replacement :: shownChars (b :: s)
      | [] => [replacement]
    else if 0xE0 ≤ a && a ≤ 0xEF then
      match s with
      | b :: s =>
        if (secondOfThree a).1 ≤ b && b ≤ (secondOfThree a).2 then
          match s with
          | c :: s =>
            if isContinuation c then
              Char.ofNat ((a.toNat % 16 * 64 + low b) * 64 + low c) :: shownChars s
            else replacement :: shownChars (c :: s)
          | [] => [replacement]
        else replacement :: shownChars (b :: s)
      | [] => [replacement]
    else if 0xF0 ≤ a && a ≤ 0xF4 then
      match s with
      | b :: s =>
        if (secondOfFour a).1 ≤ b && b ≤ (secondOfFour a).2 then
          match s with
          | c :: s =>
            if isContinuation c then
              match s with
              | d :: s =>
                if isContinuation d then
                  Char.ofNat (((a.toNat % 8 * 64 + low b) * 64 + low c) * 64 + low d) ::
                    shownChars s
                else replacement :: shownChars (d :: s)
              | [] => [replacement]
            else replacement :: shownChars (c :: s)
          | [] => [replacement]
        else replacement :: shownChars (b :: s)
      | [] => [replacement]
    else replacement :: shownChars s

/-- A readable form of any bytes. -/
def shown (b : Bytes) : String := String.ofList (shownChars b)

end Bytes
end EventSourcing
