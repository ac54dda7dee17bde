import EventSourcing.Uuid

/-!
# Identifiers of 128 bits are read as they were written

The written form has 36 characters, all of them ASCII, and four of them are hyphens at fixed
places; taking these out leaves the digits.

## Main Statements

* `Uuid.read_text` — the text of an identifier is read back as the identifier.
-/

namespace EventSourcing

namespace Hex

/-- A digit is written as an ASCII character. -/
theorem char_toNat_lt (d : Fin 16) : (char d).toNat < 0x80 := by
  revert d
  decide

end Hex

namespace Uuid

@[simp] theorem digit?_char (d : Fin 16) : digit? (Hex.char d) = some d := by
  revert d
  decide

theorem mapM_digit?_char (ds : List (Fin 16)) : (ds.map Hex.char).mapM digit? = some ds := by
  induction ds with
  | nil => rfl
  | cons d ds ih => simp [ih]

/-- A text of ASCII characters has as many bytes as characters. -/
theorem utf8ByteSize_ofList_ascii {cs : List Char} (h : ∀ c ∈ cs, c.toNat < 0x80) :
    (String.ofList cs).utf8ByteSize = cs.length := by
  induction cs with
  | nil => rfl
  | cons c cs ih =>
    have hsize : c.utf8Size = 1 := by
      rw [Char.utf8Size, if_pos]
      exact UInt32.le_iff_toNat_le.mpr (Nat.le_of_lt_succ (h c (by simp)))
    rw [String.ofList_cons, String.utf8ByteSize_append, String.utf8ByteSize_singleton, hsize,
      ih fun c hc => h c (by simp [hc]), List.length_cons, Nat.add_comm]

theorem ascii_hyphenated (ds : List (Fin 16)) : ∀ c ∈ hyphenated ds, c.toNat < 0x80 := by
  have hdigit : ∀ c ∈ ds.map Hex.char, c.toNat < 0x80 := by
    intro c hc
    obtain ⟨d, -, rfl⟩ := List.mem_map.mp hc
    exact Hex.char_toNat_lt d
  have hhyphen : '-'.toNat < 0x80 := by decide
  intro c hc
  simp only [hyphenated, List.mem_append, List.mem_cons] at hc
  -- Each character is a digit of one of the five groups or a hyphen.
  rcases hc with (((hc | rfl | hc) | rfl | hc) | rfl | hc) | rfl | hc
  · exact hdigit c (List.mem_of_mem_take hc)
  · exact hhyphen
  · exact hdigit c (List.mem_of_mem_drop (List.mem_of_mem_take hc))
  · exact hhyphen
  · exact hdigit c (List.mem_of_mem_drop (List.mem_of_mem_take hc))
  · exact hhyphen
  · exact hdigit c (List.mem_of_mem_drop (List.mem_of_mem_take hc))
  · exact hhyphen
  · exact hdigit c (List.mem_of_mem_drop hc)

theorem length_hyphenated {ds : List (Fin 16)} (h : ds.length = 32) :
    (hyphenated ds).length = 36 := by
  simp [hyphenated, h]

/-- Five groups of the right lengths are joined. -/
theorem ungrouped?_groups {a b c d e : List Char} (ha : a.length = 8) (hb : b.length = 4)
    (hc : c.length = 4) (hd : d.length = 4) (he : e.length = 12) :
    ungrouped? (a ++ '-' :: b ++ '-' :: c ++ '-' :: d ++ '-' :: e) =
      some (a ++ b ++ c ++ d ++ e) := by
  simp [ungrouped?, List.getElem?_append, List.drop_append, List.drop_of_length_le, ha, hb, hc, hd,
    he]

/-- Taking out the hyphens leaves the digits. -/
theorem ungrouped?_hyphenated {ds : List (Fin 16)} (h : ds.length = 32) :
    ungrouped? (hyphenated ds) = some (ds.map Hex.char) := by
  have hcut (n : Nat) : ((ds.map Hex.char).drop n).take 4 ++ (ds.map Hex.char).drop (n + 4) =
      (ds.map Hex.char).drop n := by
    rw [← List.drop_drop, List.take_append_drop]
  rw [hyphenated, ungrouped?_groups (by simp [h]) (by simp [h]) (by simp [h]) (by simp [h])
    (by simp [h])]
  simp only [List.append_assoc]
  rw [hcut 16, hcut 12, hcut 8, List.take_append_drop]

/-- **The text of an identifier is read back as the identifier.** -/
theorem read_text (u : Uuid) : read u.text = .ok u := by
  have hsize : u.text.utf8ByteSize = 36 := by
    rw [text, utf8ByteSize_ofList_ascii (ascii_hyphenated _), length_hyphenated u.length_digits]
  have hread : ofText? u.text = some u := by
    rw [ofText?, if_neg (by rw [hsize]; decide), grouped?, if_pos hsize, text,
      String.toList_ofList, Option.bind_some, ungrouped?_hyphenated u.length_digits,
      Option.bind_some, ofChars?, mapM_digit?_char]
    simp [u.length_digits]
  rw [read, hread]

end Uuid
end EventSourcing
