import EventSourcing.Json.Basic

/-!
# Maps with text keys

A map from text to values, kept as its entries in key order.  Two maps with the same entries are
equal, and writing a map shows its keys in order.

## Main Definitions

* `TextMap` — entries with strictly ascending keys.
* `TextMap.insert`, `TextMap.find?` — the two operations.
-/

namespace EventSourcing

/-- A map from text to values. -/
structure TextMap (α : Type) where
  entries : List (String × α)
  /-- The keys ascend, so each occurs once. -/
  ascending : entries.Pairwise fun a b => a.1 < b.1

namespace TextMap

variable {α : Type}

instance [DecidableEq α] : DecidableEq (TextMap α) := fun m n =>
  decidable_of_iff (m.entries = n.entries) (by cases m; cases n; simp)

/-- The map without entries. -/
def empty : TextMap α := ⟨[], .nil⟩

instance : Inhabited (TextMap α) := ⟨empty⟩

theorem lt_of_ne_of_not_lt {a b : String} (hne : a ≠ b) (h : ¬ a < b) : b < a :=
  Std.lt_of_le_of_ne (Std.not_lt.mp h) (Ne.symm hne)

/-- Every key of a list with one entry more is the new key or an old one. -/
theorem key_of_mem_insert {key : String} {value : α} {es : List (String × α)} {e : String × α}
    (h : e ∈ Json.insert key value es) : e.1 = key ∨ ∃ e' ∈ es, e'.1 = e.1 := by
  induction es with
  | nil => simp [Json.insert] at h; exact .inl (by rw [h])
  | cons e' rest ih =>
    obtain ⟨k, v⟩ := e'
    simp only [Json.insert] at h
    split at h
    · simp only [List.mem_cons] at h
      rcases h with rfl | h | h
      · exact .inl rfl
      · exact .inr ⟨(k, v), by simp, by rw [h]⟩
      · exact .inr ⟨e, by simp [h], rfl⟩
    · split at h
      · simp only [List.mem_cons] at h
        rcases h with rfl | h
        · exact .inl rfl
        · exact .inr ⟨e, by simp [h], rfl⟩
      · simp only [List.mem_cons] at h
        rcases h with h | h
        · exact .inr ⟨(k, v), by simp, by rw [h]⟩
        · rcases ih h with h | ⟨e', he', h⟩
          · exact .inl h
          · exact .inr ⟨e', by simp [he'], h⟩

theorem ascending_insert {key : String} {value : α} {es : List (String × α)}
    (h : es.Pairwise fun a b => a.1 < b.1) :
    (Json.insert key value es).Pairwise fun a b => a.1 < b.1 := by
  induction es with
  | nil => simp [Json.insert]
  | cons e rest ih =>
    obtain ⟨k, v⟩ := e
    obtain ⟨hk, hrest⟩ := List.pairwise_cons.mp h
    simp only [Json.insert]
    split
    · next hlt =>
      refine List.pairwise_cons.mpr ⟨?_, h⟩
      intro e he
      rcases List.mem_cons.mp he with rfl | he
      · exact hlt
      · exact String.lt_trans hlt (hk e he)
    · next hlt =>
      split
      · next heq =>
        subst heq
        exact List.pairwise_cons.mpr ⟨hk, hrest⟩
      · next hne =>
        refine List.pairwise_cons.mpr ⟨?_, ih hrest⟩
        intro e he
        rcases key_of_mem_insert he with h | ⟨e', he', h⟩
        · exact h ▸ lt_of_ne_of_not_lt hne hlt
        · exact h ▸ hk e' he'

/-- Binds a key to a value; what was bound to it gives way. -/
def insert (key : String) (value : α) (m : TextMap α) : TextMap α :=
  ⟨Json.insert key value m.entries, ascending_insert m.ascending⟩

/-- The value of a key. -/
def find? (key : String) (m : TextMap α) : Option α := m.entries.lookup key

end TextMap
end EventSourcing
