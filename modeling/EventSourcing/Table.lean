/-!
# Tables

A finite map from keys to values, kept as its entries in the order in which their keys were first
bound.  Binding a key that is already bound replaces its value in place.

## Main Definitions

* `Table` — entries with distinct keys.
* `Table.find?`, `Table.set` — what a key is bound to, and binding it.

`find?_set` says what every key is bound to after a binding, `set_of_find?` and `set_set_of_find?`
when a binding changes nothing or is undone, `mem_entries` which entries there are, and
`perm_entries` when two tables have the same ones.
-/

namespace EventSourcing

/-- A finite map. -/
structure Table (κ α : Type) where
  entries : List (κ × α)
  /-- Each key is bound once. -/
  distinct : (entries.map Prod.fst).Nodup

namespace Table

variable {κ α : Type} [DecidableEq κ]

/-- The table without entries. -/
def empty : Table κ α := ⟨[], by simp⟩

instance : Inhabited (Table κ α) := ⟨empty⟩

/-- The number of entries. -/
def size (t : Table κ α) : Nat := t.entries.length

/-- What a key is bound to in a list of entries. -/
def findIn (k : κ) : List (κ × α) → Option α
  | [] => none
  | e :: rest => if e.1 = k then some e.2 else findIn k rest

/-- A list of entries with a key bound to a value. -/
def setIn (k : κ) (v : α) : List (κ × α) → List (κ × α)
  | [] => [(k, v)]
  | e :: rest => if e.1 = k then (k, v) :: rest else e :: setIn k v rest

theorem findIn_setIn (k k' : κ) (v : α) (es : List (κ × α)) :
    findIn k' (setIn k v es) = if k = k' then some v else findIn k' es := by
  induction es with
  | nil => simp [setIn, findIn]
  | cons e rest ih =>
    by_cases h : e.1 = k
    · by_cases hk : k = k' <;> simp [setIn, findIn, h, hk]
    · by_cases hk : k = k'
      · subst hk; simp [setIn, findIn, h, ih]
      · simp [setIn, findIn, h, hk, ih]

/-- A key that is bound again to what it was bound to leaves the entries as they were. -/
theorem setIn_setIn_of_findIn {k : κ} {v : α} (w : α) {es : List (κ × α)}
    (h : findIn k es = some v) : setIn k v (setIn k w es) = es := by
  induction es with
  | nil => cases h
  | cons e rest ih =>
    rw [findIn] at h
    by_cases he : e.1 = k
    · rw [if_pos he] at h
      cases h
      rw [setIn, if_pos he, setIn, if_pos rfl, ← he]
    · rw [if_neg he] at h
      rw [setIn, if_neg he, setIn, if_neg he, ih h]

/-- A key that is bound to what it was bound to already leaves the entries as they are. -/
theorem setIn_of_findIn {k : κ} {v : α} {es : List (κ × α)} (h : findIn k es = some v) :
    setIn k v es = es := by
  induction es with
  | nil => cases h
  | cons e rest ih =>
    rw [findIn] at h
    by_cases he : e.1 = k
    · rw [if_pos he] at h
      cases h
      rw [setIn, if_pos he, ← he]
    · rw [if_neg he] at h
      rw [setIn, if_neg he, ih h]

/-- What a key is bound to are the entries with that key. -/
theorem findIn_eq_some {k : κ} {v : α} {es : List (κ × α)} (hes : (es.map Prod.fst).Nodup) :
    findIn k es = some v ↔ (k, v) ∈ es := by
  induction es with
  | nil => simp [findIn]
  | cons e rest ih =>
    obtain ⟨hnot, hrest⟩ := List.nodup_cons.mp hes
    rw [findIn, List.mem_cons]
    by_cases he : e.1 = k
    · rw [if_pos he]
      constructor
      · rintro h
        cases h
        exact .inl (by rw [← he])
      · rintro (rfl | h)
        · rfl
        · exact absurd (List.mem_map_of_mem (f := Prod.fst) h) (he ▸ hnot)
    · rw [if_neg he, ih hrest]
      constructor
      · exact .inr
      · rintro (rfl | h)
        · exact absurd rfl he
        · exact h

theorem mem_keys_setIn {k k' : κ} {v : α} {es : List (κ × α)}
    (h : k' ∈ (setIn k v es).map Prod.fst) : k' = k ∨ k' ∈ es.map Prod.fst := by
  induction es with
  | nil => exact .inl (by simpa [setIn] using h)
  | cons e rest ih =>
    by_cases he : e.1 = k
    · simp only [setIn, he, if_true, List.map_cons, List.mem_cons] at h
      exact h.imp_right fun h => by simp [h]
    · simp only [setIn, he, if_false, List.map_cons, List.mem_cons] at h
      rcases h with rfl | h
      · exact .inr (by simp)
      · exact (ih h).imp_right fun h => by simp [h]

theorem nodup_setIn (k : κ) (v : α) {es : List (κ × α)} (h : (es.map Prod.fst).Nodup) :
    ((setIn k v es).map Prod.fst).Nodup := by
  induction es with
  | nil => simp [setIn]
  | cons e rest ih =>
    obtain ⟨hnot, hrest⟩ := List.nodup_cons.mp h
    by_cases he : e.1 = k
    · simpa [setIn, he] using ⟨by simpa [he] using hnot, hrest⟩
    · rw [setIn, if_neg he, List.map_cons, List.nodup_cons]
      refine ⟨fun hmem => ?_, ih hrest⟩
      rcases mem_keys_setIn hmem with h | h
      · exact he h
      · exact hnot h

/-- What a key is bound to. -/
def find? (k : κ) (t : Table κ α) : Option α := findIn k t.entries

/-- Binds a key to a value. -/
def set (k : κ) (v : α) (t : Table κ α) : Table κ α :=
  ⟨setIn k v t.entries, nodup_setIn k v t.distinct⟩

@[simp] theorem find?_empty (k : κ) : (empty : Table κ α).find? k = none := rfl

theorem find?_set (k k' : κ) (v : α) (t : Table κ α) :
    (t.set k v).find? k' = if k = k' then some v else t.find? k' :=
  findIn_setIn k k' v t.entries

/-- A table has the entries that are found in it. -/
theorem mem_entries {k : κ} {v : α} {t : Table κ α} :
    (k, v) ∈ t.entries ↔ t.find? k = some v :=
  (findIn_eq_some t.distinct).symm

omit [DecidableEq κ] in
theorem nodup_entries (t : Table κ α) : t.entries.Nodup :=
  List.Pairwise.of_map Prod.fst (fun _ _ hne heq => hne (congrArg Prod.fst heq)) t.distinct

/-- Tables in which the same is found have the same entries, in whatever order. -/
theorem perm_entries {t t' : Table κ α} (h : ∀ k, t.find? k = t'.find? k) :
    t.entries.Perm t'.entries := by
  refine (List.perm_ext_iff_of_nodup t.nodup_entries t'.nodup_entries).mpr ?_
  rintro ⟨k, v⟩
  rw [mem_entries, mem_entries, h k]

/-- Binding a key to what it is bound to changes nothing. -/
theorem set_of_find? {k : κ} {v : α} {t : Table κ α} (h : t.find? k = some v) : t.set k v = t := by
  obtain ⟨es, hes⟩ := t
  simp only [set, mk.injEq]
  exact setIn_of_findIn h

/-- A binding is undone by binding the key to what it was bound to. -/
theorem set_set_of_find? {k : κ} {v : α} {t : Table κ α} (h : t.find? k = some v) (w : α) :
    (t.set k w).set k v = t := by
  obtain ⟨es, hes⟩ := t
  simp only [set, mk.injEq]
  exact setIn_setIn_of_findIn w h

end Table
end EventSourcing
