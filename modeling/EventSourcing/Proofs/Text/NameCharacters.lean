import EventSourcing.Text.LetterCase
import EventSourcing.Text.WordCharacter

/-!
# Characters of names in the other case

A character with which a name may start may also stand in one, and a character that may stand in a
name becomes such characters in upper and in lower case.  Both are facts about the tables.  Going
through all characters would be slow, so ranges are compared as a whole: of an entry for letters of
one case it is enough that the letters from the first to the last one become a part of one range.

## Main Statements

* `Text.continuesName_of_startsName` — the start of a name may stand in one.
* `Text.startsName_of_isDigit` — no name starts with a digit.
* `Text.continuesName_of_mem_toUpper`, `Text.continuesName_of_mem_toLower` — the other case.
-/

namespace EventSourcing.Text

/-! ### Ranges -/

/-- Whether one of the ranges holds all code points from `a` to `b`. -/
def covers (ranges : List (Nat × Nat)) (a b : Nat) : Bool :=
  ranges.any fun r => Nat.ble r.1 a && Nat.ble b r.2

/-- Whether none of the ranges holds a code point from `a` to `b`. -/
def avoids (ranges : List (Nat × Nat)) (a b : Nat) : Bool :=
  ranges.all fun r => Nat.blt b r.1 || Nat.blt r.2 a

/-- Whether each of the inner ranges lies in one of the outer ones, where both ascend. -/
def includes : (outer inner : List (Nat × Nat)) → Bool
  | [], inner => inner.isEmpty
  | s :: outer, inner =>
    includes outer (inner.dropWhile fun r => Nat.ble s.1 r.1 && Nat.ble r.2 s.2)

variable {ranges outer inner : List (Nat × Nat)} {a b n : Nat}

theorem inRanges_of_covers (h : covers ranges a b = true) (ha : a ≤ n) (hb : n ≤ b) :
    inRanges ranges n = true := by
  obtain ⟨r, hr, hends⟩ := List.any_eq_true.mp h
  simp only [Bool.and_eq_true, Nat.ble_eq] at hends
  refine List.any_eq_true.mpr ⟨r, hr, ?_⟩
  simp only [Bool.and_eq_true, decide_eq_true_eq]
  omega

theorem not_inRanges_of_avoids (h : avoids ranges a b = true) (ha : a ≤ n) (hb : n ≤ b) :
    inRanges ranges n = false := by
  refine List.any_eq_false.mpr fun r hr => ?_
  have hends := List.all_eq_true.mp h r hr
  simp only [Bool.or_eq_true, Nat.blt_eq] at hends
  simp only [Bool.and_eq_true, decide_eq_true_eq]
  omega

theorem inRanges_of_includes (h : includes outer inner = true) (hn : inRanges inner n = true) :
    inRanges outer n = true := by
  induction outer generalizing inner with
  | nil =>
    rw [includes, List.isEmpty_iff] at h
    rw [h] at hn
    cases hn
  | cons s outer ih =>
    let p : Nat × Nat → Bool := fun r => Nat.ble s.1 r.1 && Nat.ble r.2 s.2
    have hcut : inRanges (inner.takeWhile p ++ inner.dropWhile p) n = true := by
      rw [List.takeWhile_append_dropWhile]
      exact hn
    rw [inRanges, List.any_append, Bool.or_eq_true] at hcut
    -- The inner ranges in front lie in the first outer one, the others in the later ones.
    rcases hcut with hfront | hrest
    · obtain ⟨r, hr, hr'⟩ := List.any_eq_true.mp hfront
      have hinside := List.all_eq_true.mp List.all_takeWhile r hr
      simp only [p, Bool.and_eq_true, Nat.ble_eq] at hinside
      simp only [Bool.and_eq_true, decide_eq_true_eq] at hr'
      refine List.any_eq_true.mpr ⟨s, List.mem_cons_self, ?_⟩
      simp only [Bool.and_eq_true, decide_eq_true_eq]
      omega
    · rw [inRanges, List.any_cons, Bool.or_eq_true]
      exact .inr (ih h hrest)

/-! ### Names -/

theorem includes_nameRanges : includes nameRanges nameStartRanges = true := by decide +kernel

/-- A character with which a name may start may also stand in one. -/
theorem continuesName_of_startsName {c : Char} (h : startsName c = true) :
    continuesName c = true := by
  rw [startsName, Bool.or_eq_true, decide_eq_true_eq] at h
  rcases h with rfl | h
  · decide +kernel
  · exact inRanges_of_includes includes_nameRanges h

/-- No name starts with a digit. -/
theorem startsName_of_isDigit {c : Char} (h : c.isDigit = true) : startsName c = false := by
  have hdigits : avoids nameStartRanges 48 57 = true := by decide +kernel
  simp only [Char.isDigit, Bool.and_eq_true, decide_eq_true_eq] at h
  have hlower : 48 ≤ c.toNat := UInt32.le_iff_toNat_le.mp h.1
  have hupper : c.toNat ≤ 57 := UInt32.le_iff_toNat_le.mp h.2
  rw [startsName, not_inRanges_of_avoids hdigits hlower hupper, Bool.or_false,
    decide_eq_false_iff_not]
  rintro rfl
  exact absurd hupper (by decide)

/-- The characters of names are characters. -/
theorem isValidChar_of_inRanges (h : inRanges nameRanges n = true) : n.isValidChar := by
  have hvalid : nameRanges.all (fun r => Nat.blt r.2 0xD800 ||
      (Nat.blt 0xDFFF r.1 && Nat.blt r.2 0x110000)) = true := by decide +kernel
  obtain ⟨r, hr, hn⟩ := List.any_eq_true.mp h
  have hends := List.all_eq_true.mp hvalid r hr
  simp only [Bool.or_eq_true, Bool.and_eq_true, Nat.blt_eq] at hends
  simp only [Bool.and_eq_true, decide_eq_true_eq] at hn
  unfold Nat.isValidChar
  omega

theorem continuesName_ofNat (h : inRanges nameRanges n = true) :
    continuesName (Char.ofNat n) = true := by
  have hvalid := isValidChar_of_inRanges h
  rw [continuesName, Char.ofNat, dif_pos hvalid]
  exact h

/-! ### Letters of the other case -/

/-- What a code point becomes by an entry of a table. -/
def moved (e : Nat × Nat × Nat × Int) (n : Nat) : Nat := (n + e.2.2.2).toNat

/-- Whether characters of names become such characters by an entry: because one range holds all that
the letters become, because none of the letters is a character of a name, or letter by letter. -/
def keepsNames (e : Nat × Nat × Nat × Int) : Bool :=
  covers nameRanges (moved e e.1) (moved e e.2.1) || avoids nameRanges e.1 e.2.1 ||
    (List.range' e.1 ((e.2.1 - e.1) / e.2.2.1 + 1) e.2.2.1).all fun n =>
      covers nameRanges (moved e n) (moved e n)

theorem inRanges_moved {e : Nat × Nat × Nat × Int} (h : keepsNames e = true)
    (hn : onSteps e.1 e.2.1 e.2.2.1 n = true) (hname : inRanges nameRanges n = true) :
    inRanges nameRanges (moved e n) = true := by
  obtain ⟨first, last, step, distance⟩ := e
  simp only [onSteps, Bool.and_eq_true, decide_eq_true_eq] at hn
  obtain ⟨⟨hfirst, hlast⟩, hstep⟩ := hn
  rw [keepsNames, Bool.or_eq_true, Bool.or_eq_true] at h
  rcases h with (h | h) | h
  · refine inRanges_of_covers h ?_ ?_ <;> simp only [moved] <;> omega
  · rw [not_inRanges_of_avoids h hfirst hlast] at hname
    cases hname
  · refine inRanges_of_covers (List.all_eq_true.mp h n ?_) (Nat.le_refl _) (Nat.le_refl _)
    refine List.mem_range'.mpr ⟨(n - first) / step, ?_, ?_⟩
    · have := Nat.div_le_div_right (c := step) (Nat.sub_le_sub_right hlast first)
      exact Nat.lt_succ_of_le this
    · have := Nat.div_add_mod (n - first) step
      simp only
      omega

theorem mem_of_lookup {special : List (Nat × List Nat)} {several : List Nat}
    (h : special.lookup n = some several) : (n, several) ∈ special := by
  obtain ⟨front, rest, rfl, -⟩ := List.lookup_eq_some_iff.mp h
  exact List.mem_append_right _ List.mem_cons_self

/-- A character of a name becomes such characters by tables that keep them. -/
theorem continuesName_of_mem_mapCase {special : List (Nat × List Nat)}
    {steps : List (Nat × Nat × Nat × Int)}
    (hspecial : (special.all fun e => e.2.all fun n => covers nameRanges n n) = true)
    (hsteps : steps.all keepsNames = true) {c d : Char} (hc : continuesName c = true)
    (hd : d ∈ mapCase special steps c) : continuesName d = true := by
  unfold mapCase at hd
  split at hd
  · next several hlookup =>
    obtain ⟨n, hn, rfl⟩ := List.mem_map.mp hd
    have hseveral := List.all_eq_true.mp hspecial _ (mem_of_lookup hlookup)
    have hcovers := List.all_eq_true.mp hseveral n hn
    exact continuesName_ofNat (inRanges_of_covers hcovers (Nat.le_refl n) (Nat.le_refl n))
  · split at hd
    · next e hfind =>
      obtain rfl := List.mem_singleton.mp hd
      have hkeeps := List.all_eq_true.mp hsteps e (List.mem_of_find?_eq_some hfind)
      have hentry := List.find?_some hfind
      exact continuesName_ofNat (inRanges_moved hkeeps hentry hc)
    · obtain rfl := List.mem_singleton.mp hd
      exact hc

/-- A character becomes at least one by a table that loses none. -/
theorem mapCase_ne_nil {special : List (Nat × List Nat)} {steps : List (Nat × Nat × Nat × Int)}
    (hspecial : special.all (fun e => !e.2.isEmpty) = true) (c : Char) :
    mapCase special steps c ≠ [] := by
  unfold mapCase
  split
  · next several hlookup =>
    have hseveral := List.all_eq_true.mp hspecial _ (mem_of_lookup hlookup)
    rw [ne_eq, List.map_eq_nil_iff]
    rintro rfl
    cases hseveral
  · split
    · exact List.cons_ne_nil _ _
    · exact List.cons_ne_nil _ _

theorem keepsNames_toUpperSteps : toUpperSteps.all keepsNames = true := by decide +kernel

theorem keepsNames_toLowerSteps : toLowerSteps.all keepsNames = true := by decide +kernel

variable {c d : Char}

/-- A character of a name becomes such characters in upper case. -/
theorem continuesName_of_mem_toUpper (hc : continuesName c = true) (hd : d ∈ toUpper c) :
    continuesName d = true :=
  continuesName_of_mem_mapCase (by decide +kernel) keepsNames_toUpperSteps hc hd

/-- A character of a name becomes such characters in lower case. -/
theorem continuesName_of_mem_toLower (hc : continuesName c = true) (hd : d ∈ toLower c) :
    continuesName d = true :=
  continuesName_of_mem_mapCase (by decide +kernel) keepsNames_toLowerSteps hc hd

/-- No character is lost in upper case. -/
theorem toUpper_ne_nil (c : Char) : toUpper c ≠ [] := mapCase_ne_nil (by decide +kernel) c

end EventSourcing.Text
