import EventSourcing.Derive.Words
import EventSourcing.Proofs.Source.Names

/-!
# Identifiers made of words

Written in upper camel case, a name keeps its letters and numbers, up to their case, and loses all
that stands between them.  So the result goes on like an identifier if the letters and numbers do,
and it starts like one if the capital of the first of them does.  Nothing is left of a name of
underscores, and a name may start with an underscore but not with the digit behind it.

## Main Statements

* `Words.flatten_ofName` — the words of a name are its letters and numbers.
* `Words.isIdent_upperCamel_iff` — when a name in upper camel case is an identifier.
* `Source.IsName.isIdent_append_iff` — when a name is one with an ending.
-/

namespace EventSourcing

/-! ### Separators -/

/-- Nothing of a list is lost between its parts but what separates them. -/
theorem flatten_splitOnP {α : Type} {p : α → Bool} (as : List α) :
    (as.splitOnP p).flatten = as.filter fun a => !p a := by
  induction as with
  | nil => rfl
  | cons a as ih =>
    rw [List.splitOnP_cons_eq_if_modifyHead]
    split
    · next ha =>
      rw [List.flatten_cons, List.nil_append, ih, List.filter_cons_of_neg (by simp [ha])]
    · next ha =>
      obtain ⟨part, parts, hparts⟩ := List.exists_cons_of_ne_nil (List.splitOnP_ne_nil p as)
      rw [hparts, List.flatten_cons] at ih
      rw [hparts, List.modifyHead_cons, List.flatten_cons, List.cons_append, ih,
        List.filter_cons_of_pos (by simp [ha])]

/-- What separators do not have, lists with separators between them have as the lists do. -/
theorem filter_intercalate {α : Type} {p : α → Bool} {separator : List α}
    (h : ∀ a ∈ separator, p a = false) (ls : List (List α)) :
    (separator.intercalate ls).filter p = ls.flatten.filter p := by
  have hnone : separator.filter p = [] :=
    List.filter_eq_nil_iff.mpr fun a ha => by simp [h a ha]
  induction ls with
  | nil => rw [List.intercalate_nil, List.flatten_nil]
  | cons l ls ih =>
    cases ls with
    | nil => rw [List.intercalate_singleton, List.flatten_singleton]
    | cons l' ls =>
      rw [List.intercalate_cons_cons, List.filter_append, List.filter_append, hnone, ih,
        List.append_nil, ← List.filter_append, ← List.flatten_cons]

namespace Words

/-! ### Words -/

/-- Letters and numbers in a row are kept by the words that they are split into. -/
theorem flatten_split {mode : Mode} {word cs : List Char} (h : cs ≠ []) :
    (split mode word cs).flatten = word ++ cs := by
  induction mode, word, cs using split.induct with
  | case1 => exact absurd rfl h
  | case2 mode word c => simp [split]
  | case3 mode word c d rest hsmall ih =>
    rw [split, if_pos hsmall, List.flatten_cons, ih (List.cons_ne_nil d rest)]
    simp
  | case4 mode word c d rest hsmall hcapital ih =>
    rw [split, if_neg hsmall, if_pos hcapital, List.flatten_cons, ih (List.cons_ne_nil d rest)]
    simp
  | case5 mode word c d rest hsmall hcapital ih =>
    rw [split, if_neg hsmall, if_neg hcapital, ih (List.cons_ne_nil d rest)]
    simp

/-- The words of a name are its letters and numbers. -/
theorem flatten_ofName (name : String) :
    (ofName name).flatten = name.toList.filter Text.isAlphanumeric := by
  have hparts (parts : List (List Char)) :
      (parts.flatMap (split .none [])).flatten = parts.flatten := by
    induction parts with
    | nil => rfl
    | cons part parts ih =>
      rw [List.flatMap_cons, List.flatten_append, ih, List.flatten_cons]
      cases part with
      | nil => rfl
      | cons c cs => rw [flatten_split (List.cons_ne_nil c cs), List.nil_append]
  rw [ofName, hparts, flatten_splitOnP]
  simp only [Bool.not_not]

/-! ### Capitals -/

/-- Words with capitals start with the capital of their first character. -/
theorem head?_capitalized (words : List (List Char)) :
    (words.flatMap capitalized).head? =
      words.flatten.head?.bind fun c => (Text.toUpper c).head? := by
  induction words with
  | nil => rfl
  | cons word words ih =>
    cases word with
    | nil => exact ih
    | cons c cs =>
      obtain ⟨d, ds, hupper⟩ := List.exists_cons_of_ne_nil (Text.toUpper_ne_nil c)
      rw [List.flatMap_cons, capitalized, List.flatten_cons, List.cons_append, List.head?_cons,
        Option.bind_some, hupper]
      rfl

theorem continuesName_of_mem_small {word : List Char} (h : ∀ c ∈ word, Text.continuesName c = true)
    {d : Char} (hd : d ∈ small word) : Text.continuesName d = true := by
  induction word using small.induct with
  | case1 => cases hd
  | case2 =>
    rw [List.mem_singleton.mp hd]
    decide +kernel
  | case3 c rest hend ih =>
    rw [small] at hd
    rcases List.mem_append.mp hd with hd | hd
    · exact Text.continuesName_of_mem_toLower (h c List.mem_cons_self) hd
    · exact ih (fun c hc => h c (List.mem_cons_of_mem _ hc)) hd
    · exact hend

theorem continuesName_of_mem_capitalized {word : List Char}
    (h : ∀ c ∈ word, Text.continuesName c = true) {d : Char} (hd : d ∈ capitalized word) :
    Text.continuesName d = true := by
  cases word with
  | nil => cases hd
  | cons c rest =>
    rcases List.mem_append.mp hd with hd | hd
    · exact Text.continuesName_of_mem_toUpper (h c List.mem_cons_self) hd
    · exact continuesName_of_mem_small (fun c hc => h c (List.mem_cons_of_mem _ hc)) hd

/-! ### Identifiers -/

/-- Whether a name may start with the capital of a character. -/
def startsCapital (c : Char) : Bool := (Text.toUpper c).head?.any Text.startsName

/-- **A name in upper camel case is an identifier** if an identifier may start with the capital of
its first letter or number. -/
theorem isIdent_upperCamel_iff {name : String}
    (h : ∀ c ∈ name.toList, Text.isAlphanumeric c = true → Text.continuesName c = true) :
    Ident.isIdent (upperCamel name).toList = true ↔
      (name.toList.find? Text.isAlphanumeric).any startsCapital = true := by
  have hwords : ∀ c ∈ (ofName name).flatten, Text.continuesName c = true := by
    intro c hc
    rw [flatten_ofName] at hc
    exact h c (List.mem_filter.mp hc).1 (List.mem_filter.mp hc).2
  have hall : ∀ d ∈ (ofName name).flatMap capitalized, Text.continuesName d = true := by
    intro d hd
    obtain ⟨word, hword, hd⟩ := List.mem_flatMap.mp hd
    refine continuesName_of_mem_capitalized (fun c hc => ?_) hd
    exact hwords c (List.mem_flatten.mpr ⟨word, hword, hc⟩)
  rw [upperCamel, String.toList_ofList, Ident.isIdent_iff, and_iff_left hall, head?_capitalized,
    flatten_ofName, List.head?_filter]
  cases name.toList.find? Text.isAlphanumeric with
  | none => rfl
  | some c => rfl

end Words

/-! ### Names -/

namespace Source

/-- The letters and numbers of a name may stand in an identifier. -/
theorem IsName.continuesName {name : String} (h : IsName name) {c : Char} (hc : c ∈ name.toList)
    (halphanumeric : Text.isAlphanumeric c = true) : Text.continuesName c = true := by
  cases hraw : isRaw name with
  | false => exact (Ident.isIdent_iff.mp (h.isIdent_iff.mpr hraw)).2 c hc
  | true =>
    obtain ⟨rest, hrest⟩ := List.isPrefixOf_iff_prefix.mp hraw
    rw [IsName, hraw, ← hrest] at h
    rw [← hrest] at hc
    simp only [List.cons_append, List.nil_append, List.mem_cons] at hc
    rcases hc with rfl | rfl | hc
    · decide +kernel
    · have hhash : Text.isAlphanumeric '#' = false := by decide +kernel
      rw [hhash] at halphanumeric
      cases halphanumeric
    · exact (Ident.isIdent_iff.mp h).2 c hc

/-- With an ending a name is an identifier unless it is raw. -/
theorem IsName.isIdent_append_iff {name ending : String} (h : IsName name)
    (hending : ending.toList.all Text.continuesName = true) :
    Ident.isIdent (name ++ ending).toList = true ↔ isRaw name = false := by
  constructor
  · intro hident
    have hraw := not_isRaw_of_isIdent hident
    rw [← Bool.not_eq_true, isRaw, List.isPrefixOf_iff_prefix, String.toList_append] at hraw
    rw [← Bool.not_eq_true, isRaw, List.isPrefixOf_iff_prefix]
    exact fun hfront => hraw (hfront.trans (List.prefix_append _ _))
  · intro hraw
    obtain ⟨hfirst, hall⟩ := Ident.isIdent_iff.mp (h.isIdent_iff.mpr hraw)
    rw [String.toList_append, Ident.isIdent_iff]
    constructor
    · cases hname : name.toList with
      | nil =>
        rw [hname] at hfirst
        cases hfirst
      | cons c cs =>
        rw [hname] at hfirst
        exact hfirst
    · intro c hc
      rcases List.mem_append.mp hc with hc | hc
      · exact hall c hc
      · exact List.all_eq_true.mp hending c hc

end Source
end EventSourcing
