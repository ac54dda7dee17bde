import EventSourcing.Derive.Declaration
import EventSourcing.Derive.Identifier
import EventSourcing.Proofs.Answer
import EventSourcing.Proofs.Text.NameCharacters

/-!
# Names in source text

The words of source text are names: identifiers, of which some are raw and have `r#` in front.  A
reading finds nothing but what stands in its text, so what it takes from words is a name as well.
This holds of a reading with any grammar: what stands ahead is a part of the text, whatever has been
read before.

## Main Definitions

* `Source.isRaw`, `Source.IsName` — raw names, and names of both sorts.
* `Source.Named`, `TypePath.Named`, `Setting.Named` — tokens, paths and settings in which all names
  are names.
* `Reading.Gives` — what a reading of given tokens finds.

## Main Statements

* `Source.named_of_tokens?` — the words of source text are names.
* `Setting.gives_readItems`, `Setting.gives_readAttributes` — settings have names.
* `Declaration.named_of_read?` — what is declared has a name, and so have its attributes.
-/

namespace EventSourcing

/-! ### Identifiers -/

namespace Ident

theorem isIdent_iff {cs : List Char} :
    isIdent cs = true ↔
      cs.head?.any Text.startsName = true ∧ ∀ c ∈ cs, Text.continuesName c = true := by
  cases cs with
  | nil => simp [isIdent]
  | cons c cs =>
    rw [isIdent, Bool.and_eq_true, List.all_eq_true, List.head?_cons, Option.any_some,
      List.forall_mem_cons]
    constructor
    · rintro ⟨hfirst, hrest⟩
      exact ⟨hfirst, Text.continuesName_of_startsName hfirst, hrest⟩
    · rintro ⟨hfirst, -, hrest⟩
      exact ⟨hfirst, hrest⟩

/-- A text passes the check if it is an identifier. -/
theorem check_eq_ok {text text' : String} :
    check text = .ok text' ↔ isIdent text.toList = true ∧ text' = text := by
  simp only [check]
  split
  · next hempty =>
    rw [List.isEmpty_iff] at hempty
    simp [hempty, isIdent]
  · split
    · next hnonempty hdigits =>
      have hnot : isIdent text.toList = false := by
        cases hchars : text.toList with
        | nil => rfl
        | cons c cs =>
          rw [hchars] at hdigits
          have hdigit := List.all_eq_true.mp hdigits c List.mem_cons_self
          rw [isIdent, Text.startsName_of_isDigit hdigit, Bool.false_and]
      simp [hnot]
    · split
      · next hident => simp [hident, eq_comm]
      · next hnot => simp [hnot]

end Ident

namespace Source

/-! ### Names -/

/-- A raw name has `r#` in front. -/
def isRaw (name : String) : Bool := ['r', '#'].isPrefixOf name.toList

/-- A name: an identifier, or a raw name. -/
def IsName (name : String) : Prop :=
  Ident.isIdent (name.toList.drop (if isRaw name then 2 else 0)) = true

theorem not_continuesName_hash : Text.continuesName '#' = false := by decide +kernel

/-- An identifier is no raw name. -/
theorem not_isRaw_of_isIdent {name : String} (h : Ident.isIdent name.toList = true) :
    isRaw name = false := by
  rw [← Bool.not_eq_true, isRaw, List.isPrefixOf_iff_prefix]
  rintro ⟨rest, hrest⟩
  have hhash := (Ident.isIdent_iff.mp h).2 '#' (by rw [← hrest]; simp)
  rw [not_continuesName_hash] at hhash
  cases hhash

theorem isName_of_isIdent {name : String} (h : Ident.isIdent name.toList = true) :
    IsName name := by
  rw [IsName, not_isRaw_of_isIdent h]
  exact h

theorem isName_of_raw {cs : List Char} (h : Ident.isIdent cs = true) :
    IsName (String.ofList ('r' :: '#' :: cs)) := by
  have hraw : isRaw (String.ofList ('r' :: '#' :: cs)) = true := by simp [isRaw]
  rw [IsName, hraw, String.toList_ofList]
  exact h

/-- A name is an identifier as it stands unless it is raw. -/
theorem IsName.isIdent_iff {name : String} (h : IsName name) :
    Ident.isIdent name.toList = true ↔ isRaw name = false := by
  refine ⟨not_isRaw_of_isIdent, fun hraw => ?_⟩
  rw [IsName, hraw] at h
  exact h

/-- The characters that start like a name are an identifier up to the first one that ends it. -/
theorem isIdent_takeWhile {cs : List Char} (h : cs.head?.any Text.startsName = true) :
    Ident.isIdent (cs.takeWhile Text.continuesName) = true := by
  cases cs with
  | nil => cases h
  | cons c cs =>
    rw [List.head?_cons, Option.any_some] at h
    rw [List.takeWhile_cons_of_pos (Text.continuesName_of_startsName h), Ident.isIdent, h,
      Bool.true_and]
    exact List.all_takeWhile

theorem isName_of_name? {cs name rest : List Char} (h : name? cs = some (name, rest)) :
    IsName (String.ofList name) := by
  simp only [name?] at h
  split at h
  · next cs =>
    split at h
    · next found behind hfound =>
      split at h
      · cases h
      · cases h
        split at hfound
        · next hstart =>
          cases hfound
          exact isName_of_raw (isIdent_takeWhile hstart)
        · cases hfound
    · cases h
  · split at h
    · next hstart =>
      cases h
      refine isName_of_isIdent ?_
      rw [String.toList_ofList]
      exact isIdent_takeWhile hstart
    · cases h

/-! ### Tokens -/

/-- Tokens whose words are names. -/
def Named (ts : List Token) : Prop := ∀ w, .word w ∈ ts → IsName w

theorem Named.mono {ts ts' : List Token} (h : Named ts) (hsub : ts' ⊆ ts) : Named ts' :=
  fun w hw => h w (hsub hw)

theorem named_append {ts ts' : List Token} (h : Named ts) (h' : Named ts') : Named (ts ++ ts') := by
  intro w hw
  rcases List.mem_append.mp hw with hw | hw
  · exact h w hw
  · exact h' w hw

section Words

variable {cs rest : List Char} {w : String}

theorem scan?_ne_word : Literal.scan? cs ≠ some (.word w, rest) := by
  intro h
  simp only [Literal.scan?, Option.orElse_eq_orElse, Option.orElse_eq_or, Option.or_eq_some_iff,
    Option.map_eq_some_iff] at h
  rcases h with ⟨found, -, h⟩ | ⟨-, found, -, h⟩
  · cases h
  · cases h

theorem lifetime?_ne_word : lifetime? cs ≠ some (.word w, rest) := by
  intro h
  unfold lifetime? at h
  split at h
  · obtain ⟨⟨name, behind⟩, -, h⟩ := Option.bind_eq_some_iff.mp h
    simp only at h
    split at h
    · cases h
    · cases h
  · cases h

theorem mark?_ne_word : mark? cs ≠ some (.word w, rest) := by
  intro h
  unfold mark? at h
  split at h
  · cases h
  · split at h
    · cases h
    · cases h
    · split at h
      · cases h
      · cases h

/-- A word that is read in front is a name. -/
theorem isName_of_token? (h : token? cs = some (.word w, rest)) : IsName w := by
  simp only [token?, Option.orElse_eq_orElse, Option.orElse_eq_or, Option.or_eq_some_iff] at h
  rcases h with h | ⟨-, h | ⟨-, h | ⟨-, h⟩⟩⟩
  · exact absurd h scan?_ne_word
  · exact absurd h lifetime?_ne_word
  · exact absurd h mark?_ne_word
  · obtain ⟨⟨name, behind⟩, hname, hword⟩ := Option.map_eq_some_iff.mp h
    cases hword
    exact isName_of_name? hname

end Words

theorem named_documentation (inner : Bool) (comment : List Char) :
    Named (documentation inner comment) := by
  intro w hw
  have hdoc : w = "doc" := by cases inner <;> simpa [documentation] using hw
  subst hdoc
  exact isName_of_isIdent (by decide +kernel)

theorem named_nil : Named [] := nofun

theorem named_comment? {cs rest : List Char} {ts : List Token} (h : comment? cs = some (ts, rest)) :
    Named ts := by
  unfold comment? at h
  split at h
  · next cs =>
    simp only at h
    split at h
    all_goals cases h
    · exact named_nil
    · exact named_documentation false _
    · exact named_documentation true _
    · exact named_nil
  · cases h
    exact named_nil
  · obtain ⟨⟨inside, behind⟩, -, h⟩ := Option.bind_eq_some_iff.mp h
    simp only at h
    split at h
    all_goals cases h
    · exact named_nil
    · exact named_documentation false _
    · exact named_documentation true _
    · exact named_nil
  · cases h

theorem named_tokensWithin {limit : Nat} {cs : List Char} {ts : List Token}
    (h : tokensWithin limit cs = some ts) : Named ts := by
  induction limit generalizing cs ts with
  | zero =>
    cases cs with
    | nil =>
      cases h
      exact named_nil
    | cons c cs => cases h
  | succ limit ih =>
    cases cs with
    | nil =>
      cases h
      exact named_nil
    | cons c cs =>
      rw [tokensWithin] at h
      split at h
      · exact ih h
      · split at h
        · next found rest hcomment =>
          obtain ⟨others, hothers, rfl⟩ := Option.map_eq_some_iff.mp h
          exact named_append (named_comment? hcomment) (ih hothers)
        · obtain ⟨⟨t, rest⟩, htoken, h⟩ := Option.bind_eq_some_iff.mp h
          obtain ⟨others, hothers, h⟩ := Option.bind_eq_some_iff.mp h
          cases h
          intro w hw
          rcases List.mem_cons.mp hw with rfl | hw
          · exact isName_of_token? htoken
          · exact ih hothers w hw

/-- **The words of source text are names.** -/
theorem named_of_tokens? {source : String} {ts : List Token} (h : tokens? source = some ts) :
    Named ts :=
  named_tokensWithin (Option.eq_some_of_filter_eq_some h)

end Source

/-! ### Readings -/

namespace Reading

/-- What a reading of given tokens finds has a property, however many of them have been read. -/
def Gives {α : Type} (ts : List Token) (reading : Reading α) (P : α → Prop) : Prop :=
  ∀ c a c', reading ts c = .ok (a, c') → P a

variable {α β : Type} {ts : List Token} {reading : Reading α} {P : α → Prop}

theorem gives_any : Gives ts reading fun _ => True := fun _ _ _ _ => trivial

theorem gives_pure {a : α} (h : P a) : Gives ts (pure a) P := by
  intro c a' c' ha
  cases ha
  exact h

theorem gives_throw {fault : Source.Fault} : Gives ts (throw fault) P := by
  intro c a c' ha
  cases ha

theorem Gives.bind {next : α → Reading β} {R : β → Prop} (h : Gives ts reading P)
    (hnext : ∀ a, P a → Gives ts (next a) R) : Gives ts (reading >>= next) R := by
  intro c b c' hb
  obtain ⟨⟨a, between⟩, ha, hb⟩ := bind_eq_ok.mp hb
  exact hnext a (h c a between ha) between b c' hb

/-- What stands ahead is the end of the text. -/
theorem gives_ahead : Gives ts Source.ahead fun front => front <:+ ts := by
  intro c front c' h
  cases h
  exact List.drop_suffix _ _

theorem gives_missing {choices : List String} : Gives ts (Source.missing choices) P :=
  gives_ahead.bind fun _ _ => gives_throw

theorem Gives.inBrackets {b : Bracket} (h : Gives ts reading P) :
    Gives ts (Source.inBrackets b reading) P := by
  refine gives_ahead.bind fun front hfront => ?_
  split
  · refine gives_any.bind fun _ _ => h.bind fun a ha => gives_ahead.bind fun behind _ => ?_
    split
    · exact gives_any.bind fun _ _ => gives_any.bind fun _ _ => gives_any.bind fun _ _ =>
        gives_pure ha
    · exact gives_any.bind fun _ _ => gives_any.bind fun _ _ => gives_pure ha
  · exact gives_missing

theorem Gives.of_run {a : α} {written : List Token} (h : Gives ts reading P)
    (hrun : reading.run ts = .ok (a, written)) : P a := by
  obtain ⟨⟨a', cursor⟩, ha, hrest⟩ := bind_eq_ok.mp hrun
  simp only at hrest
  split at hrest
  · cases hrest
  · cases hrest
  · cases hrest
    exact h _ _ _ ha

end Reading

theorem Grammar.gives_read {α : Type} {reading : Grammar → Reading α} {ts written : List Token}
    {a : α} {P : α → Prop} (h : ∀ g, Reading.Gives ts (reading g) P)
    (hread : Grammar.read reading ts = .ok (a, written)) : P a :=
  (h _).of_run hread

/-! ### Paths and settings -/

open Reading Source

/-- A path of names. -/
def TypePath.Named (p : TypePath) : Prop := ∀ name ∈ p.names, IsName name

theorem TypePath.gives_readNames {ts : List Token} (h : Source.Named ts) (limit : Nat) :
    Gives ts (TypePath.readNames limit) fun names => ∀ name ∈ names, IsName name := by
  induction limit with
  | zero => exact gives_pure nofun
  | succ limit ih =>
    refine gives_ahead.bind fun front hfront => ?_
    split
    · next w rest =>
      have hw : IsName w := h w (hfront.subset List.mem_cons_self)
      split
      · refine gives_any.bind fun _ _ => gives_any.bind fun goesOn _ => ?_
        split
        · refine gives_ahead.bind fun behind _ => ?_
          split
          · exact ih.bind fun names hnames =>
              gives_pure (List.forall_mem_cons.mpr ⟨hw, hnames⟩)
          · exact gives_missing
        · exact gives_pure (List.forall_mem_singleton.mpr hw)
      · exact gives_throw
    · exact gives_missing

theorem TypePath.gives_read {ts : List Token} (h : Source.Named ts) :
    Gives ts TypePath.read TypePath.Named :=
  gives_any.bind fun _ _ => gives_any.bind fun _ _ =>
    (TypePath.gives_readNames h _).bind fun _ hnames => gives_pure hnames

namespace Setting

/-- What stands behind a path has names in a list. -/
def Shape.Named (shape : Shape) : Prop := ∀ inside, shape = .list inside → Source.Named inside

/-- A setting with names in its path and in what it holds. -/
structure Named (s : Setting) : Prop where
  path : s.path.Named
  shape : s.shape.Named

/-- An item of a list of settings with names. -/
def Item.Named : Item → Prop
  | .literal => True
  | .setting s => s.Named

variable {ts : List Token} (h : Source.Named ts) (g : Grammar)

include h

theorem gives_readShape : Gives ts (readShape g) Shape.Named := by
  refine gives_ahead.bind fun front hfront => ?_
  split
  · next b front =>
    refine gives_any.bind fun _ _ => gives_pure ?_
    intro inside hinside
    cases hinside
    refine h.mono fun t ht => hfront.subset ?_
    exact List.mem_cons_of_mem _ (List.mem_of_mem_take ht)
  · split
    · refine gives_any.bind fun _ _ => gives_any.bind fun _ _ => gives_any.bind fun _ _ => ?_
      exact gives_pure nofun
    · exact gives_pure nofun

theorem gives_read : Gives ts (read g) Named := by
  refine gives_ahead.bind fun front _ => ?_
  split
  · refine gives_any.bind fun _ _ => (gives_readShape h g).bind fun shape hshape => ?_
    have hname : IsName "unsafe" := isName_of_isIdent (by decide +kernel)
    exact gives_pure ⟨List.forall_mem_singleton.mpr hname, hshape⟩
  · refine (TypePath.gives_read h).bind fun path hpath => ?_
    exact (gives_readShape h g).bind fun shape hshape => gives_pure ⟨hpath, hshape⟩

theorem gives_readItem : Gives ts (readItem g) Item.Named := by
  refine gives_ahead.bind fun front _ => ?_
  split
  · exact gives_any.bind fun _ _ => gives_pure trivial
  · split
    · exact (gives_read h g).bind fun s hs => gives_pure hs
    · exact gives_missing

theorem gives_readItemsWithin (limit : Nat) :
    Gives ts (readItemsWithin g limit) fun items => ∀ item ∈ items, item.Named := by
  induction limit with
  | zero => exact gives_pure nofun
  | succ limit ih =>
    refine gives_ahead.bind fun front _ => ?_
    split
    · exact gives_pure nofun
    · refine (gives_readItem h g).bind fun item hitem => gives_ahead.bind fun behind _ => ?_
      split
      · exact gives_pure (List.forall_mem_singleton.mpr hitem)
      · exact gives_any.bind fun _ _ => ih.bind fun items hitems =>
          gives_pure (List.forall_mem_cons.mpr ⟨hitem, hitems⟩)

/-- The settings of a list have names. -/
theorem gives_readItems : Gives ts (readItems g) fun items => ∀ item ∈ items, item.Named :=
  gives_any.bind fun _ _ => gives_readItemsWithin h g _

theorem gives_readAttribute : Gives ts (readAttribute g) Named :=
  gives_any.bind fun _ _ => (gives_read h g).inBrackets

theorem gives_readAttributesWithin (limit : Nat) :
    Gives ts (readAttributesWithin g limit) fun attributes => ∀ s ∈ attributes, s.Named := by
  induction limit with
  | zero => exact gives_pure nofun
  | succ limit ih =>
    refine gives_ahead.bind fun front _ => ?_
    split
    · refine (gives_readAttribute h g).bind fun s hs => ih.bind fun others hothers => ?_
      exact gives_pure (List.forall_mem_cons.mpr ⟨hs, hothers⟩)
    · exact gives_pure nofun

/-- Attributes have names. -/
theorem gives_readAttributes :
    Gives ts (readAttributes g) fun attributes => ∀ s ∈ attributes, s.Named :=
  gives_any.bind fun _ _ => gives_readAttributesWithin h g _

end Setting

/-! ### Declarations -/

theorem Source.gives_readIdentifier {ts : List Token} (h : Named ts) :
    Gives ts readIdentifier IsName := by
  refine gives_ahead.bind fun front hfront => ?_
  split
  · next w rest =>
    split
    · exact gives_throw
    · exact gives_any.bind fun _ _ => gives_pure (h w (hfront.subset List.mem_cons_self))
  · exact gives_missing

namespace Declaration

/-- A declaration with names in the places of names. -/
structure Named (d : Declaration) : Prop where
  name : IsName d.name
  attributes : ∀ s ∈ d.attributes, s.Named

theorem gives_read {ts : List Token} (h : Source.Named ts) (g : Grammar) :
    Gives ts (read g) Named := by
  refine (Setting.gives_readAttributes h g).bind fun attributes hattributes => ?_
  refine gives_any.bind fun visibility _ => gives_ahead.bind fun front _ => ?_
  have hrest : Gives ts (do
      let name ← readIdentifier
      let parameters ← ParameterReading.parameters g
      return (⟨attributes, visibility.2, startsWithWord "enum" front, name, parameters⟩ :
        Declaration)) Named :=
    (gives_readIdentifier h).bind fun name hname =>
      gives_any.bind fun _ _ => gives_pure ⟨hname, hattributes⟩
  obtain ⟨_, visibility⟩ := visibility
  simp only
  split
  · exact gives_any.bind fun _ _ => hrest
  · exact gives_any.bind fun _ _ => hrest

/-- **What is declared has a name, and so have its attributes.** -/
theorem named_of_read? {source : String} {declared : Declaration}
    (h : read? source = some declared) : declared.Named := by
  obtain ⟨ts, hts, h⟩ := Option.bind_eq_some_iff.mp h
  simp only at h
  split at h
  · next found written hread =>
    cases h
    refine Grammar.gives_read (fun g => ?_) hread
    refine (gives_read (named_of_tokens? hts) g).bind fun found hfound => ?_
    refine gives_ahead.bind fun behind _ => ?_
    split
    · exact gives_any.bind fun _ _ => gives_any.bind fun _ _ => gives_pure hfound
    · exact gives_any.bind fun _ _ => gives_pure hfound
  · cases h

end Declaration
end EventSourcing
