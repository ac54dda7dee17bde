import EventSourcing.Derive.Expansion
import EventSourcing.Proofs.Answer
import EventSourcing.Proofs.Derive.Words

/-!
# What becomes of declarations

A declaration of an event becomes code, or it is reported what is wrong with it.  So does that of an
aggregate as long as something is wrong with its settings.  If nothing is, the code gets names: the
variants are named after the paths of events, and the enumeration by a setting or after the
aggregate.  These names are not checked beforehand, and building breaks off at one that is no
identifier.  A path gives no name if it has no letters and numbers, or if no name starts with the
capital of the first of them; the aggregate gives none if its own name is raw.

## Main Definitions

* `Expansion.Answers` — code or reported problems.
* `TypePath.isNameless` — paths after which no variant can be named.
* `Derive.Accepts`, `Derive.lacksEnumName` — declarations whose settings are in order, and those
  whose enumeration gets no name.

## Main Statements

* `AggregateSettings.sound_ofAttributes` — settings without problems have been understood.
* `Derive.build_succeeds_iff` — code is built if all its names are identifiers.
* `Derive.breaksOff_exactly` — what becomes of every declaration that there is.
-/

namespace EventSourcing

open Source Derive

/-! ### Names of variants -/

namespace TypePath

/-- The first letter or number of a path. -/
def lead? (p : TypePath) : Option Char := (p.names.flatMap String.toList).find? Text.isAlphanumeric

/-- Whether no variant can be named after a path: no name starts with the capital of its first
letter or number, if there is any. -/
def isNameless (p : TypePath) : Bool := !p.lead?.any Words.startsCapital

/-- The names of a path with underscores between them have its letters and numbers. -/
theorem filter_join (p : TypePath) :
    ("_".intercalate p.names).toList.filter Text.isAlphanumeric =
      (p.names.flatMap String.toList).filter Text.isAlphanumeric := by
  have hunderscore : Text.isAlphanumeric '_' = false := by decide +kernel
  rw [String.toList_intercalate, List.flatMap_def]
  exact filter_intercalate (List.forall_mem_singleton.mpr hunderscore) _

/-- A variant can be named after a path of names unless this is nameless. -/
theorem exists_variant_iff {p : TypePath} (h : p.Named) :
    (∃ v, variant p = .ok v) ↔ p.isNameless = false := by
  have hcontinues : ∀ c ∈ ("_".intercalate p.names).toList,
      Text.isAlphanumeric c = true → Text.continuesName c = true := by
    intro c hc halphanumeric
    have hmem := List.mem_filter.mpr ⟨hc, halphanumeric⟩
    rw [filter_join] at hmem
    obtain ⟨name, hname, hc⟩ := List.mem_flatMap.mp (List.mem_filter.mp hmem).1
    exact (h name hname).continuesName hc halphanumeric
  have hident : Ident.isIdent (Words.upperCamel ("_".intercalate p.names)).toList = true ↔
      p.isNameless = false := by
    rw [Words.isIdent_upperCamel_iff hcontinues, isNameless, Bool.not_eq_false', lead?,
      ← List.head?_filter, ← List.head?_filter, filter_join]
  rw [← hident]
  constructor
  · rintro ⟨v, hv⟩
    obtain ⟨name, hname, -⟩ := bind_eq_ok.mp hv
    exact (Ident.check_eq_ok.mp hname).1
  · intro hname
    exact ⟨⟨_, p⟩, bind_eq_ok.mpr ⟨_, Ident.check_eq_ok.mpr ⟨hname, rfl⟩, rfl⟩⟩

end TypePath

/-! ### Settings without problems -/

namespace Derive

theorem exists_of_give {α : Type} {name : String} {before : Given α} {found : Understood α}
    (h : (give name before found).2 = []) :
    ∃ a, found = .ok a ∧ (give name before found).1 = some (some a) := by
  unfold give at h ⊢
  split at h
  · cases h
  · next a => exact ⟨a, rfl, rfl⟩
  · cases h

theorem named_of_items {inside : List Token} {found : List Setting.Item}
    (hinside : Source.Named inside) (h : items inside = .ok found) :
    ∀ item ∈ found, item.Named := by
  unfold items at h
  split at h
  · next found' written hread =>
    cases h
    exact Grammar.gives_read (fun g => Setting.gives_readItems hinside g) hread
  · cases h

theorem named_of_paths {shape : Setting.Shape} {found : List TypePath} (hshape : shape.Named)
    (h : paths shape = .ok found) : ∀ path ∈ found, path.Named := by
  unfold paths at h
  split at h
  · cases h
  · next inside =>
    obtain ⟨items, hitems, hpaths⟩ := bind_eq_ok.mp h
    intro path hpath
    obtain ⟨item, hitem, h⟩ := exists_of_mem_mapM hpaths hpath
    have hnamed := named_of_items (hshape inside rfl) hitems item hitem
    split at h
    · cases h
      exact hnamed.path
    · cases h
  · cases h

section Attributes

variable {σ : Type} {add : σ → Setting.Item → σ × List Problem} {P : σ → Prop}
  (hadd : ∀ s item s', P s → item.Named → add s item = (s', []) → P s')

include hadd

theorem keeps_addAll {s : σ} {items : List Setting.Item} (hs : P s)
    (hitems : ∀ item ∈ items, item.Named) (h : (addAll add s items).2 = []) :
    P (addAll add s items).1 := by
  induction items generalizing s with
  | nil => exact hs
  | cons item items ih =>
    obtain ⟨hitem, hitems⟩ := List.forall_mem_cons.mp hitems
    obtain ⟨hfirst, hothers⟩ := List.append_eq_nil_iff.mp h
    exact ih (hadd s item _ hs hitem (Prod.ext rfl hfirst)) hitems hothers

theorem keeps_addAttribute {s : σ} {attribute' : Setting} (hs : P s) (hnamed : attribute'.Named)
    (h : (addAttribute add s attribute').2 = []) : P (addAttribute add s attribute').1 := by
  unfold addAttribute at h ⊢
  split at h
  · next hshape => exact hs
  · cases h
  · next inside hshape =>
    split at h
    · next found hfound =>
      exact keeps_addAll hadd hs (named_of_items (hnamed.shape inside hshape) hfound) h
    · cases h

theorem keeps_addAttributes {name : String} {s : σ} {attributes : List Setting} (hs : P s)
    (hnamed : ∀ a ∈ attributes, a.Named) (h : (addAttributes add name s attributes).2 = []) :
    P (addAttributes add name s attributes).1 := by
  induction attributes generalizing s with
  | nil => exact hs
  | cons attribute' others ih =>
    obtain ⟨hattribute, hothers⟩ := List.forall_mem_cons.mp hnamed
    by_cases hname : attribute'.path = ⟨false, [name]⟩
    · rw [addAttributes, if_pos hname] at h ⊢
      obtain ⟨hfirst, hrest⟩ := List.append_eq_nil_iff.mp h
      exact ih (keeps_addAttribute hadd hs hattribute hfirst) hothers hrest
    · rw [addAttributes, if_neg hname] at h ⊢
      obtain ⟨-, hrest⟩ := List.append_eq_nil_iff.mp h
      exact ih hs hothers hrest

end Attributes
end Derive

namespace AggregateSettings

/-- Settings that have been understood as far as they must be given. -/
structure Sound (s : AggregateSettings) : Prop where
  id : s.id ≠ some none
  error : s.error ≠ some none
  events : ∀ found, s.events = some found → ∃ paths, found = some paths ∧ ∀ path ∈ paths, path.Named

/-- A setting that is no problem has been understood. -/
theorem sound_add {s s' : AggregateSettings} {item : Setting.Item} (hs : s.Sound)
    (hitem : item.Named) (h : s.add item = (s', [])) : s'.Sound := by
  unfold add at h
  split at h
  · cases h
  · next path shape =>
    simp only at h
    split at h
    · obtain ⟨rfl, hnone⟩ := Prod.mk.inj h
      obtain ⟨id, -, hid⟩ := exists_of_give hnone
      exact ⟨by rw [hid]; nofun, hs.error, hs.events⟩
    split at h
    · obtain ⟨rfl, hnone⟩ := Prod.mk.inj h
      obtain ⟨error, -, herror⟩ := exists_of_give hnone
      exact ⟨hs.id, by rw [herror]; nofun, hs.events⟩
    split at h
    · obtain ⟨rfl, hnone⟩ := Prod.mk.inj h
      obtain ⟨found, hfound, hevents⟩ := exists_of_give hnone
      refine ⟨hs.id, hs.error, fun given hgiven => ?_⟩
      rw [hevents] at hgiven
      cases hgiven
      exact ⟨found, rfl, named_of_paths hitem.shape hfound⟩
    -- What else may be set need not be.
    split at h
    · obtain ⟨rfl, -⟩ := Prod.mk.inj h
      exact ⟨hs.id, hs.error, hs.events⟩
    split at h
    · obtain ⟨rfl, -⟩ := Prod.mk.inj h
      exact ⟨hs.id, hs.error, hs.events⟩
    split at h
    · obtain ⟨rfl, -⟩ := Prod.mk.inj h
      exact ⟨hs.id, hs.error, hs.events⟩
    split at h
    · obtain ⟨rfl, -⟩ := Prod.mk.inj h
      exact ⟨hs.id, hs.error, hs.events⟩
    · cases h

/-- Settings without problems have been understood. -/
theorem sound_ofAttributes {attributes : List Setting} (hnamed : ∀ a ∈ attributes, a.Named)
    (h : (ofAttributes attributes).2 = []) : (ofAttributes attributes).1.Sound :=
  keeps_addAttributes (fun _ _ _ hs hitem hadd => sound_add hs hitem hadd)
    ⟨nofun, nofun, nofun⟩ hnamed h

/-- Nothing is missing only if everything that must be given is. -/
theorem isSome_of_missing {s : AggregateSettings} (h : s.missing = []) :
    s.id.isSome = true ∧ s.error.isSome = true ∧ s.events.isSome = true := by
  simp only [missing, List.append_eq_nil_iff, ite_eq_left_iff, List.cons_ne_nil, imp_false,
    Bool.not_eq_true, Bool.not_eq_false] at h
  exact ⟨h.1.1, h.1.2, h.2⟩

end AggregateSettings

/-! ### Outcomes -/

/-- Whether code or at least one problem becomes of a declaration. -/
def Expansion.Answers {α : Type} : Expansion α → Prop
  | .code _ => True
  | .problems found => found ≠ []
  | .breaksOff _ => False

namespace Derive

variable {declared : Declaration}

/-- The settings of the declaration of an aggregate. -/
abbrev settingsOf (declared : Declaration) : AggregateSettings :=
  (AggregateSettings.ofAttributes declared.attributes).1

/-- Nothing is wrong with the settings of a declaration, with which types of events are given. -/
structure Accepts (declared : Declaration) (paths : List TypePath) : Prop where
  noProblems : problems declared = []
  events : (settingsOf declared).events = some (some paths)
  nonempty : paths ≠ []

/-- Whether the enumeration of events gets no name: the one that is set is no identifier, or none is
set and the name of the aggregate is raw. -/
def lacksEnumName (declared : Declaration) : Bool :=
  match (settingsOf declared).eventEnum.join with
  | some name => !Ident.isIdent name.toList
  | none => isRaw declared.name

/-- A variant of the enumeration of events gets no name, or the enumeration itself gets none. -/
def LacksName (declared : Declaration) (paths : List TypePath) : Prop :=
  (∃ path ∈ paths, path.isNameless = true) ∨ lacksEnumName declared = true

instance (paths : List TypePath) : Decidable (LacksName declared paths) :=
  inferInstanceAs (Decidable (_ ∨ _))

/-- The types of events are those that are given. -/
theorem Accepts.unique {paths paths' : List TypePath} (h : Accepts declared paths)
    (h' : Accepts declared paths') : paths = paths' :=
  Option.some.inj (Option.some.inj (h.events.symm.trans h'.events))

/-- If there are no problems, all that must be set has been understood. -/
theorem understood_of_noProblems (hnamed : declared.Named) (h : problems declared = []) :
    ∃ id error paths, (settingsOf declared).id = some (some id) ∧
      (settingsOf declared).error = some (some error) ∧
      (settingsOf declared).events = some (some paths) ∧ ∀ path ∈ paths, path.Named := by
  obtain ⟨hfound, hmissing⟩ := List.append_eq_nil_iff.mp h
  have hsound := AggregateSettings.sound_ofAttributes hnamed.attributes
    (List.append_eq_nil_iff.mp hfound).1
  obtain ⟨hid, herror, hevents⟩ := AggregateSettings.isSome_of_missing hmissing
  obtain ⟨id, hid⟩ := Option.isSome_iff_exists.mp hid
  obtain ⟨error, herror⟩ := Option.isSome_iff_exists.mp herror
  obtain ⟨events, hevents⟩ := Option.isSome_iff_exists.mp hevents
  obtain ⟨paths, rfl, hpaths⟩ := hsound.events events hevents
  cases id with
  | none => exact absurd hid hsound.id
  | some id =>
    cases error with
    | none => exact absurd herror hsound.error
    | some error => exact ⟨id, error, paths, hid, herror, hevents, hpaths⟩

theorem isIdent_enumName_iff (hnamed : declared.Named) :
    Ident.isIdent ((settingsOf declared).eventEnum.join.getD (declared.name ++ "Event")).toList =
        true ↔ lacksEnumName declared = false := by
  unfold lacksEnumName
  cases (settingsOf declared).eventEnum.join with
  | some name => simp
  | none => exact hnamed.name.isIdent_append_iff (by decide +kernel)

/-- Code is built unless it lacks a name. -/
theorem build_succeeds_iff (hnamed : declared.Named) {id error : String} {paths : List TypePath}
    (hpaths : ∀ path ∈ paths, path.Named) :
    (∃ code, build declared (settingsOf declared) id error paths = .ok code) ↔
      ¬ LacksName declared paths := by
  have hvariants : (∃ vs, paths.mapM variant = .ok vs) ↔
      ¬ ∃ path ∈ paths, path.isNameless = true := by
    simp only [exists_mapM_iff, not_exists, not_and, Bool.not_eq_true]
    exact forall₂_congr fun path hpath => TypePath.exists_variant_iff (hpaths path hpath)
  rw [LacksName, not_or, ← hvariants, Bool.not_eq_true, ← isIdent_enumName_iff hnamed]
  constructor
  · rintro ⟨code, hcode⟩
    obtain ⟨vs, hvs, hrest⟩ := bind_eq_ok.mp hcode
    obtain ⟨name, hname, -⟩ := bind_eq_ok.mp hrest
    exact ⟨⟨vs, hvs⟩, (Ident.check_eq_ok.mp hname).1⟩
  · rintro ⟨⟨vs, hvs⟩, hname⟩
    have hchecked := Ident.check_eq_ok.mpr ⟨hname, rfl⟩
    exact ⟨_, bind_eq_ok.mpr ⟨vs, hvs, bind_eq_ok.mpr ⟨_, hchecked, rfl⟩⟩⟩

/-- The declaration of an event is always answered, by code if its settings are in order. -/
theorem answers_expandEvent (declared : Declaration) :
    (expandEvent declared).Answers ∧
      ((∃ code, expandEvent declared = .code code) ↔
        (EventSettings.ofAttributes declared.attributes).2 = []) := by
  unfold expandEvent
  obtain ⟨settings, found⟩ := EventSettings.ofAttributes declared.attributes
  cases found with
  | nil => exact ⟨trivial, ⟨fun _ => rfl, fun _ => ⟨_, rfl⟩⟩⟩
  | cons problem others =>
    refine ⟨List.cons_ne_nil problem others, ?_⟩
    constructor
    · rintro ⟨code, hcode⟩
      cases hcode
    · intro hnone
      cases hnone

/-- Unless the settings of an aggregate are in order, it is reported what is wrong with them. -/
theorem reported_of_not_accepts (hnamed : declared.Named) (h : ∀ paths, ¬ Accepts declared paths) :
    ∃ found, expand declared = .problems found ∧ found ≠ [] := by
  by_cases hproblems : problems declared = []
  · obtain ⟨id, error, paths, hid, herror, hevents, -⟩ :=
      understood_of_noProblems hnamed hproblems
    obtain rfl : paths = [] := by
      by_cases hempty : paths = []
      · exact hempty
      · exact absurd ⟨hproblems, hevents, hempty⟩ (h paths)
    refine ⟨[.noEvents], ?_, List.cons_ne_nil _ _⟩
    simp only [expand, hproblems, hid, herror, hevents, Option.join_some, List.isEmpty_nil,
      if_true]
  · refine ⟨problems declared, ?_, hproblems⟩
    simp only [expand]
    split
    · next hnone _ _ _ => exact absurd hnone hproblems
    · rfl

/-- If the settings of an aggregate are in order, it becomes code unless this lacks a name. -/
theorem expand_of_accepts (hnamed : declared.Named) {paths : List TypePath}
    (h : Accepts declared paths) :
    ((∃ code, expand declared = .code code) ∧ ¬ LacksName declared paths) ∨
      ((∃ fault, expand declared = .breaksOff fault) ∧ LacksName declared paths) := by
  obtain ⟨id, error, found, hid, herror, hfound, hpaths⟩ :=
    understood_of_noProblems hnamed h.noProblems
  obtain rfl : paths = found := Option.some.inj (Option.some.inj (h.events.symm.trans hfound))
  have hnonempty : paths.isEmpty = false := by simpa using h.nonempty
  have hnames : (∃ code, build declared (settingsOf declared) id error paths = .ok code) ↔
      ¬ LacksName declared paths :=
    build_succeeds_iff hnamed hpaths
  simp only [expand, h.noProblems, hid, herror, hfound, Option.join_some, hnonempty,
    Bool.false_eq_true, if_false]
  cases hbuild : build declared (settingsOf declared) id error paths with
  | ok code => exact .inl ⟨⟨code, rfl⟩, hnames.mp ⟨code, hbuild⟩⟩
  | error fault =>
    refine .inr ⟨⟨fault, rfl⟩, Decidable.byContradiction fun hcomplete => ?_⟩
    obtain ⟨code, hcode⟩ := hnames.mpr hcomplete
    rw [hbuild] at hcode
    cases hcode

/-- **What becomes of a declaration**, whatever the source text.  That of an event is answered, by
code if its settings are in order and otherwise by the problems that they have.  So is that of an
aggregate unless building its code breaks off; and it does so if and only if the settings are in
order but the code lacks a name. -/
theorem breaksOff_exactly {source : String} {declared : Declaration}
    (hread : Declaration.read? source = some declared) :
    ((expandEvent declared).Answers ∧
      ((∃ code, expandEvent declared = .code code) ↔
        (EventSettings.ofAttributes declared.attributes).2 = [])) ∧
    ((expand declared).Answers ∨ ∃ fault, expand declared = .breaksOff fault) ∧
    ((∃ code, expand declared = .code code) ↔
      ∃ paths, Accepts declared paths ∧ ¬ LacksName declared paths) ∧
    ((∃ fault, expand declared = .breaksOff fault) ↔
      ∃ paths, Accepts declared paths ∧ LacksName declared paths) := by
  have hnamed := Declaration.named_of_read? hread
  refine ⟨answers_expandEvent declared, ?_⟩
  by_cases haccepts : ∃ paths, Accepts declared paths
  · obtain ⟨paths, haccepts⟩ := haccepts
    rcases expand_of_accepts hnamed haccepts with
      ⟨⟨code, hcode⟩, hnames⟩ | ⟨⟨fault, hfault⟩, hlacks⟩
    · rw [hcode]
      refine ⟨.inl trivial, ⟨fun _ => ⟨paths, haccepts, hnames⟩, fun _ => ⟨code, rfl⟩⟩, ?_⟩
      constructor
      · rintro ⟨fault, hfault⟩
        cases hfault
      · rintro ⟨found, hfound, hlacks⟩
        obtain rfl := hfound.unique haccepts
        exact absurd hlacks hnames
    · rw [hfault]
      refine ⟨.inr ⟨fault, rfl⟩, ?_, ⟨fun _ => ⟨paths, haccepts, hlacks⟩, fun _ => ⟨fault, rfl⟩⟩⟩
      constructor
      · rintro ⟨code, hcode⟩
        cases hcode
      · rintro ⟨found, hfound, hnames⟩
        obtain rfl := hfound.unique haccepts
        exact absurd hlacks hnames
  · have hnone : ∀ paths, ¬ Accepts declared paths := not_exists.mp haccepts
    obtain ⟨found, hexpand, hfound⟩ := reported_of_not_accepts hnamed hnone
    rw [hexpand]
    refine ⟨.inl hfound, ?_, ?_⟩
    · constructor
      · rintro ⟨code, hcode⟩
        cases hcode
      · rintro ⟨paths, hpaths, -⟩
        exact absurd hpaths (hnone paths)
    · constructor
      · rintro ⟨fault, hfault⟩
        cases hfault
      · rintro ⟨paths, hpaths, -⟩
        exact absurd hpaths (hnone paths)

/-- A declaration of which the settings are in order. -/
def till : AggregateInput where
  name := "Till"
  item := .unit
  visibility := ""
  id := some (.value "Id")
  error := some (.value "Fault")
  events := some ["Paid"]
  kind := none
  eventEnum := none
  derives := none
  tenantScoped := false

/-- The declaration becomes code; with a number in front of the name that is set for the
enumeration, building it breaks off. -/
theorem breaksOff_exactly_till :
    (∃ declared code, Declaration.read? till.source = some declared ∧
      expand declared = .code code) ∧
    ∃ declared fault,
      Declaration.read? { till with eventEnum := some "1bad" }.source = some declared ∧
        expand declared = .breaksOff fault := by
  have hplain : (Declaration.read? till.source).any (fun declared =>
      problems declared = [] ∧ (settingsOf declared).events = some (some [⟨false, ["Paid"]⟩]) ∧
        ¬ LacksName declared [⟨false, ["Paid"]⟩]) = true := by
    decide +kernel
  have hbad : (Declaration.read? { till with eventEnum := some "1bad" }.source).any (fun declared =>
      problems declared = [] ∧ (settingsOf declared).events = some (some [⟨false, ["Paid"]⟩]) ∧
        LacksName declared [⟨false, ["Paid"]⟩]) = true := by
    decide +kernel
  constructor
  · obtain ⟨declared, hread, hgiven⟩ := (Option.any_eq_true _ _).mp hplain
    obtain ⟨hnone, hevents, hnames⟩ := of_decide_eq_true hgiven
    have haccepts : Accepts declared _ := ⟨hnone, hevents, List.cons_ne_nil _ _⟩
    obtain ⟨code, hcode⟩ := (breaksOff_exactly hread).2.2.1.mpr ⟨_, haccepts, hnames⟩
    exact ⟨declared, code, hread, hcode⟩
  · obtain ⟨declared, hread, hgiven⟩ := (Option.any_eq_true _ _).mp hbad
    obtain ⟨hnone, hevents, hlacks⟩ := of_decide_eq_true hgiven
    have haccepts : Accepts declared _ := ⟨hnone, hevents, List.cons_ne_nil _ _⟩
    obtain ⟨fault, hfault⟩ := (breaksOff_exactly hread).2.2.2.mpr ⟨_, haccepts, hlacks⟩
    exact ⟨declared, fault, hread, hfault⟩

/-- Building code breaks off at the name that is set for the enumeration, at a raw name of the
aggregate, and at the path of an event. -/
theorem breaksOff_at_names :
    aggregate { till with eventEnum := some "1bad" } = some (.breaksOff (.invalid "1bad")) ∧
      aggregate { till with name := "r#type" } = some (.breaksOff (.invalid "r#typeEvent")) ∧
      aggregate { till with events := some ["Paid", "_1a"] } =
        some (.breaksOff (.invalid "1a")) := by
  decide +kernel

end Derive
end EventSourcing
