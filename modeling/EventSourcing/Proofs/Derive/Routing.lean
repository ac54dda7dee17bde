import EventSourcing.Derive.Enumeration
import EventSourcing.Proofs.Answer
import EventSourcing.Proofs.Event.Kinds
import EventSourcing.Proofs.Event.RoundTrip
import EventSourcing.Sample.Post

/-!
# Stored events find their variants

The derived enumeration tries its variants in the order in which their types are declared.  As long
as no two types have one kind, the bytes of an event come back to its variant.  Where two have, the
bytes of the later one are read as a payload of the earlier one.

## Main Statements

* `Derive.expand_eq_code` — the variants stand for the declared types, in their order.
* `Derive.AggregateCode.decode_events` — bytes are read by the first variant of their kind.
* `Derive.Tables.decodeBy_of_find?`, `Derive.Tables.decodeBy_of_none` — so they are by the derived
  tests, which are made one after the other.
* `Derive.AggregateCode.kind?_tables`, `encode?_tables`, `decode?_tables` — the derived tables
  agree.
* `Derive.AggregateCode.decode_routes` — where stored events are read to, for all kinds and all
  codecs.
-/

namespace EventSourcing.Derive

/-! ### Declarations -/

theorem type_of_mapM_variant {paths : List TypePath} {vs : List Variant}
    (h : paths.mapM variant = .ok vs) : vs.map Variant.type = paths := by
  induction paths generalizing vs with
  | nil =>
    cases h
    rfl
  | cons path paths ih =>
    obtain ⟨v, hv, rest, hrest, rfl⟩ := mapM_cons_eq_ok.mp h
    obtain ⟨name, -, hname⟩ := bind_eq_ok.mp hv
    cases hname
    rw [List.map_cons, ih hrest]

/-- **The variants of derived code stand for the declared types**, in their order; there is at least
one. -/
theorem expand_eq_code {declared : Declaration} {code : AggregateCode}
    (h : expand declared = .code code) :
    ∃ paths, (AggregateSettings.ofAttributes declared.attributes).1.events = some (some paths) ∧
      paths ≠ [] ∧ code.variants.map Variant.type = paths := by
  rw [expand] at h
  split at h
  · next id error paths hproblems hid herror hpaths =>
    split at h
    · cases h
    · next hnonempty =>
      split at h
      · next built hbuild =>
        cases h
        obtain ⟨vs, hvs, hrest⟩ := bind_eq_ok.mp hbuild
        obtain ⟨name, -, hcode⟩ := bind_eq_ok.mp hrest
        cases hcode
        refine ⟨paths, Option.join_eq_some_iff.mp hpaths, ?_, type_of_mapM_variant hvs⟩
        rintro rfl
        exact hnonempty rfl
      · cases h
  · cases h

/-! ### Values of the enumeration -/

namespace Enumerated

variable {scope : Scope} {vs : List Variant} {codec : Codec}

theorem types_eq_map (vs : List Variant) : types scope vs = vs.map fun v => scope v.type := by
  induction vs with
  | nil => rfl
  | cons v vs ih => rw [types, List.map_cons, ih]

theorem kind_toMember (e : Enumerated scope vs) :
    (toMember vs e).kind = (scope e.variant.type).kind := by
  induction vs with
  | nil => exact absurd e.declared List.not_mem_nil
  | cons v vs ih =>
    obtain ⟨variant, declared, payload⟩ := e
    by_cases h : variant = v
    · subst h
      rw [toMember, dif_pos rfl, Member.kind]
    · rw [toMember, dif_neg h, Member.kind, ih]

theorem encode_toMember (e : Enumerated scope vs) :
    (toMember vs e).encode codec = codec.encode (scope e.variant.type).schema e.payload := by
  induction vs with
  | nil => exact absurd e.declared List.not_mem_nil
  | cons v vs ih =>
    obtain ⟨variant, declared, payload⟩ := e
    by_cases h : variant = v
    · subst h
      rw [toMember, dif_pos rfl, Member.encode]
    · rw [toMember, dif_neg h, Member.encode, ih]

/-- What bytes are as a payload under a variant does not depend on the other variants. -/
theorem map_behind_decodeAs {v w : Variant} (hv : v ∈ vs) (kind : String) (data : Bytes) :
    (decodeAs codec v hv kind data : Except DecodeError (Enumerated scope vs)).map (behind w) =
      decodeAs codec v (List.mem_cons_of_mem w hv) kind data := by
  unfold decodeAs
  cases codec.decode (scope v.type).schema data <;> rfl

/-- Bytes are read by the first variant of their kind. -/
theorem decode?_of_find? (codec : Codec) {kind : String} (data : Bytes) {v : Variant}
    (h : vs.find? (fun v => (scope v.type).kind = kind) = some v) :
    ∃ read, Member.decode? codec kind data (types scope vs) = some read ∧
      read.map (ofMember vs) = decodeAs codec v (List.mem_of_find?_eq_some h) kind data := by
  induction vs with
  | nil => cases h
  | cons w vs ih =>
    rw [Member.decode?]
    by_cases hw : (scope w.type).kind = kind
    · obtain rfl : w = v := by simpa [hw] using h
      refine ⟨_, if_pos hw, ?_⟩
      rw [decodeAs]
      cases codec.decode (scope w.type).schema data <;> rfl
    · have hrest : vs.find? (fun v => (scope v.type).kind = kind) = some v := by
        simpa [hw] using h
      obtain ⟨read, hread, has⟩ := ih hrest
      refine ⟨read.map .there, by rw [if_neg hw, hread]; rfl, ?_⟩
      rw [← map_behind_decodeAs (List.mem_of_find?_eq_some hrest), ← has]
      cases read <;> rfl

/-- What is read under a variant is no value of another variant. -/
theorem decodeAs_ne_ok {v : Variant} (hv : v ∈ vs) {kind : String} {data : Bytes}
    {e : Enumerated scope vs} (hne : v ≠ e.variant) :
    decodeAs codec v hv kind data ≠ .ok e := by
  intro heq
  rw [decodeAs] at heq
  split at heq
  · cases heq
    exact hne rfl
  · cases heq

/-- If two of a list have one kind, a later one has that of an earlier one, which is the first of
its kind. -/
theorem exists_shadowed {kindOf : Variant → String} {vs : List Variant}
    (h : ¬ (vs.map kindOf).Nodup) :
    ∃ earlier later, [earlier, later].Sublist vs ∧ kindOf earlier = kindOf later ∧
      vs.find? (fun v => kindOf v = kindOf later) = some earlier := by
  induction vs with
  | nil => exact absurd List.nodup_nil h
  | cons v vs ih =>
    by_cases hv : kindOf v ∈ vs.map kindOf
    · obtain ⟨later, hlater, hkind⟩ := List.mem_map.mp hv
      refine ⟨v, later, (List.singleton_sublist.mpr hlater).cons_cons v, hkind.symm, ?_⟩
      simp [hkind]
    · have hrest : ¬ (vs.map kindOf).Nodup := fun hrest => h (List.nodup_cons.mpr ⟨hv, hrest⟩)
      obtain ⟨earlier, later, hsub, hkind, hfirst⟩ := ih hrest
      have hlater : later ∈ vs := hsub.subset (List.mem_cons_of_mem _ List.mem_cons_self)
      have hne : kindOf v ≠ kindOf later := fun heq => hv (heq ▸ List.mem_map_of_mem hlater)
      exact ⟨earlier, later, hsub.cons v, hkind, by simpa [hne] using hfirst⟩

/-- A variant is found by its name. -/
theorem find?_name (hnames : (vs.map Variant.name).Nodup) {v : Variant} (hv : v ∈ vs) :
    vs.find? (fun w => w.name = v.name) = some v := by
  induction vs with
  | nil => cases hv
  | cons w vs ih =>
    obtain ⟨hnot, hrest⟩ := List.nodup_cons.mp hnames
    rcases List.mem_cons.mp hv with rfl | hv
    · simp
    · have hne : w.name ≠ v.name := fun heq => hnot (heq ▸ List.mem_map_of_mem hv)
      simpa [hne] using ih hrest hv

end Enumerated

/-! ### Tests one after the other -/

namespace Tables

variable {scope : Scope} {declared vs : List Variant} {codec : Codec} {kind : String} {data : Bytes}

/-- The tests for some variants read an event under the first one of its kind. -/
theorem decodeBy_of_find? (tables : Tables) (hnames : (declared.map Variant.name).Nodup)
    (hvs : vs ⊆ declared) {v : Variant}
    (h : vs.find? (fun v => (scope v.type).kind = kind) = some v) :
    tables.decodeBy scope codec kind data (vs.map fun v => ⟨v.type, v.name⟩) =
      some (Enumerated.decodeAs codec v (hvs (List.mem_of_find?_eq_some h)) kind data) := by
  induction vs with
  | nil => cases h
  | cons w vs ih =>
    rw [List.map_cons, decodeBy]
    by_cases hw : (scope w.type).kind = kind
    · obtain rfl : w = v := by simpa [hw] using h
      have hname := Enumerated.find?_name hnames (hvs List.mem_cons_self)
      rw [if_pos hw.symm]
      split
      · next v' hfound =>
        obtain rfl : w = v' := Option.some.inj (hname.symm.trans hfound)
        rfl
      · next hmissing => cases hname.symm.trans hmissing
    · rw [if_neg (Ne.symm hw)]
      exact ih (List.Subset.trans (List.subset_cons_self w vs) hvs) (by simpa [hw] using h)

/-- An event that passes none of the tests is of a kind that is not known. -/
theorem decodeBy_of_none (tables : Tables)
    (h : vs.find? (fun v => (scope v.type).kind = kind) = none) :
    tables.decodeBy scope codec kind data (vs.map fun v => ⟨v.type, v.name⟩) =
      (some (.error (.unknownKind kind (tables.kinds scope))) :
        Option (Except DecodeError (Enumerated scope declared))) := by
  induction vs with
  | nil => rfl
  | cons w vs ih =>
    have hw : kind ≠ (scope w.type).kind := by
      rintro rfl
      simp at h
    rw [List.map_cons, decodeBy, if_neg hw]
    exact ih (by simpa [hw.symm] using h)

end Tables

/-! ### The enumeration as a set of events -/

namespace AggregateCode

variable {code : AggregateCode} {scope : Scope} {hnames : (code.variants.map Variant.name).Nodup}
  {codec : Codec}

theorem kinds_events :
    (code.events scope hnames).kinds = code.variants.map fun v => (scope v.type).kind := by
  show (Enumerated.types scope code.variants).map EventType.kind = _
  rw [Enumerated.types_eq_map, List.map_map]
  rfl

/-- An event has the kind of its variant's type. -/
theorem kind_events (e : Enumerated scope code.variants) :
    (code.events scope hnames).kind e = (scope e.variant.type).kind :=
  e.kind_toMember

/-- Of an event its payload alone is encoded. -/
theorem encode_events (e : Enumerated scope code.variants) :
    (code.events scope hnames).encode codec e =
      codec.encode (scope e.variant.type).schema e.payload :=
  e.encode_toMember

/-- A stored event is read by the first variant of its kind. -/
theorem decode_events {kind : String} {data : Bytes} {v : Variant}
    (h : code.variants.find? (fun v => (scope v.type).kind = kind) = some v) :
    (code.events scope hnames).decode codec kind data =
      Enumerated.decodeAs codec v (List.mem_of_find?_eq_some h) kind data := by
  obtain ⟨read, hread, has⟩ := Enumerated.decode?_of_find? codec data h
  rw [← has]
  exact EventSet.decode_of_some hread

/-- Every event is read back if no two types have one kind. -/
theorem restores_events (hkinds : (code.events scope hnames).kinds.Nodup)
    (hcodec : ∀ v ∈ code.variants, codec.Restores (scope v.type).schema) :
    (code.events scope hnames).Restores codec := by
  refine EventSet.restores_of_types hkinds fun t ht => ?_
  have ht : t ∈ Enumerated.types scope code.variants := ht
  rw [Enumerated.types_eq_map] at ht
  obtain ⟨v, hv, rfl⟩ := List.mem_map.mp ht
  exact hcodec v hv

/-- The events of a later variant are encoded, but what is stored of them is read as a payload under
an earlier variant, and so as none of them. -/
def Shadows (code : AggregateCode) (scope : Scope)
    (hnames : (code.variants.map Variant.name).Nodup) (codec : Codec) (earlier later : Variant) :
    Prop :=
  ∃ hearlier : earlier ∈ code.variants,
    ∀ e : Enumerated scope code.variants, e.variant = later →
      ∃ data, (code.events scope hnames).encode codec e = .ok data ∧
        (code.events scope hnames).decode codec ((code.events scope hnames).kind e) data =
          Enumerated.decodeAs codec earlier hearlier (scope later.type).kind data ∧
        (code.events scope hnames).decode codec ((code.events scope hnames).kind e) data ≠ .ok e

/-- The first variant of a kind shadows all later ones. -/
theorem shadows_of_find? {earlier later : Variant}
    (hfirst : code.variants.find? (fun v => (scope v.type).kind = (scope later.type).kind) =
      some earlier)
    (hne : earlier ≠ later) (hcodec : codec.Restores (scope later.type).schema) :
    code.Shadows scope hnames codec earlier later := by
  refine ⟨List.mem_of_find?_eq_some hfirst, ?_⟩
  rintro e rfl
  obtain ⟨data, hencode, -⟩ := hcodec e.payload
  refine ⟨data, (encode_events e).trans hencode, ?_, ?_⟩
  · rw [kind_events, decode_events hfirst]
  · rw [kind_events, decode_events hfirst]
    exact Enumerated.decodeAs_ne_ok _ hne

/-- If two types have one kind, some variant shadows a later one. -/
theorem exists_shadows (hkinds : ¬ (code.events scope hnames).kinds.Nodup)
    (hcodec : ∀ v ∈ code.variants, codec.Restores (scope v.type).schema) :
    ∃ earlier later, [earlier, later].Sublist code.variants ∧
      (scope earlier.type).kind = (scope later.type).kind ∧
      code.Shadows scope hnames codec earlier later := by
  rw [kinds_events] at hkinds
  obtain ⟨earlier, later, hsub, hkind, hfirst⟩ := Enumerated.exists_shadowed hkinds
  have hne : earlier ≠ later := by
    have hpair := (Enumerated.nodup_of_names hnames).sublist hsub
    simpa using hpair
  have hlater : later ∈ code.variants := hsub.subset (List.mem_cons_of_mem _ List.mem_cons_self)
  exact ⟨earlier, later, hsub, hkind, shadows_of_find? hfirst hne (hcodec later hlater)⟩

/-- A stored event of no kind of the set is reported with the kinds of the set. -/
theorem decode_events_of_not_mem {kind : String} {data : Bytes}
    (h : code.variants.find? (fun v => (scope v.type).kind = kind) = none) :
    (code.events scope hnames).decode codec kind data =
      .error (.unknownKind kind (code.events scope hnames).kinds) := by
  refine EventSet.decode_eq_unknownKind.mpr ⟨?_, rfl, rfl⟩
  rw [kinds_events]
  intro hkind
  obtain ⟨v, hv, hkind⟩ := List.mem_map.mp hkind
  simpa [hkind] using List.find?_eq_none.mp h v hv

/-! ### The tables of the derived code -/

theorem kindArms_tables :
    code.tables.kindArms = code.variants.map fun v => ⟨v.name, v.type⟩ := by
  simp [tables, Tables.write, List.zipWith_map]

theorem decodeSteps_tables :
    code.tables.decodeSteps = code.variants.map fun v => ⟨v.type, v.name⟩ := by
  simp [tables, Tables.write, List.zipWith_map]

theorem kinds_tables : code.tables.kinds scope = (code.events scope hnames).kinds := by
  rw [kinds_events]
  simp [tables, Tables.write, Tables.kinds]

theorem kind?_tables (hnames : (code.variants.map Variant.name).Nodup)
    (e : Enumerated scope code.variants) :
    code.tables.kind? e = some ((code.events scope hnames).kind e) := by
  have hfind : code.variants.find? (fun v => v.name = e.variant.name) = some e.variant :=
    Enumerated.find?_name hnames e.declared
  rw [Tables.kind?, kindArms_tables, List.find?_map, Function.comp_def, hfind, kind_events]
  rfl

theorem encode?_tables (e : Enumerated scope code.variants) :
    code.tables.encode? codec e = some ((code.events scope hnames).encode codec e) := by
  have harm : e.variant.name ∈ code.tables.encodeArms := List.mem_map_of_mem e.declared
  rw [Tables.encode?, if_pos harm, encode_events]

theorem decode?_tables (hnames : (code.variants.map Variant.name).Nodup) (kind : String)
    (data : Bytes) :
    code.tables.decode? scope codec kind data =
      some ((code.events scope hnames).decode codec kind data) := by
  rw [Tables.decode?, decodeSteps_tables]
  cases hfind : code.variants.find? fun v => (scope v.type).kind = kind with
  | some v =>
    rw [decode_events hfind]
    exact Tables.decodeBy_of_find? code.tables hnames (List.Subset.refl _) hfind
  | none =>
    rw [decode_events_of_not_mem hfind, ← kinds_tables]
    exact Tables.decodeBy_of_none code.tables hfind

/-- **Stored events find their variants**, whatever the types behind the declared paths, if and only
if no two types have one kind and the codec restores their payloads.  The derived tables agree with
one another: what they do with an event and with a stored event is what the set of events does.
With any codec, what has no kind of the set is reported with all kinds in the order of declaration,
and whatever is read has the kind under which it was stored. -/
theorem decode_routes {declared : Declaration} {code : AggregateCode}
    (hcode : expand declared = .code code) (scope : Scope)
    (hnames : (code.variants.map Variant.name).Nodup) (codec : Codec) :
    (∃ paths, (AggregateSettings.ofAttributes declared.attributes).1.events = some (some paths) ∧
      paths ≠ [] ∧ (code.events scope hnames).kinds = paths.map fun path => (scope path).kind) ∧
    (code.tables.kinds scope = (code.events scope hnames).kinds ∧
      (∀ e : Enumerated scope code.variants,
        code.tables.kind? e = some ((code.events scope hnames).kind e) ∧
          code.tables.encode? codec e = some ((code.events scope hnames).encode codec e)) ∧
      ∀ kind data, code.tables.decode? scope codec kind data =
        some ((code.events scope hnames).decode codec kind data)) ∧
    ((∀ v ∈ code.variants, codec.Restores (scope v.type).schema) →
      ((code.events scope hnames).kinds.Nodup → (code.events scope hnames).Restores codec) ∧
      ((∀ v ∈ code.variants, Nonempty (scope v.type).schema.Value) →
        ¬ (code.events scope hnames).kinds.Nodup →
          ∃ earlier later, [earlier, later].Sublist code.variants ∧
            (scope earlier.type).kind = (scope later.type).kind ∧
            (∃ e : Enumerated scope code.variants, e.variant = later) ∧
            code.Shadows scope hnames codec earlier later)) ∧
    (∀ kind data unknown known,
      (code.events scope hnames).decode codec kind data = .error (.unknownKind unknown known) ↔
        kind ∉ (code.events scope hnames).kinds ∧ unknown = kind ∧
          known = (code.events scope hnames).kinds) ∧
    ∀ kind data e, (code.events scope hnames).decode codec kind data = .ok e →
      (code.events scope hnames).kind e = kind := by
  refine ⟨?_, ⟨kinds_tables, fun e => ⟨kind?_tables hnames e, encode?_tables e⟩,
    decode?_tables hnames⟩, fun hcodec => ⟨fun hkinds => restores_events hkinds hcodec, ?_⟩,
    fun kind data unknown known => EventSet.decode_eq_unknownKind,
    fun kind data e => EventSet.kind_of_decode⟩
  · obtain ⟨paths, hpaths, hne, htypes⟩ := expand_eq_code hcode
    refine ⟨paths, hpaths, hne, ?_⟩
    rw [kinds_events, ← htypes, List.map_map]
    rfl
  · intro hinhabited hkinds
    obtain ⟨earlier, later, hsub, hkind, hshadows⟩ := exists_shadows hkinds hcodec
    have hlater : later ∈ code.variants := hsub.subset (List.mem_cons_of_mem _ List.mem_cons_self)
    obtain ⟨payload⟩ := hinhabited later hlater
    exact ⟨earlier, later, hsub, hkind, ⟨⟨later, hlater, payload⟩, rfl⟩, hshadows⟩

/-- The declaration of posts. -/
def posts : AggregateInput where
  name := "Post"
  item := .named
  visibility := "pub"
  id := some (.value "PostId")
  error := some (.value "PostError")
  events := some ["PostDrafted", "PostRetitled", "PostPublished"]
  kind := none
  eventEnum := none
  derives := none
  tenantScoped := false

/-- The types of the events of posts. -/
def postTypes : Scope := fun path =>
  if path.name = "PostDrafted" then Sample.PostEvent.draftedType
  else if path.name = "PostRetitled" then Sample.PostEvent.retitledType
  else Sample.PostEvent.publishedType

theorem restores_postTypes (path : TypePath) : Codec.json.Restores (postTypes path).schema := by
  unfold postTypes
  split
  · exact Codec.restores_json rfl (by decide)
  · split
    · exact Codec.restores_json rfl (by decide)
    · exact Codec.restores_json rfl (by decide)

/-- With types of their own the events of posts find their variants; if all were of one type, with
one kind, they would not. -/
theorem decode_routes_posts :
    ∃ declared code, ∃ hnames : (code.variants.map Variant.name).Nodup,
      Declaration.read? posts.source = some declared ∧ expand declared = .code code ∧
        (code.events postTypes hnames).kinds =
          ["post-drafted", "post-retitled", "post-published.v1"] ∧
        (code.events postTypes hnames).Restores .json ∧
        ∃ earlier later, [earlier, later].Sublist code.variants ∧
          code.Shadows (fun _ => Sample.PostEvent.retitledType) hnames .json earlier later := by
  have hvariants : ((Declaration.read? posts.source).bind fun declared =>
      (expand declared).code?.map AggregateCode.variants) =
        some [⟨"PostDrafted", ⟨false, ["PostDrafted"]⟩⟩,
          ⟨"PostRetitled", ⟨false, ["PostRetitled"]⟩⟩,
          ⟨"PostPublished", ⟨false, ["PostPublished"]⟩⟩] := by
    decide +kernel
  obtain ⟨declared, hread, hexpand⟩ := Option.bind_eq_some_iff.mp hvariants
  obtain ⟨code, hcode, hvs⟩ := Option.map_eq_some_iff.mp hexpand
  have hcode := Expansion.code?_eq_some.mp hcode
  have hnames : (code.variants.map Variant.name).Nodup := by
    rw [hvs]
    decide
  have hkinds (scope : Scope) : (code.events scope hnames).kinds =
      [(scope ⟨false, ["PostDrafted"]⟩).kind, (scope ⟨false, ["PostRetitled"]⟩).kind,
        (scope ⟨false, ["PostPublished"]⟩).kind] := by
    rw [kinds_events, hvs]
    rfl
  obtain ⟨-, -, hroutes, -⟩ := decode_routes hcode postTypes hnames .json
  obtain ⟨-, -, hmisroutes, -⟩ :=
    decode_routes hcode (fun _ => Sample.PostEvent.retitledType) hnames .json
  obtain ⟨hrestores, -⟩ := hroutes fun v _ => restores_postTypes v.type
  obtain ⟨-, hshadowed⟩ := hmisroutes fun _ _ => Codec.restores_json rfl (by decide)
  have hdistinct : (code.events postTypes hnames).kinds =
      ["post-drafted", "post-retitled", "post-published.v1"] := by
    rw [hkinds]
    decide
  obtain ⟨earlier, later, hsub, -, -, hshadows⟩ :=
    hshadowed (fun _ _ => ⟨("", ())⟩) (by rw [hkinds]; decide)
  exact ⟨declared, code, hnames, hread, hcode, hdistinct, hrestores (by rw [hdistinct]; decide),
    earlier, later, hsub, hshadows⟩

end AggregateCode

end EventSourcing.Derive
