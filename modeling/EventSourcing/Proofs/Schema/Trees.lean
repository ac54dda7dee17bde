import EventSourcing.Proofs.Answer
import EventSourcing.Proofs.Schema.RoundTrip
import EventSourcing.Schema.Form

/-!
# What is kept as a tree is read back

A value may be kept as a JSON tree, whose objects have their members in key order.  The fields of a
structure stand in another order then than the one in which they are declared, but reading gathers
them by name, so the order does not matter as long as no two fields share their name.

As with text, this is shown first of single values, and then of all values of regular schemas.

## Main Definitions

* `Schema.ReadsTree`, `Fields.ReadsTree`, `Variants.ReadsTree` — a value that is read back from its
  tree.

## Main Statements

* `Json.sortMembers_perm` — sorting loses no member.
* `Schema.readsTree` — a regular schema reads back the trees of all its values.
* `JsonForm.roundTrips_described` — so does the form that it gives.
-/

namespace EventSourcing

open Json (Failure)

/-! ### Sorting -/

namespace Json

theorem sortedItems_eq_map (vs : List Json) : sortedItems vs = vs.map sorted := by
  induction vs with
  | nil => rfl
  | cons v rest ih => rw [sortedItems, ih, List.map_cons]

theorem sortedMembers_eq_map (ms : List (String × Json)) :
    sortedMembers ms = ms.map fun m => (m.1, m.2.sorted) := by
  induction ms with
  | nil => rfl
  | cons m rest ih => rw [sortedMembers, ih, List.map_cons]

theorem keys_sortedMembers (ms : List (String × Json)) :
    (sortedMembers ms).map Prod.fst = ms.map Prod.fst := by
  rw [sortedMembers_eq_map, List.map_map]
  rfl

@[simp] theorem sorted_null : Json.null.sorted = .null := rfl

@[simp] theorem sorted_bool (b : Bool) : (Json.bool b).sorted = .bool b := rfl

@[simp] theorem sorted_int (n : Int) : (Json.int n).sorted = .int n := rfl

@[simp] theorem sorted_str (t : String) : (Json.str t).sorted = .str t := rfl

/-- Only `null` is sorted as `null`. -/
theorem sorted_ne_null {v : Json} (h : v ≠ .null) : v.sorted ≠ .null := by
  cases v with
  | null => exact absurd rfl h
  | bool | int | decimal | str | arr | obj => simp [sorted]

section Members

variable {α : Type} {ms : List (String × α)}

/-- A member of a new key is put somewhere among the others. -/
theorem insert_perm {key : String} {value : α} (h : key ∉ ms.map Prod.fst) :
    (insert key value ms).Perm ((key, value) :: ms) := by
  induction ms with
  | nil => exact .refl _
  | cons m rest ih =>
    rw [List.map_cons, List.mem_cons, not_or] at h
    rw [insert]
    split
    · exact .refl _
    · rw [if_neg h.1]
      exact ((ih h.2).cons m).trans (.swap (key, value) m rest)

/-- Members of different keys are inserted one after the other. -/
theorem foldl_insert_perm {front : List (String × α)} (h : ((front ++ ms).map Prod.fst).Nodup) :
    (ms.foldl (fun sorted m => insert m.1 m.2 sorted) front).Perm (front ++ ms) := by
  induction ms generalizing front with
  | nil => exact .of_eq (List.append_nil front).symm
  | cons m rest ih =>
    have hnew : m.1 ∉ front.map Prod.fst := by
      rw [List.map_append, List.nodup_append] at h
      intro hmem
      exact h.2.2 m.1 hmem m.1 List.mem_cons_self rfl
    have hinsert : (insert m.1 m.2 front ++ rest).Perm (front ++ m :: rest) :=
      ((insert_perm hnew).append_right rest).trans List.perm_middle.symm
    have hkeys : ((insert m.1 m.2 front ++ rest).map Prod.fst).Nodup :=
      (hinsert.map Prod.fst).nodup_iff.mpr h
    rw [List.foldl_cons]
    exact (ih hkeys).trans hinsert

/-- **Sorting loses no member** if no two have the same key. -/
theorem sortMembers_perm (h : (ms.map Prod.fst).Nodup) : (sortMembers ms).Perm ms := by
  rw [sortMembers]
  exact foldl_insert_perm h

/-- Members that are in order stay as they are. -/
theorem sortMembers_of_ascending (h : ms.Pairwise fun a b => a.1 < b.1) : sortMembers ms = ms := by
  have hfold (front rest : List (String × α)) (h : (front ++ rest).Pairwise fun a b => a.1 < b.1) :
      rest.foldl (fun sorted m => insert m.1 m.2 sorted) front = front ++ rest := by
    induction rest generalizing front with
    | nil => exact (List.append_nil front).symm
    | cons m rest ih =>
      have hlast : ∀ e ∈ front, e.1 < m.1 := fun e he =>
        (List.pairwise_append.mp h).2.2 e he m List.mem_cons_self
      rw [List.foldl_cons, insert_of_forall_lt hlast, ih, List.append_assoc, List.singleton_append]
      rwa [List.append_assoc, List.singleton_append]
  exact hfold [] ms h

end Members

end Json

/-! ### Values that are read back -/

/-- The value is read back from its tree. -/
def Schema.ReadsTree (s : Schema) (v : s.Value) : Prop := s.ofJson (s.toJson v).sorted = .ok v

/-- The components of a row are read back from members in any order. -/
def Fields.ReadsTree (fs : Fields) (row : fs.Row) : Prop :=
  ∀ ms : List (String × Json), ms.Perm (Json.sortedMembers (fs.toMembers row)) →
    ms.foldlM (fun gathered e => fs.gather e.1 e.2 gathered) fs.noneGathered = .ok (fs.found row)

/-- A variant is read back: from its name alone, or from the tree of its content. -/
def Variants.ReadsTree (vs : Variants) (c : vs.Choice) : Prop :=
  (∃ name ∈ vs.names, vs.toJson c = .str name ∧ vs.withoutContent name = .ok c) ∨
  ∃ name ∈ vs.names, ∃ content, vs.toJson c = .obj [(name, content)] ∧
    vs.ofContent name content.sorted = .ok c

theorem Fields.ReadsTree.nil (row : Fields.nil.Row) : Fields.nil.ReadsTree row := by
  intro ms hms
  rw [List.perm_nil.mp hms]
  rfl

/-- A member of another key than that of the first field is left to the other fields. -/
theorem Fields.gather_of_ne {name key : String} (hne : key ≠ name) (s : Schema) (rest : Fields)
    (value : Json) (found : Option s.Value) (gathered : rest.Gathered) :
    (Fields.cons name s rest).gather key value (found, gathered) =
      (rest.gather key value gathered).map fun gathered => (found, gathered) := by
  have hgather : (Fields.cons name s rest).gather key value (found, gathered) =
      (rest.gather key value gathered >>= fun gathered => pure (found, gathered)) := by
    cases found
    · rw [Fields.gather, if_neg hne]
    · rw [Fields.gather, if_neg hne]
  rw [hgather]
  cases rest.gather key value gathered with
  | error failure => rfl
  | ok gathered => rfl

theorem Fields.foldlM_gather_of_not_mem {name : String} {s : Schema} {rest : Fields}
    {ms : List (String × Json)} (hname : name ∉ ms.map Prod.fst) (found : Option s.Value)
    (gathered : rest.Gathered) :
    ms.foldlM (fun gathered e => (Fields.cons name s rest).gather e.1 e.2 gathered)
        (found, gathered) =
      (ms.foldlM (fun gathered e => rest.gather e.1 e.2 gathered) gathered).map
        fun gathered => (found, gathered) := by
  induction ms generalizing gathered with
  | nil => rfl
  | cons m others ih =>
    rw [List.map_cons, List.mem_cons, not_or] at hname
    rw [List.foldlM_cons, List.foldlM_cons, Fields.gather_of_ne (Ne.symm hname.1)]
    cases rest.gather m.1 m.2 gathered with
    | error failure => rfl
    | ok gathered => exact ih hname.2 gathered

/-- A row is read back if its first component and the others are, and their names differ. -/
theorem Fields.ReadsTree.cons {name : String} {s : Schema} {rest : Fields} {v : s.Value}
    {row : rest.Row} (hname : name ∉ rest.names) (hv : s.ReadsTree v) (hrow : rest.ReadsTree row) :
    (Fields.cons name s rest).ReadsTree (v, row) := by
  intro ms hms
  rw [Fields.toMembers, Json.sortedMembers] at hms
  -- The member of the first field stands somewhere, with members of the others around it.
  obtain ⟨front, back, rfl⟩ := List.append_of_mem (hms.mem_iff.mpr List.mem_cons_self)
  have hothers : (front ++ back).Perm (Json.sortedMembers (rest.toMembers row)) :=
    (List.perm_middle.symm.trans hms).cons_inv
  have hkeys : name ∉ (front ++ back).map Prod.fst := by
    rw [(hothers.map Prod.fst).mem_iff, Json.keys_sortedMembers, Fields.keys_toMembers]
    exact hname
  rw [List.map_append, List.mem_append, not_or] at hkeys
  have hread := hrow _ hothers
  rw [List.foldlM_append] at hread
  obtain ⟨gathered, hfront, hback⟩ := bind_eq_ok.mp hread
  have hfirst : (Fields.cons name s rest).gather name (s.toJson v).sorted (none, gathered) =
      .ok (some v, gathered) := by
    rw [Fields.gather, if_pos rfl, hv]
    rfl
  rw [List.foldlM_append, Fields.noneGathered]
  refine bind_eq_ok.mpr ⟨(none, gathered), ?_, ?_⟩
  · rw [Fields.foldlM_gather_of_not_mem hkeys.1, hfront]
    rfl
  · rw [List.foldlM_cons]
    refine bind_eq_ok.mpr ⟨(some v, gathered), hfirst, ?_⟩
    rw [Fields.foldlM_gather_of_not_mem hkeys.2, hback]
    rfl

/-- The members of a structure are read back from its tree. -/
theorem Fields.ReadsTree.gather {fs : Fields} {row : fs.Row} (h : fs.ReadsTree row)
    (hnames : fs.names.Nodup) :
    ((Json.sortMembers (Json.sortedMembers (fs.toMembers row))).foldlM
      (fun gathered (e : String × Json) => fs.gather e.1 e.2 gathered) fs.noneGathered >>=
        fs.complete) = .ok row := by
  have hkeys : ((Json.sortedMembers (fs.toMembers row)).map Prod.fst).Nodup := by
    rw [Json.keys_sortedMembers, Fields.keys_toMembers]
    exact hnames
  exact bind_eq_ok.mpr ⟨_, h _ (Json.sortMembers_perm hkeys), fs.complete_found row⟩

/-- A list is read back if its items are. -/
theorem Schema.ReadsTree.list {s : Schema} {vs : List s.Value} (h : ∀ v ∈ vs, s.ReadsTree v) :
    (Schema.list s).ReadsTree vs := by
  rw [Schema.ReadsTree, Schema.toJson, Json.sorted, Schema.ofJson, Json.sortedItems_eq_map]
  simp only [List.map_map]
  induction vs with
  | nil => rfl
  | cons v rest ih =>
    rw [List.map_cons]
    exact mapM_cons_eq_ok.mpr ⟨v, h v List.mem_cons_self, rest,
      ih fun v hv => h v (List.mem_cons_of_mem _ hv), rfl⟩

/-- The entries of a map are put back one after the other. -/
theorem Schema.foldlM_insert {s : Schema} (front : TextMap s.Value) {all : TextMap s.Value}
    {es : List (String × s.Value)} (h : ∀ e ∈ es, s.ReadsTree e.2)
    (hall : all.entries = front.entries ++ es) :
    (es.map fun e => (e.1, (s.toJson e.2).sorted)).foldlM
      (fun m e => do return m.insert e.1 (← s.ofJson e.2)) front = .ok all := by
  induction es generalizing front with
  | nil =>
    cases front
    cases all
    simp_all [pure, Except.pure]
  | cons e rest ih =>
    have hasc := all.ascending
    rw [hall, List.pairwise_append] at hasc
    have hlast : (front.insert e.1 e.2).entries = front.entries ++ [e] :=
      insert_of_forall_lt fun e' he' => hasc.2.2 e' he' e List.mem_cons_self
    rw [List.map_cons, List.foldlM_cons, h e List.mem_cons_self]
    refine ih (front.insert e.1 e.2) (fun e he => h e (List.mem_cons_of_mem _ he)) ?_
    rw [hlast, hall, List.append_assoc, List.singleton_append]

/-- A map is read back if its values are. -/
theorem Schema.ReadsTree.map {s : Schema} {m : TextMap s.Value}
    (h : ∀ e ∈ m.entries, s.ReadsTree e.2) : (Schema.map s).ReadsTree m := by
  have hsorted : Json.sortMembers (m.entries.map fun e => (e.1, (s.toJson e.2).sorted)) =
      m.entries.map fun e => (e.1, (s.toJson e.2).sorted) :=
    Json.sortMembers_of_ascending (List.pairwise_map.mpr m.ascending)
  rw [Schema.ReadsTree, Schema.toJson, Json.sorted, Schema.ofJson, Json.sortedMembers_eq_map]
  simp only [List.map_map]
  show List.foldlM _ _ (Json.sortMembers (m.entries.map fun e => (e.1, (s.toJson e.2).sorted))) = _
  rw [hsorted]
  exact Schema.foldlM_insert .empty h rfl

/-- A value that is written without items and members is read back if it is read from its form. -/
theorem Schema.ReadsTree.of_leaf {s : Schema} {v : s.Value} {leaf : Json}
    (hwrite : s.toJson v = leaf) (hsorted : leaf.sorted = leaf) (hread : s.ofJson leaf = .ok v) :
    s.ReadsTree v := by
  rw [Schema.ReadsTree, hwrite, hsorted, hread]

/-- A value without content is read back. -/
theorem Schema.ReadsTree.unit (name : String) : (Schema.unit name).ReadsTree () :=
  .of_leaf (by rw [Schema.toJson]) Json.sorted_null (by rw [Schema.ofJson])

/-- That there is no value is read back. -/
theorem Schema.ReadsTree.none (s : Schema) : (Schema.option s).ReadsTree .none :=
  .of_leaf (by rw [Schema.toJson]) Json.sorted_null (by rw [Schema.ofJson])

/-- An optional value is read back if it is without the option, and not written as `null`. -/
theorem Schema.ReadsTree.some {s : Schema} {v : s.Value} (hnull : s.toJson v ≠ .null)
    (h : s.ReadsTree v) : (Schema.option s).ReadsTree (some v) := by
  have hsorted := Json.sorted_ne_null hnull
  rw [Schema.ReadsTree, Schema.toJson, Schema.ofJson]
  · rw [h]
    rfl
  · exact hsorted

/-- A structure is read back if its row is and no two fields share their name. -/
theorem Schema.ReadsTree.record {name : String} {fs : Fields} {row : fs.Row}
    (hnames : fs.names.Nodup) (h : fs.ReadsTree row) : (Schema.record name fs).ReadsTree row := by
  rw [Schema.ReadsTree, Schema.toJson, Json.sorted, Schema.ofJson]
  exact h.gather hnames

/-- A choice is read back if its variant is. -/
theorem Schema.ReadsTree.choice {name : String} {vs : Variants} {c : vs.Choice}
    (h : vs.ReadsTree c) : (Schema.choice name vs).ReadsTree c := by
  rw [Schema.ReadsTree, Schema.toJson]
  rcases h with ⟨variant, hmem, hstr, hread⟩ | ⟨variant, hmem, content, hobj, hread⟩
  · rw [hstr, Json.sorted_str, Schema.ofJson, if_pos (List.contains_iff_mem.mpr hmem), hread]
  · have hsorted : (Json.obj [(variant, content)]).sorted = .obj [(variant, content.sorted)] := rfl
    rw [hobj, hsorted, Schema.ofJson, if_pos (List.contains_iff_mem.mpr hmem), hread]

theorem Variants.ofContent_bare {name variant : String} (hne : variant ≠ name) (rest : Variants)
    (content : Json) :
    (Variants.bare name rest).ofContent variant content =
      (rest.ofContent variant content).map .inr := by
  cases content with
  | null => rw [Variants.ofContent, if_neg hne]
  | _ =>
    rw [Variants.ofContent, if_neg hne]
    intro hnull
    cases hnull

theorem Variants.ofContent_record {name variant : String} (hne : variant ≠ name) (fs : Fields)
    (rest : Variants) (content : Json) :
    (Variants.record name fs rest).ofContent variant content =
      (rest.ofContent variant content).map .inr := by
  cases content with
  | obj => rw [Variants.ofContent, if_neg hne]
  | _ =>
    rw [Variants.ofContent, if_neg hne]
    intro members hobject
    cases hobject

/-- A choice between more variants reads back what the choice between the others reads back. -/
theorem Variants.ReadsTree.cons {vs more : Variants} {name : String}
    (hnames : more.names = name :: vs.names) {c : vs.Choice} {c' : more.Choice}
    (hjson : more.toJson c' = vs.toJson c)
    (inr : vs.Choice → more.Choice) (hc : inr c = c')
    (hwithout : ∀ variant, variant ≠ name →
      more.withoutContent variant = (vs.withoutContent variant).map inr)
    (hcontent : ∀ variant content, variant ≠ name →
      more.ofContent variant content = (vs.ofContent variant content).map inr)
    (hname : name ∉ vs.names) (h : vs.ReadsTree c) : more.ReadsTree c' := by
  have hother {variant : String} (hmem : variant ∈ vs.names) :
      variant ≠ name ∧ variant ∈ more.names := by
    rw [hnames]
    exact ⟨fun heq => hname (heq ▸ hmem), List.mem_cons_of_mem _ hmem⟩
  rcases h with ⟨variant, hmem, hstr, hread⟩ | ⟨variant, hmem, content, hobj, hread⟩
  · obtain ⟨hne, hmem'⟩ := hother hmem
    refine .inl ⟨variant, hmem', by rw [hjson, hstr], ?_⟩
    rw [hwithout variant hne, hread, ← hc]
    rfl
  · obtain ⟨hne, hmem'⟩ := hother hmem
    refine .inr ⟨variant, hmem', content, by rw [hjson, hobj], ?_⟩
    rw [hcontent variant _ hne, hread, ← hc]
    rfl

/-! ### Regular schemas -/

/-- No two of regular fields share their name. -/
theorem Fields.nodup_names : (fs : Fields) → fs.regular = true → fs.names.Nodup
  | .nil, _ => .nil
  | .cons name s rest, h => by
    obtain ⟨hname, -, hrest⟩ := Fields.regular_cons.mp h
    exact List.nodup_cons.mpr ⟨hname, rest.nodup_names hrest⟩

/-- An integer within its range is read back. -/
theorem integerOfJson_bind (expected : String) {α : Type} (convert : Int → α) {v : α}
    {lo hi n : Int} (hv : convert n = v) (hn : lo ≤ n ∧ n ≤ hi) :
    (integerOfJson expected lo hi (.int n) >>= fun n => pure (convert n)) = .ok v := by
  rw [integerOfJson, if_pos hn, ← hv]
  rfl

/-- A text is read back if its content is. -/
theorem textOfJson_bind (expected : String) {α : Type} {read : String → Except Failure α} {v : α}
    {t : String} (hread : read t = .ok v) : (textOfJson expected (.str t) >>= read) = .ok v := by
  rw [← hread]
  rfl

mutual

/-- **A regular schema reads back the trees of all its values.** -/
theorem Schema.readsTree : (s : Schema) → s.regular = true → (v : s.Value) → s.ReadsTree v
  | .bool, _, v => .of_leaf (by rw [Schema.toJson]) (Json.sorted_bool v) (by rw [Schema.ofJson])
  | .string, _, v => by
    refine .of_leaf (by rw [Schema.toJson]) (Json.sorted_str v) ?_
    rw [Schema.ofJson, textOfJson]
  | .u8, _, v => by
    have hv := v.toNat_lt
    refine .of_leaf (by rw [Schema.toJson]) (Json.sorted_int v.toNat) ?_
    rw [Schema.ofJson]
    exact integerOfJson_bind "u8" (fun n => UInt8.ofNat n.toNat) (by simp) (by omega)
  | .u32, _, v => by
    have hv := v.toNat_lt
    refine .of_leaf (by rw [Schema.toJson]) (Json.sorted_int v.toNat) ?_
    rw [Schema.ofJson]
    exact integerOfJson_bind "u32" (fun n => UInt32.ofNat n.toNat) (by simp) (by omega)
  | .u64, _, v => by
    have hv := v.toNat_lt
    refine .of_leaf (by rw [Schema.toJson]) (Json.sorted_int v.toNat) ?_
    rw [Schema.ofJson]
    exact integerOfJson_bind "u64" (fun n => UInt64.ofNat n.toNat) (by simp) (by omega)
  | .i32, _, v => by
    refine .of_leaf (by rw [Schema.toJson]) (Json.sorted_int v.toInt) ?_
    rw [Schema.ofJson]
    exact integerOfJson_bind "i32" Int32.ofInt (by simp) ⟨v.le_toInt, v.toInt_le⟩
  | .i64, _, v => by
    refine .of_leaf (by rw [Schema.toJson]) (Json.sorted_int v.toInt) ?_
    rw [Schema.ofJson]
    exact integerOfJson_bind "i64" Int64.ofInt (by simp) ⟨v.le_toInt, v.toInt_le⟩
  | .uuid, _, v => by
    refine .of_leaf (by rw [Schema.toJson]) (Json.sorted_str v.text) ?_
    rw [Schema.ofJson]
    exact textOfJson_bind uuidName (by rw [uuidOfText, Uuid.read_text])
  | .instant, _, v => by
    refine .of_leaf (by rw [Schema.toJson]) (Json.sorted_str (Timestamp.write v)) ?_
    rw [Schema.ofJson]
    exact textOfJson_bind instantName (by rw [instantOfText, Timestamp.read_write])
  | .unit name, _, _ => .unit name
  | .option s, _, none => .none s
  | .option s, h, some v => by
    obtain ⟨hnull, hs⟩ := Schema.regular_option.mp h
    exact .some (s.toJson_ne_null hnull v) (Schema.readsTree s hs v)
  | .list s, h, _ => .list fun v _ => Schema.readsTree s h v
  | .map s, h, _ => .map fun e _ => Schema.readsTree s h e.2
  | .record _ fs, h, row => .record (fs.nodup_names h) (Fields.readsTree fs h row)
  | .choice _ vs, h, c => .choice (Variants.readsTree vs h c)

/-- The rows of regular fields are read back. -/
theorem Fields.readsTree : (fs : Fields) → fs.regular = true → (row : fs.Row) → fs.ReadsTree row
  | .nil, _, row => .nil row
  | .cons name s rest, h, (v, row) => by
    obtain ⟨hname, hs, hrest⟩ := Fields.regular_cons.mp h
    exact .cons hname (Schema.readsTree s hs v) (Fields.readsTree rest hrest row)

/-- The choices between regular variants are read back. -/
theorem Variants.readsTree : (vs : Variants) → vs.regular = true → (c : vs.Choice) →
    vs.ReadsTree c
  | .bare name rest, _, .inl () => by
    refine .inl ⟨name, List.mem_cons_self, by rw [Variants.toJson], ?_⟩
    rw [Variants.withoutContent, if_pos rfl]
  | .bare name rest, h, .inr c => by
    obtain ⟨hname, hrest⟩ := Variants.regular_bare.mp h
    refine (Variants.readsTree rest hrest c).cons rfl (by rw [Variants.toJson]) .inr rfl
      (fun variant hne => ?_) (fun _ content hne => Variants.ofContent_bare hne rest content) hname
    rw [Variants.withoutContent, if_neg hne]
  | .holding name s rest, h, .inl v => by
    obtain ⟨-, hs, -⟩ := Variants.regular_holding.mp h
    refine .inr ⟨name, List.mem_cons_self, s.toJson v, by rw [Variants.toJson], ?_⟩
    rw [Variants.ofContent, if_pos rfl, Schema.readsTree s hs v]
    rfl
  | .holding name s rest, h, .inr c => by
    obtain ⟨hname, -, hrest⟩ := Variants.regular_holding.mp h
    refine (Variants.readsTree rest hrest c).cons rfl (by rw [Variants.toJson]) .inr rfl
      (fun variant hne => ?_) (fun variant content hne => ?_) hname
    · rw [Variants.withoutContent, if_neg hne]
    · rw [Variants.ofContent, if_neg hne]
  | .record name fs rest, h, .inl row => by
    obtain ⟨-, hfs, -⟩ := Variants.regular_record.mp h
    refine .inr ⟨name, List.mem_cons_self, .obj (fs.toMembers row), by rw [Variants.toJson], ?_⟩
    have hread := (Fields.readsTree fs hfs row).gather (fs.nodup_names hfs)
    obtain ⟨gathered, hgather, hcomplete⟩ := bind_eq_ok.mp hread
    rw [Json.sorted, Variants.ofContent, if_pos rfl]
    exact bind_eq_ok.mpr ⟨gathered, hgather, bind_eq_ok.mpr ⟨row, hcomplete, rfl⟩⟩
  | .record name fs rest, h, .inr c => by
    obtain ⟨hname, -, hrest⟩ := Variants.regular_record.mp h
    refine (Variants.readsTree rest hrest c).cons rfl (by rw [Variants.toJson]) .inr rfl
      (fun variant hne => ?_)
      (fun _ content hne => Variants.ofContent_record hne fs rest content) hname
    rw [Variants.withoutContent, if_neg hne]

end

/-- **The form of a type that a regular schema describes keeps all its values.** -/
theorem JsonForm.roundTrips_described (typeName : String) (α : Type) [d : Described α]
    (hregular : d.schema.regular = true) : (JsonForm.described typeName α).RoundTrips := by
  intro a v hwrite
  cases hwrite
  show (d.schema.ofJson (d.schema.toJson (d.toValue a)).sorted).map d.ofValue = _
  rw [d.schema.readsTree hregular (d.toValue a)]
  exact congrArg Except.ok (d.ofValue_toValue a)

end EventSourcing
