import EventSourcing.Proofs.Json.Reads
import EventSourcing.Proofs.Time.Timestamp
import EventSourcing.Proofs.Uuid
import EventSourcing.Schema.TextReader
import EventSourcing.Schema.Writer

/-!
# What a schema writes it reads

The reader of a schema reads back a value that the schema wrote, in both layouts and wherever the
value stands in a document, and refuses it only because its brackets are nested too deep.

This is shown first of single values: a list is read back if its items are, a structure if its
components are and no two fields share their name, and so on.  A schema reads back all its values
if it tells them apart: no two fields of a structure and no two variants of a choice share their
name, and no optional value is of a type that writes `null` itself.

## Main Definitions

* `Schema.ReadsBack`, `Fields.ReadsBack`, `Variants.ReadsBack` — a value that is read back.
* `Schema.regular` — a schema that tells its values apart.

## Main Statements

* `Schema.readsBack` — a regular schema reads back all its values.
* `Schema.ReadsBack.parse_print` — a document is read back, or its brackets are nested too deep.
-/

namespace EventSourcing

open Json (Failure Layout Reads Gathers Stops withRoom)

/-! ### Words -/

section Words

variable {limit : Nat} {layout : Layout} {depth room : Nat}

theorem readBool_printed (v : Bool) :
    Reads (readBool limit) limit ((Json.bool v).printAt layout depth) 0 room v := by
  intro b rest hb hlen hrest
  rw [readBool, hb, Json.withRoom_zero]
  cases v
  · rfl
  · rfl

theorem readNull_printed (expected : String) :
    Reads (readNull limit expected) limit (Json.null.printAt layout depth) 0 room () := by
  intro b rest hb hlen hrest
  rw [readNull, hb, Json.withRoom_zero]
  rfl

theorem readString_printed (expected t : String) :
    Reads (readString limit expected) limit ((Json.str t).printAt layout depth) 0 room t := by
  intro b rest hb hlen hrest
  rw [Json.printAt, Json.printString] at hb
  rw [readString, hb, Json.withRoom_zero, List.cons_append, List.append_assoc]
  show Json.string limit ((Bytes.ofText t).flatMap Json.escapeByte ++ Json.quote :: rest) = _
  refine Json.string_printed t ?_
  have hskip := Json.length_skipSpace_le b
  rw [hb] at hskip
  simp only [List.length_append, List.length_cons, List.length_nil] at hskip ⊢
  omega

theorem readInteger_printed (expected : String) {lo hi n : Int} (hn : lo ≤ n ∧ n ≤ hi)
    (hlo : -9223372036854775808 ≤ lo) (hhi : hi < 18446744073709551616) :
    Reads (readInteger limit expected lo hi) limit ((Json.int n).printAt layout depth) 0 room
      n := by
  intro b rest hb hlen hrest
  rw [Json.printAt] at hb
  obtain ⟨c, tail, hc, hstart⟩ := Json.exists_printInt_eq_cons n
  have hread := Json.number_printInt (n := n) ⟨by omega, by omega⟩ hrest
  rw [readInteger, hb, Json.withRoom_zero]
  rw [hc, List.cons_append] at hread ⊢
  simp only [hstart, if_true, hread]
  show (if lo ≤ n ∧ n ≤ hi then _ else _) = _
  rw [if_pos hn]
  rfl

theorem integer_reads {α : Type} (expected : String) (ofInt : Int → α) {lo hi n : Int} {a : α}
    (hof : ofInt n = a) (hn : lo ≤ n ∧ n ≤ hi) (hlo : -9223372036854775808 ≤ lo)
    (hhi : hi < 18446744073709551616) :
    Reads (fun b => do
        let (n, rest) ← readInteger limit expected lo hi b
        return (ofInt n, rest))
      limit ((Json.int n).printAt layout depth) 0 room a := by
  rw [← hof]
  exact (readInteger_printed expected hn hlo hhi).map ofInt

end Words

/-! ### Brackets -/

section Brackets

variable {α : Type} {limit room : Nat} {layout : Layout} {depth : Nat} {expected : String} {a : α}

theorem exists_printAt_arr_eq_cons (layout : Layout) (depth : Nat) (vs : List Json) :
    ∃ s, (Json.arr vs).printAt layout depth = 0x5B :: s := by
  cases vs
  · exact ⟨_, by rw [Json.printAt]⟩
  · exact ⟨_, by rw [Json.printAt]⟩

theorem exists_printAt_obj_eq_cons (layout : Layout) (depth : Nat) (ms : List (String × Json)) :
    ∃ s, (Json.obj ms).printAt layout depth = 0x7B :: s := by
  rcases ms with _ | ⟨⟨k, v⟩, ms⟩
  · exact ⟨_, by rw [Json.printAt]⟩
  · exact ⟨_, by rw [Json.printAt]⟩

/-- The reader behind the bracket of a list gives the reader of the list. -/
theorem readBracketed_list {read : Nat → Bytes → Except Failure (α × Bytes)}
    {object : Option (Nat → Bytes → Except Failure (α × Bytes))} {vs : List Json}
    (h : ∀ room s rest, 0x5B :: s = (Json.arr vs).printAt layout depth ++ rest →
      s.length < limit → read room s = withRoom (Json.depthItems vs) room (a, rest)) :
    Reads (readBracketed limit room expected (some read) object) limit
      ((Json.arr vs).printAt layout depth) (Json.arr vs).depth room a := by
  intro b rest hb hlen hrest
  obtain ⟨s, hs⟩ := exists_printAt_arr_eq_cons layout depth vs
  have hskip := Json.length_skipSpace_le b
  rw [hs, List.cons_append] at hb
  rw [hb, List.length_cons] at hskip
  rw [readBracketed, hb]
  simp only [if_true, Json.depth]
  cases room with
  | zero => rw [Json.withRoom_succ_zero]
  | succ room =>
    rw [Json.withRoom_succ_succ]
    exact h room (s ++ rest) rest (by rw [hs, List.cons_append]) (by omega)

/-- The reader behind the bracket of an object gives the reader of the object. -/
theorem readBracketed_object {read : Nat → Bytes → Except Failure (α × Bytes)}
    {list : Option (Nat → Bytes → Except Failure (α × Bytes))} {ms : List (String × Json)}
    (h : ∀ room s rest, 0x7B :: s = (Json.obj ms).printAt layout depth ++ rest →
      s.length < limit → read room s = withRoom (Json.depthMembers ms) room (a, rest)) :
    Reads (readBracketed limit room expected list (some read)) limit
      ((Json.obj ms).printAt layout depth) (Json.obj ms).depth room a := by
  intro b rest hb hlen hrest
  obtain ⟨s, hs⟩ := exists_printAt_obj_eq_cons layout depth ms
  have hskip := Json.length_skipSpace_le b
  rw [hs, List.cons_append] at hb
  rw [hb, List.length_cons] at hskip
  rw [readBracketed, hb]
  simp only [if_neg (show ¬ (0x7B : UInt8) = 0x5B by decide), if_true, Json.depth]
  cases room with
  | zero => rw [Json.withRoom_succ_zero]
  | succ room =>
    rw [Json.withRoom_succ_succ]
    exact h room (s ++ rest) rest (by rw [hs, List.cons_append]) (by omega)

/-- A value behind its colon. -/
theorem colon_printed {read : Bytes → Except Failure (α × Bytes)} {printed : Bytes} {needed : Nat}
    (hopen : ∀ s, Json.skipSpace (printed ++ s) = printed ++ s)
    (h : Reads read limit printed needed room a) :
    Reads (fun b => do read (← Json.colon b)) limit (layout.colon ++ printed) needed room a := by
  intro b rest hb hlen hrest
  have hskip := Json.length_skipSpace_le b
  cases layout with
  | compact =>
    have hcolon : Json.colon b = .ok (printed ++ rest) := by
      rw [Json.colon, hb]
      rfl
    simp only [hb, Layout.colon, List.cons_append, List.nil_append, List.length_cons] at hskip
    show (Json.colon b >>= _) = _
    rw [hcolon]
    exact h _ rest (hopen rest) (by omega) hrest
  | indented =>
    have hcolon : Json.colon b = .ok (0x20 :: (printed ++ rest)) := by
      rw [Json.colon, hb]
      rfl
    simp only [hb, Layout.colon, List.cons_append, List.nil_append, List.length_cons] at hskip
    show (Json.colon b >>= _) = _
    rw [hcolon]
    refine h _ rest ?_ (by rw [List.length_cons]; omega) hrest
    refine (Json.skipSpace_append [0x20] (fun b hb => ?_) _).trans (hopen rest)
    rw [List.mem_singleton.mp hb]
    rfl

end Brackets

/-! ### Fields -/

/-- The names of the fields. -/
def Fields.names : Fields → List String
  | .nil => []
  | .cons name _ rest => name :: rest.names

/-- All components of a row have been met. -/
def Fields.found : (fs : Fields) → fs.Row → fs.Gathered
  | .nil, _ => ()
  | .cons _ _ rest, (v, row) => (some v, rest.found row)

theorem Fields.complete_found : (fs : Fields) → (row : fs.Row) →
    fs.complete (fs.found row) = .ok row
  | .nil, _ => rfl
  | .cons _ _ rest, (v, row) => by
    show (rest.complete (rest.found row) >>= fun row => pure (v, row)) = _
    rw [Fields.complete_found rest row]
    rfl

theorem Fields.keys_toMembers : (fs : Fields) → (row : fs.Row) →
    (fs.toMembers row).map Prod.fst = fs.names
  | .nil, _ => rfl
  | .cons name s rest, (v, row) => by
    rw [Fields.toMembers, Fields.names, List.map_cons, Fields.keys_toMembers rest row]

/-- The reader of the members of a structure. -/
def Fields.member (limit : Nat) (fs : Fields) (room : Nat) (key : String)
    (gathered : fs.Gathered) (b : Bytes) : Except Failure (fs.Gathered × Bytes) :=
  match fs.readMember limit key room gathered b with
  | some read => read
  | none => do return (gathered, ← Json.passOver limit (← Json.colon b))

/-- A member of another key than that of the first field is left to the other fields. -/
theorem Fields.member_cons_of_ne {limit room : Nat} {name key : String} (hne : key ≠ name)
    (s : Schema) (rest : Fields) (found : Option s.Value) (gathered : rest.Gathered) (b : Bytes) :
    (Fields.cons name s rest).member limit room key (found, gathered) b =
      (do let (gathered, b) ← rest.member limit room key gathered b
          return ((found, gathered), b)) := by
  have hread : (Fields.cons name s rest).readMember limit key room (found, gathered) b =
      (rest.readMember limit key room gathered b).map fun read => do
        let (gathered, b) ← read
        return ((found, gathered), b) := by
    cases found
    · rw [Fields.readMember, if_neg hne]
    · rw [Fields.readMember, if_neg hne]
  rw [Fields.member, hread, Fields.member]
  cases rest.readMember limit key room gathered b with
  | some read => rfl
  -- No field has this name, so that its value is passed over on both sides.
  | none =>
    simp only [Option.map_none]
    cases Json.colon b with
    | error e => rfl
    | ok b =>
      show (Json.passOver limit b >>= _) = (Json.passOver limit b >>= _) >>= _
      cases Json.passOver limit b
      · rfl
      · rfl

/-- Members that the other fields gather are gathered behind a first field of another name. -/
theorem Fields.gathers_cons {limit room : Nat} {layout : Layout} {depth : Nat} {name : String}
    {s : Schema} {rest : Fields} {gathered all : rest.Gathered} {ms : List (String × Json)}
    (h : Gathers (rest.member limit room) limit room layout depth gathered ms all)
    (hne : name ∉ ms.map Prod.fst) (found : Option s.Value) :
    Gathers ((Fields.cons name s rest).member limit room) limit room layout depth
      (found, gathered) ms (found, all) := by
  induction h with
  | nil gathered => exact .nil _
  | @cons gathered next all key v ms first others ih =>
    simp only [List.map_cons, List.mem_cons, not_or] at hne
    refine .cons (found, next) ?_ (ih hne.2)
    have hlift : (Fields.cons name s rest).member limit room key (found, gathered) =
        fun b => do let (g, b) ← rest.member limit room key gathered b
                    return ((found, g), b) :=
      funext fun b => Fields.member_cons_of_ne (Ne.symm hne.1) s rest found gathered b
    rw [hlift]
    exact first.map fun g => (found, g)

/-! ### Maps -/

/-- An entry behind all others is put at the end. -/
theorem insert_of_forall_lt {α : Type} {key : String} {value : α} {es : List (String × α)}
    (h : ∀ e ∈ es, e.1 < key) : Json.insert key value es = es ++ [(key, value)] := by
  induction es with
  | nil => rfl
  | cons e es ih =>
    have hlt : e.1 < key := h e (by simp)
    rw [Json.insert, if_neg (String.lt_asymm hlt), if_neg (fun heq : key = e.1 =>
      String.lt_irrefl e.1 (heq ▸ hlt)), ih fun e he => h e (by simp [he]), List.cons_append]

/-- The entries of a map are gathered one after the other. -/
theorem map_gathers {limit room : Nat} {layout : Layout} {depth : Nat} {s : Schema}
    (front : TextMap s.Value) {all : TextMap s.Value} {es : List (String × s.Value)}
    (h : ∀ e ∈ es, Reads (s.readText limit room) limit ((s.toJson e.2).printAt layout depth)
      (s.toJson e.2).depth room e.2)
    (hall : all.entries = front.entries ++ es) :
    Gathers (fun key (m : TextMap s.Value) b => do
        let (v, rest) ← s.readText limit room (← Json.colon b)
        return (m.insert key v, rest))
      limit room layout depth front (es.map fun e => (e.1, s.toJson e.2)) all := by
  induction es generalizing front with
  | nil =>
    have heq : front = all := by
      cases front
      cases all
      simp_all
    rw [heq]
    exact .nil all
  | cons e es ih =>
    refine .cons (front.insert e.1 e.2) ?_ (ih _ (fun e' he' => h e' (by simp [he'])) ?_)
    · exact colon_printed (Json.skipSpace_printAt layout depth _)
        ((h e (by simp)).map fun v => front.insert e.1 v)
    · have hasc := all.ascending
      rw [hall, List.pairwise_append] at hasc
      show all.entries = Json.insert e.1 e.2 front.entries ++ es
      rw [insert_of_forall_lt fun e' he' => hasc.2.2 e' he' e (by simp), hall, List.append_assoc,
        List.singleton_append]

/-! ### Values that are read back -/

/-- The value is read back, wherever it is written in a document. -/
def Schema.ReadsBack (s : Schema) (v : s.Value) : Prop :=
  ∀ limit room layout depth, Reads (s.readText limit room) limit
    ((s.toJson v).printAt layout depth) (s.toJson v).depth room v

/-- The components of a row are read back as members of an object. -/
def Fields.ReadsBack (fs : Fields) (row : fs.Row) : Prop :=
  ∀ limit room layout depth, Gathers (fs.member limit room) limit room layout depth
    fs.noneGathered (fs.toMembers row) (fs.found row)

/-- A variant is read back: by its name alone, or with its content from an object with its name as
the only key. -/
def Variants.ReadsBack (vs : Variants) (c : vs.Choice) : Prop :=
  (∃ name ∈ vs.names, vs.toJson c = .str name ∧ vs.withoutContent name = .ok c) ∨
  ∃ name ∈ vs.names, ∃ content, vs.toJson c = .obj [(name, content)] ∧
    ∀ choice limit room layout depth, Reads (vs.readContent limit choice name room) limit
      (content.printAt layout depth) content.depth room c

theorem Fields.ReadsBack.nil (row : Fields.nil.Row) : Fields.nil.ReadsBack row :=
  fun _ _ _ _ => .nil _

/-- A row is read back if its first component and the others are, and their names differ. -/
theorem Fields.ReadsBack.cons {name : String} {s : Schema} {rest : Fields} {v : s.Value}
    {row : rest.Row} (hname : name ∉ rest.names) (hv : s.ReadsBack v) (hrow : rest.ReadsBack row) :
    (Fields.cons name s rest).ReadsBack (v, row) := by
  intro limit room layout depth
  refine .cons (some v, rest.noneGathered) ?_ (Fields.gathers_cons
    (hrow limit room layout depth) (by rw [Fields.keys_toMembers]; exact hname) (some v))
  have hfirst : (Fields.cons name s rest).member limit room name (none, rest.noneGathered) =
      fun b => do
        let (v, b) ← s.readText limit room (← Json.colon b)
        return ((some v, rest.noneGathered), b) := by
    funext b
    rw [Fields.member, Fields.readMember, if_pos rfl]
  show Reads ((Fields.cons name s rest).member limit room name (none, rest.noneGathered)) _ _ _ _ _
  rw [hfirst]
  exact colon_printed (Json.skipSpace_printAt layout depth _)
    ((hv limit room layout depth).map fun v => (some v, rest.noneGathered))

/-- The reader of a structure reads a row that is read back. -/
theorem Fields.ReadsBack.readRecord {fs : Fields} {row : fs.Row} (h : fs.ReadsBack row)
    (what : String) (limit room : Nat) (layout : Layout) (depth : Nat) :
    Reads (fs.readRecord limit what room) limit ((Json.obj (fs.toMembers row)).printAt layout depth)
      (Json.obj (fs.toMembers row)).depth room row := by
  intro b rest hb hlen hrest
  rw [Fields.readRecord]
  refine readBracketed_object (fun room s rest hs hlen => ?_) b rest hb hlen hrest
  show (Json.members (fs.member limit room) limit true fs.noneGathered s >>= _) = _
  rw [Json.object_printed (h limit room layout (depth + 1)) hs hlen]
  refine Json.withRoom_bind_ok ?_
  show (fs.complete (fs.found row) >>= _) = _
  rw [Fields.complete_found]
  rfl

/-- A structure is read back if its row is. -/
theorem Schema.ReadsBack.record {name : String} {fs : Fields} {row : fs.Row}
    (h : fs.ReadsBack row) : (Schema.record name fs).ReadsBack row := by
  intro limit room layout depth b rest
  rw [Schema.readText]
  exact h.readRecord _ limit room layout depth b rest

/-- A list is read back if its items are. -/
theorem Schema.ReadsBack.list {s : Schema} {vs : List s.Value} (h : ∀ v ∈ vs, s.ReadsBack v) :
    (Schema.list s).ReadsBack vs := by
  intro limit room layout depth b rest hb hlen hrest
  rw [Schema.readText]
  refine readBracketed_list (fun room s' rest hs hlen => ?_) b rest hb hlen hrest
  exact Json.list_printed (fun v hv => h v hv limit room layout (depth + 1)) hs hlen

/-- A map is read back if its values are. -/
theorem Schema.ReadsBack.map {s : Schema} {m : TextMap s.Value}
    (h : ∀ e ∈ m.entries, s.ReadsBack e.2) : (Schema.map s).ReadsBack m := by
  intro limit room layout depth b rest hb hlen hrest
  rw [Schema.readText]
  refine readBracketed_object (fun room s' rest hs hlen => ?_) b rest hb hlen hrest
  exact Json.object_printed (map_gathers .empty
    (fun e he => h e he limit room layout (depth + 1)) rfl) hs hlen

/-- No value is read back as none. -/
theorem Schema.ReadsBack.none {s : Schema} : (Schema.option s).ReadsBack none := by
  intro limit room layout depth b rest hb hlen hrest
  rw [Schema.readText, hb, Schema.toJson, Json.depth_null, Json.withRoom_zero]
  rfl

/-- An optional value is read back if it is without the option, and not written as `null`. -/
theorem Schema.ReadsBack.some {s : Schema} {v : s.Value} (hnull : s.toJson v ≠ .null)
    (h : s.ReadsBack v) : (Schema.option s).ReadsBack (some v) := by
  intro limit room layout depth b rest hb hlen hrest
  rw [Schema.toJson] at hb
  obtain ⟨c, tail, hc, -, hn⟩ := Json.exists_printAt_eq_cons layout depth (s.toJson v)
  have hne : c ≠ 0x6E := fun heq => hnull (hn heq)
  have hskip := Json.length_skipSpace_le b
  have hread := h limit room layout depth (Json.skipSpace b) rest
    (by rw [hb]; exact Json.skipSpace_printAt layout depth _ rest) (by omega) hrest
  rw [Schema.readText]
  rw [hb, hc, List.cons_append] at hread ⊢
  split
  · rename_i heq
    cases heq
    exact absurd rfl hne
  · rw [hread, Schema.toJson]
    exact Json.withRoom_bind_pure (v, rest) fun r => (Option.some r.1, r.2)

/-- A choice between more variants reads back what the choice between the others reads back. -/
theorem Variants.ReadsBack.cons {vs more : Variants} {name : String}
    (hnames : more.names = name :: vs.names) {c : vs.Choice} {c' : more.Choice}
    (hjson : more.toJson c' = vs.toJson c)
    (inr : vs.Choice → more.Choice) (hc : inr c = c')
    (hwithout : ∀ variant, variant ≠ name →
      more.withoutContent variant = (vs.withoutContent variant).map inr)
    (hcontent : ∀ choice variant limit room, variant ≠ name →
      more.readContent limit choice variant room = fun b => do
        let (v, b) ← vs.readContent limit choice variant room b
        return (inr v, b))
    (hname : name ∉ vs.names) (h : vs.ReadsBack c) : more.ReadsBack c' := by
  rcases h with ⟨variant, hmem, hstr, hread⟩ | ⟨variant, hmem, content, hobj, hread⟩
  · have hne : variant ≠ name := fun heq => hname (heq ▸ hmem)
    refine .inl ⟨variant, by rw [hnames]; exact List.mem_cons_of_mem _ hmem,
      by rw [hjson, hstr], ?_⟩
    rw [hwithout variant hne, hread, ← hc]
    rfl
  · have hne : variant ≠ name := fun heq => hname (heq ▸ hmem)
    refine .inr ⟨variant, by rw [hnames]; exact List.mem_cons_of_mem _ hmem, content,
      by rw [hjson, hobj], fun choice limit room layout depth => ?_⟩
    rw [hcontent choice variant limit room hne, ← hc]
    exact (hread choice limit room layout depth).map inr

theorem readVariantName_printed {vs : Variants} {variant : String} (hmem : variant ∈ vs.names)
    {limit : Nat} (rest : Bytes) (hlen : (Json.printString variant ++ rest).length < limit) :
    readVariantName limit vs (Json.printString variant ++ rest) = .ok (variant, rest) := by
  have hread : readString limit "variant identifier" (Json.printString variant ++ rest) =
      .ok (variant, rest) := by
    rw [Json.printString, List.cons_append, List.append_assoc, List.singleton_append] at hlen ⊢
    rw [readString, Json.skipSpace_cons (by decide)]
    simp only [if_true]
    refine Json.string_printed variant ?_
    simp only [List.length_append, List.length_cons] at hlen ⊢
    omega
  rw [readVariantName, hread]
  show (if vs.names.contains variant = true then _ else _) = _
  rw [if_pos (by simpa using hmem)]
  rfl

theorem openVariant_printed (layout : Layout) (depth : Nat) (variant : String) (rest : Bytes) :
    openVariant (layout.line depth ++ (Json.printString variant ++ rest)) =
      .ok (Json.printString variant ++ rest) := by
  rw [openVariant, Json.skipSpace_line, Json.printString, List.cons_append,
    Json.skipSpace_cons (by decide)]
  rfl

theorem closeVariant_printed (layout : Layout) (depth : Nat) (rest : Bytes) :
    closeVariant (layout.line depth ++ 0x7D :: rest) = .ok rest := by
  rw [closeVariant, Json.skipSpace_line, Json.skipSpace_cons (by decide)]
  rfl

/-- A choice is read back if its variant is. -/
theorem Schema.ReadsBack.choice {name : String} {vs : Variants} {c : vs.Choice}
    (h : vs.ReadsBack c) : (Schema.choice name vs).ReadsBack c := by
  intro limit room layout depth b rest hb hlen hrest
  rw [Schema.toJson] at hb ⊢
  have hskip := Json.length_skipSpace_le b
  rw [Schema.readText]
  rcases h with ⟨variant, hmem, hstr, hread⟩ | ⟨variant, hmem, content, hobj, hread⟩
  · rw [hstr, Json.printAt] at hb
    have hlimit : (Json.printString variant ++ rest).length < limit := by
      rw [← hb]
      omega
    have hvariant := readVariantName_printed hmem rest hlimit
    rw [hb, Json.printString, List.cons_append] at *
    simp only [if_neg (show ¬ Json.quote = 0x7B by decide), if_true]
    show (readVariantName limit vs _ >>= _) = _
    rw [hvariant, hstr, Json.depth_str, Json.withRoom_zero]
    show (vs.withoutContent variant >>= _) = _
    rw [hread]
    rfl
  · rw [hobj, Json.printAt] at hb
    simp only [List.cons_append, List.append_assoc, Json.printMembers, List.nil_append] at hb
    rw [hb, List.length_cons] at hskip
    rw [hb, hobj]
    simp only [if_true, Json.depth, Json.depthMembers, Nat.max_zero]
    cases room with
    | zero => rw [Json.withRoom_succ_zero]
    | succ room =>
      rw [Json.withRoom_succ_succ]
      simp only [List.length_append] at hskip
      have hcontent : (Json.colon (layout.colon ++ (content.printAt layout (depth + 1) ++
            (layout.line depth ++ 0x7D :: rest))) >>= vs.readContent limit name variant room) =
          withRoom content.depth room (c, layout.line depth ++ 0x7D :: rest) :=
        colon_printed (Json.skipSpace_printAt layout (depth + 1) content)
          (hread name limit room layout (depth + 1)) _ _
          (by rw [Json.skipSpace_colon, List.append_assoc])
          (by simp only [List.length_append]; omega) (Json.stops_line (Json.stops_cons (by decide)))
      rw [openVariant_printed]
      show (readVariantName limit vs _ >>= _) = _
      rw [readVariantName_printed hmem _ (by simp only [List.length_append]; omega)]
      show (Json.colon _ >>= fun b => vs.readContent limit name variant room b >>= _) = _
      rw [← bind_assoc]
      dsimp only
      rw [hcontent]
      refine Json.withRoom_bind_ok ?_
      show (closeVariant (layout.line depth ++ 0x7D :: rest) >>= _) = _
      rw [closeVariant_printed]
      rfl

/-! ### Regular schemas -/

/-- Some value of the schema is written as `null`. -/
def Schema.writesNull : Schema → Bool
  | .unit _ | .option _ => true
  | _ => false

mutual

/-- The schema tells its values apart. -/
def Schema.regular : Schema → Bool
  | .option s => !s.writesNull && s.regular
  | .list s => s.regular
  | .map s => s.regular
  | .record _ fs => fs.regular
  | .choice _ vs => vs.regular
  | _ => true

/-- No two fields share their name. -/
def Fields.regular : Fields → Bool
  | .nil => true
  | .cons name s rest => !rest.names.contains name && s.regular && rest.regular

/-- No two variants share their name. -/
def Variants.regular : Variants → Bool
  | .nil => true
  | .bare name rest => !rest.names.contains name && rest.regular
  | .holding name s rest => !rest.names.contains name && s.regular && rest.regular
  | .record name fs rest => !rest.names.contains name && fs.regular && rest.regular

end

theorem Schema.regular_option {s : Schema} :
    (Schema.option s).regular = true ↔ s.writesNull = false ∧ s.regular = true := by
  simp [Schema.regular]

theorem Fields.regular_cons {name : String} {s : Schema} {rest : Fields} :
    (Fields.cons name s rest).regular = true ↔
      name ∉ rest.names ∧ s.regular = true ∧ rest.regular = true := by
  simp [Fields.regular, and_assoc]

theorem Variants.regular_bare {name : String} {rest : Variants} :
    (Variants.bare name rest).regular = true ↔ name ∉ rest.names ∧ rest.regular = true := by
  simp [Variants.regular]

theorem Variants.regular_holding {name : String} {s : Schema} {rest : Variants} :
    (Variants.holding name s rest).regular = true ↔
      name ∉ rest.names ∧ s.regular = true ∧ rest.regular = true := by
  simp [Variants.regular, and_assoc]

theorem Variants.regular_record {name : String} {fs : Fields} {rest : Variants} :
    (Variants.record name fs rest).regular = true ↔
      name ∉ rest.names ∧ fs.regular = true ∧ rest.regular = true := by
  simp [Variants.regular, and_assoc]

theorem Variants.toJson_ne_null : (vs : Variants) → (c : vs.Choice) → vs.toJson c ≠ .null
  | .bare _ _, .inl _ => by simp [Variants.toJson]
  | .bare _ rest, .inr c => Variants.toJson_ne_null rest c
  | .holding _ _ _, .inl _ => by simp [Variants.toJson]
  | .holding _ _ rest, .inr c => Variants.toJson_ne_null rest c
  | .record _ _ _, .inl _ => by simp [Variants.toJson]
  | .record _ _ rest, .inr c => Variants.toJson_ne_null rest c

theorem Schema.toJson_ne_null {s : Schema} (h : s.writesNull = false) (v : s.Value) :
    s.toJson v ≠ .null := by
  cases s with
  | choice name vs => exact vs.toJson_ne_null v
  | unit | option => cases h
  | _ => simp [Schema.toJson]

mutual

/-- **A regular schema reads back all its values.** -/
theorem Schema.readsBack : (s : Schema) → s.regular = true → (v : s.Value) → s.ReadsBack v
  | .bool, _, v => by
    intro limit room layout depth b rest
    rw [Schema.readText]
    exact readBool_printed v b rest
  | .string, _, v => by
    intro limit room layout depth b rest
    rw [Schema.readText]
    exact readString_printed _ v b rest
  | .u8, _, v => by
    have hv := v.toNat_lt
    intro limit room layout depth b rest
    rw [Schema.readText]
    exact integer_reads "u8" (fun n => UInt8.ofNat n.toNat) (n := v.toNat) (by simp) (by omega)
      (by decide) (by decide) b rest
  | .u32, _, v => by
    have hv := v.toNat_lt
    intro limit room layout depth b rest
    rw [Schema.readText]
    exact integer_reads "u32" (fun n => UInt32.ofNat n.toNat) (n := v.toNat) (by simp) (by omega)
      (by decide) (by decide) b rest
  | .u64, _, v => by
    have hv := v.toNat_lt
    intro limit room layout depth b rest
    rw [Schema.readText]
    exact integer_reads "u64" (fun n => UInt64.ofNat n.toNat) (n := v.toNat) (by simp) (by omega)
      (by decide) (by decide) b rest
  | .i32, _, v => by
    intro limit room layout depth b rest
    rw [Schema.readText]
    exact integer_reads "i32" Int32.ofInt (by simp) ⟨v.le_toInt, v.toInt_le⟩ (by decide)
      (by decide) b rest
  | .i64, _, v => by
    intro limit room layout depth b rest
    rw [Schema.readText]
    exact integer_reads "i64" Int64.ofInt (by simp) ⟨v.le_toInt, v.toInt_le⟩ (by decide)
      (by decide) b rest
  | .uuid, _, v => by
    intro limit room layout depth b rest
    rw [Schema.readText]
    exact (readString_printed uuidName v.text).mapOk (f := uuidOfText)
      (by rw [uuidOfText, Uuid.read_text]) b rest
  | .instant, _, v => by
    intro limit room layout depth b rest
    rw [Schema.readText]
    exact (readString_printed instantName (Timestamp.write v)).mapOk (f := instantOfText)
      (by rw [instantOfText, Timestamp.read_write]) b rest
  | .unit _, _, v => by
    intro limit room layout depth b rest
    rw [Schema.readText]
    exact readNull_printed _ b rest
  | .option _, _, none => .none
  | .option s, h, some v => by
    obtain ⟨hnull, hs⟩ := Schema.regular_option.mp h
    exact .some (s.toJson_ne_null hnull v) (Schema.readsBack s hs v)
  | .list s, h, _ => .list fun v _ => Schema.readsBack s h v
  | .map s, h, _ => .map fun e _ => Schema.readsBack s h e.2
  | .record _ fs, h, row => .record (Fields.readsBack fs h row)
  | .choice _ vs, h, c => .choice (Variants.readsBack vs h c)

/-- The rows of regular fields are read back. -/
theorem Fields.readsBack : (fs : Fields) → fs.regular = true → (row : fs.Row) → fs.ReadsBack row
  | .nil, _, row => .nil row
  | .cons name s rest, h, (v, row) => by
    obtain ⟨hname, hs, hrest⟩ := Fields.regular_cons.mp h
    exact .cons hname (Schema.readsBack s hs v) (Fields.readsBack rest hrest row)

/-- The choices between regular variants are read back. -/
theorem Variants.readsBack : (vs : Variants) → vs.regular = true → (c : vs.Choice) →
    vs.ReadsBack c
  | .bare name rest, _, .inl () => by
    refine .inl ⟨name, List.mem_cons_self, by rw [Variants.toJson], ?_⟩
    rw [Variants.withoutContent, if_pos rfl]
  | .bare name rest, h, .inr c => by
    obtain ⟨hname, hrest⟩ := Variants.regular_bare.mp h
    refine (Variants.readsBack rest hrest c).cons rfl (by rw [Variants.toJson]) .inr rfl
      (fun variant hne => ?_) (fun choice variant limit room hne => ?_) hname
    · rw [Variants.withoutContent, if_neg hne]
    · funext b
      rw [Variants.readContent, if_neg hne]
  | .holding name s rest, h, .inl v => by
    obtain ⟨-, hs, -⟩ := Variants.regular_holding.mp h
    refine .inr ⟨name, List.mem_cons_self, s.toJson v, by rw [Variants.toJson],
      fun choice limit room layout depth b rest => ?_⟩
    rw [Variants.readContent, if_pos rfl]
    exact ((Schema.readsBack s hs v limit room layout depth).map Sum.inl) b rest
  | .holding name s rest, h, .inr c => by
    obtain ⟨hname, -, hrest⟩ := Variants.regular_holding.mp h
    refine (Variants.readsBack rest hrest c).cons rfl (by rw [Variants.toJson]) .inr rfl
      (fun variant hne => ?_) (fun choice variant limit room hne => ?_) hname
    · rw [Variants.withoutContent, if_neg hne]
    · funext b
      rw [Variants.readContent, if_neg hne]
  | .record name fs rest, h, .inl row => by
    obtain ⟨-, hfs, -⟩ := Variants.regular_record.mp h
    refine .inr ⟨name, List.mem_cons_self, .obj (fs.toMembers row), by rw [Variants.toJson],
      fun choice limit room layout depth b rest => ?_⟩
    rw [Variants.readContent, if_pos rfl]
    exact (((Fields.readsBack fs hfs row).readRecord _ limit room layout depth).map Sum.inl) b
      rest
  | .record name fs rest, h, .inr c => by
    obtain ⟨hname, -, hrest⟩ := Variants.regular_record.mp h
    refine (Variants.readsBack rest hrest c).cons rfl (by rw [Variants.toJson]) .inr rfl
      (fun variant hne => ?_) (fun choice variant limit room hne => ?_) hname
    · rw [Variants.withoutContent, if_neg hne]
    · funext b
      rw [Variants.readContent, if_neg hne]

end

/-! ### Documents -/

/-- **A document is read back, or its brackets are nested too deep.** -/
theorem Schema.ReadsBack.parse_print {s : Schema} {v : s.Value} (h : s.ReadsBack v)
    (layout : Layout) :
    s.parse (s.print layout v) = withRoom (s.toJson v).depth Json.maxDepth v := by
  have hopen := Json.skipSpace_printAt layout 0 (s.toJson v) []
  rw [List.append_nil] at hopen
  have hread := h (Json.limitOf (s.print layout v)) Json.maxDepth layout 0 (s.print layout v) []
    (by rw [List.append_nil]; exact hopen) (by rw [Json.limitOf]; omega) Json.stops_nil
  rw [Schema.parse, Json.finish, hread]
  exact Json.withRoom_bind_ok rfl

end EventSourcing
