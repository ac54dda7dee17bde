import EventSourcing.Proofs.Schema.RoundTrip

/-!
# How deep a schema nests brackets

A reader gives up on a document whose brackets are nested too deep.  How deep those of a value can
be nested is known from its schema.

## Main Definitions

* `Schema.nesting`, `Fields.nesting`, `Variants.nesting` — the deepest nesting that a schema allows.

## Main Statements

* `Schema.depth_toJson_le` — no value of a schema is nested deeper.
-/

namespace EventSourcing

namespace Json

theorem depthItems_le {n : Nat} {vs : List Json} (h : ∀ v ∈ vs, v.depth ≤ n) :
    depthItems vs ≤ n := by
  induction vs with
  | nil => exact Nat.zero_le n
  | cons v rest ih =>
    rw [depthItems, Nat.max_le]
    exact ⟨h v List.mem_cons_self, ih fun v hv => h v (List.mem_cons_of_mem _ hv)⟩

theorem depthMembers_le {n : Nat} {ms : List (String × Json)} (h : ∀ m ∈ ms, m.2.depth ≤ n) :
    depthMembers ms ≤ n := by
  induction ms with
  | nil => exact Nat.zero_le n
  | cons m rest ih =>
    rw [depthMembers, Nat.max_le]
    exact ⟨h m List.mem_cons_self, ih fun m hm => h m (List.mem_cons_of_mem _ hm)⟩

end Json

mutual

/-- The deepest nesting of brackets in values of the schema. -/
def Schema.nesting : Schema → Nat
  | .option s => s.nesting
  | .list s => s.nesting + 1
  | .map s => s.nesting + 1
  | .record _ fs => fs.nesting + 1
  | .choice _ vs => vs.nesting
  | _ => 0

/-- The deepest nesting of brackets in the components. -/
def Fields.nesting : Fields → Nat
  | .nil => 0
  | .cons _ s rest => max s.nesting rest.nesting

/-- The deepest nesting of brackets in the variants; one with content has brackets of its own. -/
def Variants.nesting : Variants → Nat
  | .nil => 0
  | .bare _ rest => rest.nesting
  | .holding _ s rest => max (s.nesting + 1) rest.nesting
  | .record _ fs rest => max (fs.nesting + 2) rest.nesting

end

mutual

/-- **No value of a schema is nested deeper** than the schema says. -/
theorem Schema.depth_toJson_le : (s : Schema) → (v : s.Value) → (s.toJson v).depth ≤ s.nesting
  | .bool, _ | .string, _ | .u8, _ | .u32, _ | .u64, _ | .i32, _ | .i64, _ | .uuid, _
  | .instant, _ | .unit _, _ => by
    rw [Schema.toJson, Json.depth]
    · exact Nat.zero_le _
    all_goals exact nofun
  | .option s, none => by
    rw [Schema.toJson]
    exact Nat.zero_le _
  | .option s, some v => by
    rw [Schema.toJson, Schema.nesting]
    exact s.depth_toJson_le v
  | .list s, vs => by
    rw [Schema.toJson, Json.depth, Schema.nesting]
    refine Nat.succ_le_succ (Json.depthItems_le fun item hitem => ?_)
    obtain ⟨v, -, rfl⟩ := List.mem_map.mp hitem
    exact s.depth_toJson_le v
  | .map s, m => by
    rw [Schema.toJson, Json.depth, Schema.nesting]
    refine Nat.succ_le_succ (Json.depthMembers_le fun member hmember => ?_)
    obtain ⟨e, -, rfl⟩ := List.mem_map.mp hmember
    exact s.depth_toJson_le e.2
  | .record _ fs, row => by
    rw [Schema.toJson, Json.depth, Schema.nesting]
    exact Nat.succ_le_succ (fs.depthMembers_toMembers_le row)
  | .choice _ vs, c => by
    rw [Schema.toJson, Schema.nesting]
    exact vs.depth_toJson_le c

theorem Fields.depthMembers_toMembers_le : (fs : Fields) → (row : fs.Row) →
    Json.depthMembers (fs.toMembers row) ≤ fs.nesting
  | .nil, _ => Nat.zero_le _
  | .cons _ s rest, (v, row) => by
    have hfirst := s.depth_toJson_le v
    have hrest := rest.depthMembers_toMembers_le row
    rw [Fields.toMembers, Json.depthMembers, Fields.nesting]
    omega

theorem Variants.depth_toJson_le : (vs : Variants) → (c : vs.Choice) →
    (vs.toJson c).depth ≤ vs.nesting
  | .bare _ _, .inl _ => Nat.zero_le _
  | .bare _ rest, .inr c => rest.depth_toJson_le c
  | .holding _ s rest, .inl v => by
    have hv := s.depth_toJson_le v
    rw [Variants.toJson, Json.depth, Json.depthMembers, Json.depthMembers, Variants.nesting]
    omega
  | .holding _ _ rest, .inr c => by
    have hc := rest.depth_toJson_le c
    rw [Variants.toJson, Variants.nesting]
    omega
  | .record _ fs rest, .inl row => by
    have hrow := fs.depthMembers_toMembers_le row
    rw [Variants.toJson, Json.depth, Json.depthMembers, Json.depthMembers, Json.depth,
      Variants.nesting]
    omega
  | .record _ _ rest, .inr c => by
    have hc := rest.depth_toJson_le c
    rw [Variants.toJson, Variants.nesting]
    omega

end

/-- The members of a row are nested as deep as the first one or the others. -/
theorem Fields.depthMembers_toMembers_cons (name : String) (s : Schema) (rest : Fields)
    (v : s.Value) (row : rest.Row) :
    Json.depthMembers ((Fields.cons name s rest).toMembers (v, row)) =
      max (s.toJson v).depth (Json.depthMembers (rest.toMembers row)) := by
  rw [Fields.toMembers, Json.depthMembers]

/-- A structure has brackets of its own around its members. -/
theorem Schema.depth_toJson_record (name : String) (fs : Fields) (row : fs.Row) :
    ((Schema.record name fs).toJson row).depth = Json.depthMembers (fs.toMembers row) + 1 := by
  rw [Schema.toJson, Json.depth]

end EventSourcing
