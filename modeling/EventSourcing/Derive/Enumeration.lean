import EventSourcing.Derive.Expansion
import EventSourcing.Event.EventSet

/-!
# The enumeration of events

The code of an aggregate is built among other code, and only there it is known which types the paths
of its events stand for, with which kinds.  A value of the derived enumeration is a payload under
one of the variants.  As no two variants share their name, the values correspond to the payloads of
the types, and the enumeration is a set of events: an event has the kind of its variant's type, its
payload alone is encoded, and bytes are decoded by the first variant whose type has the kind.

In the derived code each of these is a table of its own with one row for each type of events: a
match that gives the kind, a list of the kinds, a match that encodes, and one test after the other
that decodes.

## Main Definitions

* `Derive.Scope` — the types that paths stand for.
* `Derive.Enumerated` — a value of an enumeration.
* `Derive.Enumerated.decodeAs` — bytes as a payload under a variant.
* `Derive.Tables` — the tables of the derived code; `Tables.kind?`, `Tables.kinds`,
  `Tables.encode?` and `Tables.decode?` say what they do.
* `Derive.AggregateCode.tables` — the tables that are derived.
* `Derive.AggregateCode.events` — the derived enumeration as a set of events.
-/

namespace EventSourcing

namespace Expansion

variable {α : Type}

/-- The code, if there is any. -/
def code? : Expansion α → Option α
  | .code a => some a
  | _ => none

theorem code?_eq_some {x : Expansion α} {a : α} : x.code? = some a ↔ x = .code a := by
  cases x <;> simp [code?]

end Expansion

namespace Derive

/-- The types of events that paths stand for where code is built. -/
abbrev Scope := TypePath → EventType

/-- A value of an enumeration: one of the variants, and a payload of its type. -/
structure Enumerated (scope : Scope) (vs : List Variant) where
  variant : Variant
  declared : variant ∈ vs
  payload : (scope variant.type).schema.Value

namespace Enumerated

variable {scope : Scope} {vs : List Variant}

/-- The types of the variants. -/
@[reducible] def types (scope : Scope) : List Variant → List EventType
  | [] => []
  | v :: vs => scope v.type :: types scope vs

/-- A value as that of an enumeration with one more variant. -/
def behind (v : Variant) (e : Enumerated scope vs) : Enumerated scope (v :: vs) :=
  ⟨e.variant, List.mem_cons_of_mem v e.declared, e.payload⟩

/-- The payload of a value among those of all types. -/
def toMember : (vs : List Variant) → Enumerated scope vs → Member (types scope vs)
  | [], e => absurd e.declared List.not_mem_nil
  | v :: vs, e =>
    if h : e.variant = v then .here (h ▸ e.payload)
    else .there (toMember vs ⟨e.variant, List.mem_of_ne_of_mem h e.declared, e.payload⟩)

/-- The value with a payload. -/
def ofMember : (vs : List Variant) → Member (types scope vs) → Enumerated scope vs
  | v :: _, .here payload => ⟨v, List.mem_cons_self, payload⟩
  | v :: vs, .there m => (ofMember vs m).behind v

theorem ofMember_toMember (e : Enumerated scope vs) : ofMember vs (toMember vs e) = e := by
  induction vs with
  | nil => exact absurd e.declared List.not_mem_nil
  | cons v vs ih =>
    obtain ⟨variant, declared, payload⟩ := e
    by_cases h : variant = v
    · subst h
      rw [toMember, dif_pos rfl, ofMember]
    · rw [toMember, dif_neg h, ofMember, ih]
      rfl

theorem nodup_of_names (hnames : (vs.map Variant.name).Nodup) : vs.Nodup :=
  (List.pairwise_map.mp hnames).imp fun hname heq => hname (congrArg Variant.name heq)

theorem toMember_ofMember (hvs : vs.Nodup) (m : Member (types scope vs)) :
    toMember vs (ofMember vs m) = m := by
  induction vs with
  | nil => cases m
  | cons v vs ih =>
    obtain ⟨hnot, hrest⟩ := List.nodup_cons.mp hvs
    cases m with
    | here payload => rw [ofMember, toMember, dif_pos rfl]
    | there m =>
      have hne : ((ofMember vs m).behind v).variant ≠ v := by
        intro heq
        exact hnot (heq ▸ (ofMember vs m).declared)
      rw [ofMember, toMember, dif_neg hne]
      exact congrArg Member.there (ih hrest m)

/-- The bytes of a stored event as a payload under a variant. -/
def decodeAs (codec : Codec) (v : Variant) (hv : v ∈ vs) (kind : String) (data : Bytes) :
    Except DecodeError (Enumerated scope vs) :=
  match codec.decode (scope v.type).schema data with
  | .ok payload => .ok ⟨v, hv, payload⟩
  | .error reason => .error (.codec kind (scope v.type).typeName reason)

end Enumerated

/-! ### Tables -/

/-- A row of the match that gives an event its kind: the variant, and the type that has the kind. -/
structure KindArm where
  variant : String
  type : TypePath
  deriving Repr, DecidableEq

/-- A test of a stored event: the type whose kind it is to have, and the variant under which it is
read if it has. -/
structure DecodeStep where
  type : TypePath
  variant : String
  deriving Repr, DecidableEq

/-- The tables of the code that makes an enumeration a set of events. -/
structure Tables where
  kindArms : List KindArm
  /-- The types whose kinds are listed. -/
  listed : List TypePath
  /-- The variants whose payloads are encoded. -/
  encodeArms : List String
  /-- The tests, in the order in which they are made. -/
  decodeSteps : List DecodeStep
  deriving Repr, DecidableEq

namespace Tables

variable (tables : Tables) (scope : Scope) {vs : List Variant}

/-- The tables that are written for types of events and for names of variants. -/
def write (types : List TypePath) (names : List String) : Tables where
  kindArms := List.zipWith KindArm.mk names types
  listed := types
  encodeArms := names
  decodeSteps := List.zipWith DecodeStep.mk types names

/-- The kinds that are listed. -/
def kinds : List String := tables.listed.map fun type => (scope type).kind

/-- The kind of an event: that of the first row for its variant.  A match without such a row is not
compiled. -/
def kind? {scope : Scope} (e : Enumerated scope vs) : Option String :=
  (tables.kindArms.find? fun arm => arm.variant = e.variant.name).map fun arm =>
    (scope arm.type).kind

/-- The bytes of an event.  A match without its variant is not compiled. -/
def encode? {scope : Scope} (codec : Codec) (e : Enumerated scope vs) :
    Option (Except String Bytes) :=
  if e.variant.name ∈ tables.encodeArms then
    some (codec.encode (scope e.variant.type).schema e.payload)
  else none

/-- A stored event by the first test that it passes.  A test for a variant that is not declared is
not compiled. -/
def decodeBy (codec : Codec) (kind : String) (data : Bytes) :
    List DecodeStep → Option (Except DecodeError (Enumerated scope vs))
  | [] => some (.error (.unknownKind kind (tables.kinds scope)))
  | step :: rest =>
    if kind = (scope step.type).kind then
      match h : vs.find? fun v => v.name = step.variant with
      | some v => some (Enumerated.decodeAs codec v (List.mem_of_find?_eq_some h) kind data)
      | none => none
    else decodeBy codec kind data rest

/-- The event that is stored under a kind. -/
def decode? (codec : Codec) (kind : String) (data : Bytes) :
    Option (Except DecodeError (Enumerated scope vs)) :=
  tables.decodeBy scope codec kind data tables.decodeSteps

end Tables

/-- The tables of derived code. -/
def AggregateCode.tables (c : AggregateCode) : Tables :=
  .write (c.variants.map Variant.type) (c.variants.map Variant.name)

/-! ### The set of events -/

/-- The derived enumeration as a set of events. -/
def AggregateCode.events (c : AggregateCode) (scope : Scope)
    (hnames : (c.variants.map Variant.name).Nodup) : EventSet (Enumerated scope c.variants) where
  types := Enumerated.types scope c.variants
  toMember := Enumerated.toMember c.variants
  ofMember := Enumerated.ofMember c.variants
  ofMember_toMember := Enumerated.ofMember_toMember
  toMember_ofMember := Enumerated.toMember_ofMember (Enumerated.nodup_of_names hnames)

end Derive
end EventSourcing
