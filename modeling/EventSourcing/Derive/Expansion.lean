import EventSourcing.Derive.Identifier
import EventSourcing.Derive.Settings
import EventSourcing.Derive.Words

/-!
# Derived declarations

The source text that makes a type an event or an aggregate is derived from its declaration and the
settings in its attributes.  An event gets its kind.  An aggregate gets an enumeration of its
events, with one variant for each type of events, and what binds the two together.

Problems are reported all at once.  Names that no identifier can have are met only when the code is
built, and then building breaks off.

## Main Definitions

* `Expansion` — code, reported problems, or a break-off.
* `Derive.EventInput`, `Derive.AggregateInput` — a declaration that is given in parts.
* `Derive.event`, `Derive.aggregate` — what is derived.
-/

namespace EventSourcing

/-- What becomes of a declaration. -/
inductive Expansion (α : Type) where
  | code (a : α)
  | problems (found : List Derive.Problem)
  /-- Building the code breaks off at a text that is no identifier. -/
  | breaksOff (fault : Ident.Fault)
  deriving Repr, DecidableEq

namespace Derive

/-! ### Declarations in parts -/

/-- The form of a declared type. -/
inductive Item where
  | named
  | tuple
  | unit
  | enumeration
  deriving Repr, DecidableEq

/-- The source text of a type with one component. -/
def Item.source (item : Item) (name : String) : String :=
  match item with
  | .named => "struct " ++ name ++ " \x7b value: u8 \x7d"
  | .tuple => "struct " ++ name ++ "(u8);"
  | .unit => "struct " ++ name ++ ";"
  | .enumeration => "enum " ++ name ++ " \x7b Value \x7d"

/-- The source text of an attribute with settings. -/
def attributeSource (name : String) (settings : List String) : String :=
  "#[" ++ name ++ "(" ++ ", ".intercalate settings ++ ")]\n"

/-- The declaration of an event: its name with parameters as source text, and its kind. -/
structure EventInput where
  name : String
  item : Item
  kind : Option String
  deriving Repr, DecidableEq

/-- The source text of a declaration of an event. -/
def EventInput.source (i : EventInput) : String :=
  (match i.kind with
    | some kind => attributeSource "event" ["kind = " ++ Text.quoted kind]
    | none => "") ++ i.item.source i.name

/-- The source text of a setting that names a type: `key = source`, or `key(source)`, which is not
understood. -/
inductive TypeSource where
  | value (source : String)
  | list (source : String)
  deriving Repr, DecidableEq

/-- The declaration of an aggregate with its settings.  Names, types and what is visible are given
by their source text. -/
structure AggregateInput where
  name : String
  item : Item
  visibility : String
  id : Option TypeSource
  error : Option TypeSource
  events : Option (List String)
  kind : Option String
  eventEnum : Option String
  derives : Option (List String)
  tenantScoped : Bool
  deriving Repr, DecidableEq

namespace AggregateInput

/-- The source text of a setting that names a type. -/
def typeSource (key : String) : TypeSource → String
  | .value source => key ++ " = " ++ source
  | .list source => key ++ "(" ++ source ++ ")"

/-- The source text of a setting that lists types. -/
def listSource (key : String) (sources : List String) : String :=
  key ++ "(" ++ ", ".intercalate sources ++ ")"

/-- The source text of a setting that is a text. -/
def textSource (key text : String) : String := key ++ " = " ++ Text.quoted text

/-- The source texts of the settings. -/
def settings (i : AggregateInput) : List String :=
  (i.id.map (typeSource "id")).toList ++ (i.error.map (typeSource "error")).toList ++
    (i.events.map (listSource "events")).toList ++ (i.derives.map (listSource "derives")).toList ++
    (i.kind.map (textSource "kind")).toList ++
    (i.eventEnum.map (textSource "event_enum")).toList ++
    (if i.tenantScoped then ["tenant_scoped"] else [])

/-- The source text of a declaration of an aggregate. -/
def source (i : AggregateInput) : String :=
  attributeSource "aggregate" i.settings ++ i.visibility ++ " " ++ i.item.source i.name

end AggregateInput

/-! ### Events -/

/-- What is derived for an event. -/
structure EventCode where
  declared : Declaration
  kind : String
  deriving Repr, DecidableEq

/-- The kind of a type: the one that is set, or its name in kebab case. -/
def kindOf (declared : Declaration) (kind : Option String) : String :=
  kind.getD (Words.kebab declared.name)

/-- What the declaration of an event becomes. -/
def expandEvent (declared : Declaration) : Expansion EventCode :=
  match EventSettings.ofAttributes declared.attributes with
  | (settings, []) => .code ⟨declared, kindOf declared settings.kind.join⟩
  | (_, found) => .problems found

/-- Derives an event.  There is nothing to derive from a text that declares no type. -/
def event (i : EventInput) : Option (Expansion EventCode) :=
  (Declaration.read? i.source).map expandEvent

/-- The implementations for an event. -/
def EventCode.implementations (c : EventCode) : List String :=
  ["DomainEvent for " ++ c.declared.typeText]

/-! ### Aggregates -/

/-- A variant of the enumeration of events. -/
structure Variant where
  name : String
  type : TypePath
  deriving Repr, DecidableEq

/-- What is derived for an aggregate. -/
structure AggregateCode where
  declared : Declaration
  eventEnum : String
  derives : List TypePath
  variants : List Variant
  kind : String
  tenantScoped : Bool
  id : String
  error : String
  deriving Repr, DecidableEq

/-- All problems of a declaration in the order in which they are reported: settings that are not
understood, the form of the declaration, and what is not set. -/
def problems (declared : Declaration) : List Problem :=
  let (settings, found) := AggregateSettings.ofAttributes declared.attributes
  found ++ (if declared.isEnumeration then [.enumeration] else []) ++ settings.missing

/-- The variant of a type of events, named after all segments of its path. -/
def variant (type : TypePath) : Except Ident.Fault Variant := do
  return ⟨← Ident.check (Words.upperCamel ("_".intercalate type.names)), type⟩

/-- Builds the code of an aggregate from settings that have been understood. -/
def build (declared : Declaration) (s : AggregateSettings) (id error : String)
    (events : List TypePath) : Except Ident.Fault AggregateCode := do
  let variants ← events.mapM variant
  let eventEnum ← Ident.check (s.eventEnum.join.getD (declared.name ++ "Event"))
  return {
    declared := declared
    eventEnum := eventEnum
    derives := s.derives.join.getD []
    variants := variants
    kind := kindOf declared s.kind.join
    tenantScoped := s.tenantScoped.join.getD false
    id := id
    error := error }

/-- What a declaration becomes, which must have at least one type of events. -/
def expand (declared : Declaration) : Expansion AggregateCode :=
  let settings := (AggregateSettings.ofAttributes declared.attributes).1
  match problems declared, settings.id.join, settings.error.join, settings.events.join with
  | [], some id, some error, some events =>
    if events.isEmpty then .problems [.noEvents]
    else
      match build declared settings id error events with
      | .ok code => .code code
      | .error fault => .breaksOff fault
  | found, _, _, _ => .problems found

/-- Derives an aggregate.  There is nothing to derive from a text that declares no type. -/
def aggregate (i : AggregateInput) : Option (Expansion AggregateCode) :=
  (Declaration.read? i.source).map expand

/-! ### Source text -/

namespace AggregateCode

variable (c : AggregateCode)

/-- What the enumeration of events is visible to. -/
def visibilityText : String := Source.text c.declared.visibility

/-- The list in the attribute that derives more for the enumeration of events. -/
def derivesText : String := "Clone," ++ ",".intercalate (c.derives.map TypePath.text)

/-- The constant that lists the kinds of the events. -/
def eventKindsText : String :=
  "&[" ++ ",".intercalate (c.variants.map fun v =>
    "<" ++ v.type.text ++ "as::chronicle::event::DomainEvent>::KIND") ++ "]"

/-- The implementations, without the conversions from the types of events. -/
def implementations : List String :=
  ["EventKind for " ++ c.eventEnum, "EventSet for " ++ c.eventEnum,
    "Aggregate for " ++ c.declared.typeText]

/-- The conversions from the types of events. -/
def conversions : List String := c.variants.map fun v => "<" ++ v.type.text ++ ">"

end AggregateCode

end Derive
end EventSourcing
