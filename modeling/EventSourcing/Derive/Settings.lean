import EventSourcing.Derive.Declaration
import EventSourcing.Derive.Problem

/-!
# The settings of declarations

The settings of a declaration stand in its attributes.  Each of them is understood on its own, and
all that is wrong with them is reported, in the order in which it stands.  Of a setting that is not
understood it is still known that it is given.  An attribute that is no source text of its kind
gives no settings at all.

## Main Definitions

* `Derive.addAttributes` — what attributes of a name add to settings of any kind.
* `EventSettings`, `AggregateSettings` — the settings of an event, of an aggregate.
* `EventSettings.ofAttributes`, `AggregateSettings.ofAttributes` — the settings in attributes, and
  what is wrong with them.
-/

namespace EventSourcing

namespace Derive

/-! ### Values -/

/-- What a setting means, or why it is not understood. -/
abbrev Understood (α : Type) := Except Problem α

/-- The name of the kind of a literal. -/
def literalName : LiteralKind → String
  | .text => "string"
  | .bytes => "byte string"
  | .nullEnded => "unknown"
  | .byte => "byte"
  | .character => "char"
  | .integer => "int"
  | .decimal => "float"
  | .truth => "bool"

/-- The problem of a value of the wrong kind. -/
def wrongValueKind : Form → Problem
  | .literal kind => .wrongKind (literalName kind)
  | form => .wrongKind form.name

/-- The items of a list of settings. -/
def items (inside : List Token) : Understood (List Setting.Item) :=
  match Grammar.read Setting.readItems inside with
  | .ok (items, _) => .ok items
  | .error fault => .error (.unreadable fault)

/-- The source text of the type that a setting names. -/
def typeText : Setting.Shape → Understood String
  | .value _ tokens =>
    match Grammar.read (fun g => g.type true) tokens with
    | .ok (.path _, written) => .ok (Source.text written)
    | _ => .error .noType
  | _ => .error .noType

/-- The plain paths that a setting lists. -/
def paths : Setting.Shape → Understood (List TypePath)
  | .alone => .error (.wrongForm "word")
  | .list inside => do
    (← items inside).mapM fun item =>
      match item with
      | .setting ⟨path, .alone⟩ => .ok path
      | _ => .error (.wrongKind "non-word")
  | .value form _ => .error (wrongValueKind form)

/-- The text that a setting is given. -/
def textValue : Setting.Shape → Understood String
  | .alone => .error (.wrongForm "word")
  | .list inside => do
    let _ ← items inside
    throw (.wrongForm "list")
  | .value (.literal .text) [.literal _ text] => .ok ((Literal.value? text).getD "")
  | .value form _ => .error (wrongValueKind form)

/-- Whether a setting holds.  Alone it does. -/
def truth : Setting.Shape → Understood Bool
  | .alone => .ok true
  | .list inside => do
    let _ ← items inside
    throw (.wrongForm "list")
  | .value (.literal .truth) tokens => .ok (Source.startsWithWord "true" tokens)
  | .value (.literal .text) [.literal _ text] =>
    let value := (Literal.value? text).getD ""
    if value = "true" then .ok true
    else if value = "false" then .ok false
    else .error (.wrongValue value)
  | .value form _ => .error (wrongValueKind form)

/-! ### Settings in attributes -/

/-- A setting that is given, and what it means if it is understood. -/
abbrev Given (α : Type) := Option (Option α)

/-- A setting that is given now, and the problem that this is: it may be given already, or not
understood. -/
def give {α : Type} (name : String) (before : Given α) (found : Understood α) :
    Given α × List Problem :=
  match before, found with
  | some before, _ => (some before, [.repeated name])
  | none, .ok a => (some (some a), [])
  | none, .error problem => (some none, [problem])

section Attributes

variable {σ : Type} (add : σ → Setting.Item → σ × List Problem)

/-- The settings with those of a list, and the problems of these. -/
def addAll : σ → List Setting.Item → σ × List Problem
  | s, [] => (s, [])
  | s, item :: items =>
    let (s, problems) := add s item
    let (s, others) := addAll s items
    (s, problems ++ others)

/-- The settings with those in an attribute, and the problems of these. -/
def addAttribute (s : σ) (attribute' : Setting) : σ × List Problem :=
  match attribute'.shape with
  | .alone => (s, [])
  | .value _ _ => (s, [.valued attribute'.path.name])
  | .list inside =>
    match items inside with
    | .ok found => addAll add s found
    | .error problem => (s, [problem])

/-- The settings with those in attributes, and the problems of these.  Only attributes of one name
hold any. -/
def addAttributes (name : String) : σ → List Setting → σ × List Problem
  | s, [] => (s, [])
  | s, attribute' :: others =>
    let (s, problems) :=
      if attribute'.path = ⟨false, [name]⟩ then addAttribute add s attribute' else (s, [])
    let (s, rest) := addAttributes name s others
    (s, problems ++ rest)

end Attributes

end Derive

open Derive

/-! ### Events -/

/-- The settings of an event as far as they are given. -/
structure EventSettings where
  kind : Given String := none

namespace EventSettings

/-- The names of the settings. -/
def names : List String := ["kind"]

/-- The settings with one more, and the problem that this is. -/
def add (s : EventSettings) : Setting.Item → EventSettings × List Problem
  | .literal => (s, [.wrongForm "literal"])
  | .setting ⟨path, shape⟩ =>
    let name := path.name
    if name = "kind" then
      let (kind, problems) := give name s.kind (textValue shape)
      ({ s with kind }, problems)
    else (s, [.unknown name names])

/-- The settings in attributes, and what is wrong with them. -/
def ofAttributes (attributes : List Setting) : EventSettings × List Problem :=
  addAttributes add "event" {} attributes

end EventSettings

/-! ### Aggregates -/

/-- The settings of an aggregate as far as they are given. -/
structure AggregateSettings where
  id : Given String := none
  error : Given String := none
  events : Given (List TypePath) := none
  kind : Given String := none
  eventEnum : Given String := none
  derives : Given (List TypePath) := none
  tenantScoped : Given Bool := none

namespace AggregateSettings

/-- The names of the settings. -/
def names : List String :=
  ["id", "error", "events", "kind", "event_enum", "derives", "tenant_scoped"]

/-- The settings with one more, and the problem that this is. -/
def add (s : AggregateSettings) : Setting.Item → AggregateSettings × List Problem
  | .literal => (s, [.wrongForm "literal"])
  | .setting ⟨path, shape⟩ =>
    let name := path.name
    if name = "id" then
      let (id, problems) := give name s.id (typeText shape)
      ({ s with id }, problems)
    else if name = "error" then
      let (error, problems) := give name s.error (typeText shape)
      ({ s with error }, problems)
    else if name = "events" then
      let (events, problems) := give name s.events (paths shape)
      ({ s with events }, problems)
    else if name = "kind" then
      let (kind, problems) := give name s.kind (textValue shape)
      ({ s with kind }, problems)
    else if name = "event_enum" then
      let (eventEnum, problems) := give name s.eventEnum (textValue shape)
      ({ s with eventEnum }, problems)
    else if name = "derives" then
      let (derives, problems) := give name s.derives (paths shape)
      ({ s with derives }, problems)
    else if name = "tenant_scoped" then
      let (tenantScoped, problems) := give name s.tenantScoped (truth shape)
      ({ s with tenantScoped }, problems)
    else (s, [.unknown name names])

/-- The settings in attributes, and what is wrong with them. -/
def ofAttributes (attributes : List Setting) : AggregateSettings × List Problem :=
  addAttributes add "aggregate" {} attributes

/-- The settings that must be given and are not. -/
def missing (s : AggregateSettings) : List Problem :=
  (if s.id.isSome then [] else [.missing "id"]) ++
    (if s.error.isSome then [] else [.missing "error"]) ++
    (if s.events.isSome then [] else [.missing "events"])

end AggregateSettings
end EventSourcing
