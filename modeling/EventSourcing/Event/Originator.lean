import EventSourcing.Schema.Basic

/-!
# Originators

Who caused an event: the tenant, user and service on whose behalf it happened, and the identifier
that correlates it with others.  All of it is optional.

## Main Definitions

* `Originator` — the four parts, and its description by a schema.
-/

namespace EventSourcing

/-- Who caused an event. -/
structure Originator where
  tenant : Option String
  user : Option String
  service : Option String
  correlation : Option Uuid
  deriving DecidableEq

namespace Originator

/-- Nobody in particular. -/
def unknown : Originator := ⟨none, none, none, none⟩

instance : Inhabited Originator := ⟨unknown⟩

/-- A service. -/
def ofService (name : String) : Originator := { unknown with service := some name }

instance : Described Originator where
  schema := .record "Originator" (.cons "tenant_id" (.option .string) (.cons "user_id"
    (.option .string) (.cons "service_id" (.option .string) (.cons "correlation_id"
    (.option .uuid) .nil))))
  toValue o := (o.tenant, o.user, o.service, o.correlation, ())
  ofValue v := ⟨v.1, v.2.1, v.2.2.1, v.2.2.2.1⟩
  ofValue_toValue _ := rfl

end Originator
end EventSourcing
