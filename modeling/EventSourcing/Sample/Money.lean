import EventSourcing.Schema.Basic
import EventSourcing.ValueObject

/-!
# Money

An amount in a currency, with a note that does not count.
-/

namespace EventSourcing.Sample

/-- An amount in a currency. -/
structure Money where
  amount : Int64
  currency : String
  /-- A remark; money with another remark is the same money. -/
  note : Option String

instance : Described Money where
  schema := .record "Money"
    (.cons "amount" .i64 (.cons "currency" .string (.cons "note" (.option .string) .nil)))
  toValue m := (m.amount, m.currency, m.note, ())
  ofValue v := ⟨v.1, v.2.1, v.2.2.1⟩
  ofValue_toValue _ := rfl

instance : ValueObject Money where
  Parts := Int64 × String
  parts m := (m.amount, m.currency)

end EventSourcing.Sample
