import EventSourcing.Schema.TextReader
import EventSourcing.Schema.Writer

/-!
# Codecs

A codec turns payloads into bytes and back.  It works by schema, so one codec serves every payload.
Both directions may fail with a reason.

## Main Definitions

* `Codec` — the two directions.
* `Codec.json` — compact JSON.
* `Codec.failing` — the codec that fails in both directions.
-/

namespace EventSourcing

/-- Turns values into bytes and back. -/
structure Codec where
  encode : (s : Schema) → s.Value → Except String Bytes
  decode : (s : Schema) → Bytes → Except String s.Value

namespace Codec

/-- Compact JSON. -/
def json : Codec where
  encode s v := .ok (s.print .compact v)
  decode s b := (s.parse b).mapError Json.Failure.message

/-- The codec that fails in both directions for the given reason. -/
def failing (reason : String) : Codec where
  encode _ _ := .error reason
  decode _ _ := .error reason

/-- Whatever the codec writes by a schema it reads back. -/
def RoundTrips (codec : Codec) (s : Schema) : Prop :=
  ∀ v b, codec.encode s v = .ok b → codec.decode s b = .ok v

end Codec
end EventSourcing
