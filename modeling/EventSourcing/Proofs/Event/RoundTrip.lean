import EventSourcing.Event.EventSet
import EventSourcing.Proofs.Schema.Nesting

/-!
# Stored events are read back

Codecs may refuse to encode.  Some of what follows holds of whatever they do encode; a codec that
refuses nothing restores every event.

## Main Definitions

* `EventSet.RoundTrips` — events are read back from what is stored of them.
* `Codec.Restores`, `EventSet.Restores` — everything is encoded, and read back.

## Main Statements

* `Codec.roundTrips_json` — JSON keeps the values of a regular schema that are not nested too deep.
* `EventSet.roundTrips_of_types` — events are read back if the payloads of every type are, and no
  two types have one kind.
* `EventSet.restores_of_types` — events are restored if the payloads of every type are, and no two
  types have one kind.
-/

namespace EventSourcing

/-- JSON keeps the values of a regular schema, unless their brackets are nested too deep. -/
theorem Codec.roundTrips_json {s : Schema} (hregular : s.regular = true)
    (hdepth : ∀ v, (s.toJson v).depth ≤ Json.maxDepth) : Codec.json.RoundTrips s := by
  intro v b hencode
  cases hencode
  show (s.parse (s.print .compact v)).mapError Json.Failure.message = .ok v
  rw [(Schema.readsBack s hregular v).parse_print .compact, Json.withRoom, if_pos (hdepth v)]
  rfl

/-- Every value of the schema is encoded, and read back. -/
def Codec.Restores (codec : Codec) (s : Schema) : Prop :=
  ∀ v, ∃ data, codec.encode s v = .ok data ∧ codec.decode s data = .ok v

theorem Codec.Restores.roundTrips {codec : Codec} {s : Schema} (h : codec.Restores s) :
    codec.RoundTrips s := by
  intro v data hencode
  obtain ⟨data', hencode', hdecode⟩ := h v
  rw [hencode] at hencode'
  cases hencode'
  exact hdecode

/-- JSON restores the values of a regular schema, unless it nests brackets too deep. -/
theorem Codec.restores_json {s : Schema} (hregular : s.regular = true)
    (hnesting : s.nesting ≤ Json.maxDepth) : Codec.json.Restores s := by
  intro v
  have hdepth (v : s.Value) : (s.toJson v).depth ≤ Json.maxDepth :=
    Nat.le_trans (s.depth_toJson_le v) hnesting
  exact ⟨s.print .compact v, rfl, Codec.roundTrips_json hregular hdepth v _ rfl⟩

/-- The kind of a payload is that of one of the types. -/
theorem Member.kind_mem {ts : List EventType} (m : Member ts) :
    m.kind ∈ ts.map EventType.kind := by
  induction m with
  | here payload => exact List.mem_cons_self
  | there m ih => exact List.mem_cons_of_mem _ ih

/-- A payload is read back as one of its type, which is the only one of its kind. -/
theorem Member.decode?_encode {codec : Codec} {ts : List EventType}
    (hkinds : (ts.map EventType.kind).Nodup) (hcodec : ∀ t ∈ ts, codec.RoundTrips t.schema)
    (m : Member ts) {data : Bytes} (hencode : m.encode codec = .ok data) :
    Member.decode? codec m.kind data ts = some (.ok m) := by
  induction m with
  | @here t ts payload =>
    have hdecode := hcodec t List.mem_cons_self payload data hencode
    rw [Member.decode?, Member.kind, if_pos rfl, hdecode]
  | @there t ts m ih =>
    rw [List.map_cons, List.nodup_cons] at hkinds
    have hne : t.kind ≠ m.kind := by
      intro heq
      rw [heq] at hkinds
      exact hkinds.1 m.kind_mem
    have hrest := ih hkinds.2 (fun t ht => hcodec t (List.mem_cons_of_mem _ ht)) hencode
    rw [Member.kind, Member.decode?, if_neg hne, hrest]
    rfl

/-- Whatever is stored of an event is read back as that event. -/
def EventSet.RoundTrips {Event : Type} (events : EventSet Event) (codec : Codec) : Prop :=
  ∀ e data, events.encode codec e = .ok data → events.decode codec (events.kind e) data = .ok e

/-- **Events are read back** if the payloads of every type are and no two types have one kind. -/
theorem EventSet.roundTrips_of_types {Event : Type} {events : EventSet Event} {codec : Codec}
    (hkinds : events.kinds.Nodup) (hcodec : ∀ t ∈ events.types, codec.RoundTrips t.schema) :
    events.RoundTrips codec := by
  intro e data hencode
  rw [EventSet.decode, EventSet.kind, Member.decode?_encode hkinds hcodec _ hencode]
  show Except.ok (events.ofMember (events.toMember e)) = _
  rw [events.ofMember_toMember]

/-- A payload is encoded if the payloads of every type are. -/
theorem Member.exists_encode {codec : Codec} {ts : List EventType}
    (hcodec : ∀ t ∈ ts, codec.Restores t.schema) (m : Member ts) :
    ∃ data, m.encode codec = .ok data := by
  induction m with
  | @here t ts payload =>
    obtain ⟨data, hencode, -⟩ := hcodec t List.mem_cons_self payload
    exact ⟨data, hencode⟩
  | there m ih => exact ih fun t ht => hcodec t (List.mem_cons_of_mem _ ht)

/-- Every event is encoded, and read back from what is stored of it. -/
def EventSet.Restores {Event : Type} (events : EventSet Event) (codec : Codec) : Prop :=
  ∀ e, ∃ data, events.encode codec e = .ok data ∧
    events.decode codec (events.kind e) data = .ok e

theorem EventSet.Restores.roundTrips {Event : Type} {events : EventSet Event} {codec : Codec}
    (h : events.Restores codec) : events.RoundTrips codec := by
  intro e data hencode
  obtain ⟨data', hencode', hdecode⟩ := h e
  rw [hencode] at hencode'
  cases hencode'
  exact hdecode

/-- **Events are restored** if the payloads of every type are and no two types have one kind. -/
theorem EventSet.restores_of_types {Event : Type} {events : EventSet Event} {codec : Codec}
    (hkinds : events.kinds.Nodup) (hcodec : ∀ t ∈ events.types, codec.Restores t.schema) :
    events.Restores codec := by
  intro e
  obtain ⟨data, hencode⟩ := (events.toMember e).exists_encode hcodec
  have hread := EventSet.roundTrips_of_types hkinds fun t ht => (hcodec t ht).roundTrips
  exact ⟨data, hencode, hread e data hencode⟩

end EventSourcing
