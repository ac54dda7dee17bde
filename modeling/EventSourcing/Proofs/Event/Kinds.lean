import EventSourcing.Event.EventSet

/-!
# The kinds of stored events

A stored event is read as a payload of the first type that has its kind.  Whatever it is read as has
that kind again, and it is of an unknown kind exactly if no type has it.

## Main Statements

* `EventSet.decode_cases` — all that reading a stored event can come to.
* `EventSet.decode_eq_unknownKind`, `EventSet.kind_of_decode` — when the kind is unknown, and which
  kind an event has that is read.
-/

namespace EventSourcing

/-- Nothing is read if no type has the kind. -/
theorem Member.decode?_eq_none {codec : Codec} {kind : String} {data : Bytes}
    {ts : List EventType} :
    Member.decode? codec kind data ts = none ↔ kind ∉ ts.map EventType.kind := by
  induction ts with
  | nil => simp [Member.decode?]
  | cons t ts ih =>
    rw [Member.decode?, List.map_cons, List.mem_cons, not_or]
    by_cases ht : t.kind = kind
    · simp [ht]
    · rw [if_neg ht, Option.map_eq_none_iff, ih]
      exact ⟨fun h => ⟨Ne.symm ht, h⟩, And.right⟩

/-- What is read is a payload of the kind, or a failure of the codec. -/
theorem Member.decode?_cases {codec : Codec} {kind : String} {data : Bytes} {ts : List EventType}
    {read : Except DecodeError (Member ts)}
    (hread : Member.decode? codec kind data ts = some read) :
    (∃ m, read = .ok m ∧ m.kind = kind) ∨
      ∃ typeName reason, read = .error (.codec kind typeName reason) := by
  induction ts with
  | nil => cases hread
  | cons t ts ih =>
    rw [Member.decode?] at hread
    by_cases ht : t.kind = kind
    · rw [if_pos ht, Option.some.injEq] at hread
      subst hread
      cases codec.decode t.schema data with
      | ok payload => exact .inl ⟨.here payload, rfl, ht⟩
      | error reason => exact .inr ⟨t.typeName, reason, rfl⟩
    · rw [if_neg ht, Option.map_eq_some_iff] at hread
      obtain ⟨later, hlater, rfl⟩ := hread
      rcases ih hlater with ⟨m, rfl, hm⟩ | ⟨typeName, reason, rfl⟩
      · exact .inl ⟨.there m, rfl, hm⟩
      · exact .inr ⟨typeName, reason, rfl⟩

namespace EventSet

variable {Event : Type} {events : EventSet Event} {codec : Codec} {kind : String} {data : Bytes}

theorem decode_of_some {read : Except DecodeError (Member events.types)}
    (h : Member.decode? codec kind data events.types = some read) :
    events.decode codec kind data = read.map events.ofMember := by
  rw [decode, h]

/-- **All that reading a stored event can come to**: its kind is unknown, an event of its kind is
read, or the codec fails. -/
theorem decode_cases (events : EventSet Event) (codec : Codec) (kind : String) (data : Bytes) :
    (kind ∉ events.kinds ∧
      events.decode codec kind data = .error (.unknownKind kind events.kinds)) ∨
    (kind ∈ events.kinds ∧
      ((∃ e, events.decode codec kind data = .ok e ∧ events.kind e = kind) ∨
        ∃ typeName reason,
          events.decode codec kind data = .error (.codec kind typeName reason))) := by
  by_cases hkind : kind ∈ events.kinds
  · refine .inr ⟨hkind, ?_⟩
    cases hread : Member.decode? codec kind data events.types with
    | none => exact absurd hkind (Member.decode?_eq_none.mp hread)
    | some read =>
      rw [decode_of_some hread]
      rcases Member.decode?_cases hread with ⟨m, rfl, hm⟩ | ⟨typeName, reason, rfl⟩
      · refine .inl ⟨events.ofMember m, rfl, ?_⟩
        rw [EventSet.kind, events.toMember_ofMember, hm]
      · exact .inr ⟨typeName, reason, rfl⟩
  · refine .inl ⟨hkind, ?_⟩
    rw [decode, Member.decode?_eq_none.mpr hkind]

/-- The kind of a stored event is unknown exactly if no type has it; then all kinds are reported. -/
theorem decode_eq_unknownKind {unknown : String} {known : List String} :
    events.decode codec kind data = .error (.unknownKind unknown known) ↔
      kind ∉ events.kinds ∧ unknown = kind ∧ known = events.kinds := by
  rcases events.decode_cases codec kind data with
    ⟨hkind, hdecode⟩ | ⟨hkind, ⟨e, hdecode, -⟩ | ⟨typeName, reason, hdecode⟩⟩
  · rw [hdecode]
    simp [hkind, eq_comm]
  · rw [hdecode]
    simp [hkind]
  · rw [hdecode]
    simp [hkind]

/-- **An event that is read has the kind under which it was stored.** -/
theorem kind_of_decode {e : Event} (hdecode : events.decode codec kind data = .ok e) :
    events.kind e = kind := by
  rcases events.decode_cases codec kind data with
    ⟨-, hunknown⟩ | ⟨-, ⟨e', hread, he'⟩ | ⟨typeName, reason, hfailed⟩⟩
  · rw [hdecode] at hunknown
    cases hunknown
  · rw [hdecode] at hread
    cases hread
    exact he'
  · rw [hdecode] at hfailed
    cases hfailed

end EventSet

end EventSourcing
