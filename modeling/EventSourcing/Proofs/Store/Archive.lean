import EventSourcing.Proofs.Answer
import EventSourcing.Proofs.Schema.Nesting
import EventSourcing.Store.Archive

/-!
# Archived streams

A stream that is moved back from the archive is the one that was moved there, provided that what is
stored of an identifier is never read as another one.  Moving it back may fail: an identifier may
refuse to be read again, and the document may be nested too deep.  It does not fail if identifiers
last: they are read back wherever they stand in a document, also in the brackets of an archive.

## Main Definitions

* `Identifier.Unmistakable` — what is stored of an identifier is read as that identifier or not at
  all.
* `Identifier.Lasting` — what is stored of an identifier is read back from an archive.

## Main Statements

* `Stream.exists_archive_iff` — which streams can be written.
* `Stream.eq_of_restore` — the stream of a document is the one of which it was written.
* `Stream.restore_archive` — every document is read back.
-/

namespace EventSourcing

/-- What is stored of an identifier is read back by its schema, and as that identifier if it is not
refused. -/
class Identifier.Unmistakable (Id : Type) [Identifier Id] : Prop where
  readsBack : ∀ (a : Id) v, write a = .ok v → (schema Id).ReadsBack v
  eq_of_read : ∀ (a b : Id) v, write a = .ok v → read v = .ok b → b = a

namespace Identifier

/-- Identifiers that are read back as they were, by a regular schema, are not mistaken. -/
theorem Unmistakable.of_faithful (Id : Type) [Identifier Id] [Faithful Id]
    (h : (schema Id).regular = true) : Unmistakable Id where
  readsBack _ v _ := (schema Id).readsBack h v
  eq_of_read a _ v hwrite hread :=
    Except.ok.inj (hread.symm.trans (Faithful.read_write a v hwrite))

instance : Unmistakable String := .of_faithful String rfl
instance : Unmistakable UInt64 := .of_faithful UInt64 rfl
instance : Unmistakable Int64 := .of_faithful Int64 rfl
instance : Unmistakable Uuid := .of_faithful Uuid rfl

end Identifier

/-- What is stored of an identifier is read back as it was, also from within an archive, where
three brackets stand around it: those of the document, of its events and of an event. -/
class Identifier.Lasting (Id : Type) [Identifier Id] : Prop extends Faithful Id where
  readsBack : ∀ (a : Id) v, write a = .ok v → (schema Id).ReadsBack v
  shallow : ∀ (a : Id) v, write a = .ok v → ((schema Id).toJson v).depth + 3 ≤ Json.maxDepth

namespace Identifier

/-- Identifiers that are read back as they were last if their schema is regular and leaves room for
the brackets of an archive. -/
theorem Lasting.of_faithful (Id : Type) [Identifier Id] [Faithful Id]
    (hregular : (schema Id).regular = true) (hnesting : (schema Id).nesting + 3 ≤ Json.maxDepth) :
    Lasting Id where
  readsBack _ v _ := (schema Id).readsBack hregular v
  shallow _ v _ := Nat.le_trans (Nat.add_le_add_right ((schema Id).depth_toJson_le v) 3) hnesting

/-- Identifiers in a wrapper last as their content does. -/
theorem Lasting.wrapped {Id Inner : Type} [Identifier Inner] [Lasting Inner] (name : String)
    (wrap : Inner → Id) (content : Id → Inner) (wrap_content : ∀ a, wrap (content a) = a) :
    @Lasting Id (.wrapped name wrap content wrap_content) := by
  let _ : Identifier Id := .wrapped name wrap content wrap_content
  have : Faithful Id := by
    constructor
    intro a v hwrite
    have hread := Faithful.read_write (content a) v hwrite
    show (@read Inner _ v).map wrap = .ok a
    rw [hread, Except.map, wrap_content]
  exact ⟨fun a => Lasting.readsBack (content a), fun a => Lasting.shallow (content a)⟩

instance : Lasting String := .of_faithful String rfl (by decide)
instance : Lasting UInt64 := .of_faithful UInt64 rfl (by decide)
instance : Lasting Int64 := .of_faithful Int64 rfl (by decide)
instance : Lasting Uuid := .of_faithful Uuid rfl (by decide)

/-- Identifiers that last are not mistaken. -/
instance {Id : Type} [Identifier Id] [Lasting Id] : Unmistakable Id where
  readsBack := Lasting.readsBack
  eq_of_read a _ v hwrite hread :=
    Except.ok.inj (hread.symm.trans (Faithful.read_write a v hwrite))

end Identifier

/-! ### Records and events -/

theorem exists_writeVersion_iff {version : Nat} :
    (∃ word, writeVersion version = .ok word) ↔ version < 2 ^ 64 := by
  constructor
  · rintro ⟨word, hword⟩
    exact toNat_of_writeVersion hword ▸ word.toNat_lt
  · intro hlt
    exact ⟨_, if_pos hlt⟩

/-- A record can be written if its identifier and its version can. -/
theorem Record.exists_toValue_iff {Id : Type} [Identifier Id] {r : Record Id} :
    (∃ v, r.toValue = .ok v) ↔
      (∃ v, Identifier.write r.aggregate = .ok v) ∧ r.version < 2 ^ 64 := by
  rw [← exists_writeVersion_iff]
  constructor
  · rintro ⟨v, hv⟩
    obtain ⟨id, hid, hv⟩ := bind_eq_ok.mp hv
    obtain ⟨version, hversion, -⟩ := bind_eq_ok.mp hv
    exact ⟨⟨id, hid⟩, version, hversion⟩
  · rintro ⟨⟨id, hid⟩, version, hversion⟩
    exact ⟨(id, version, r.tenant, r.deleted, r.deletedAt, ()),
      bind_eq_ok.mpr ⟨id, hid, bind_eq_ok.mpr ⟨version, hversion, rfl⟩⟩⟩

/-- So can an event. -/
theorem StoredEvent.exists_toValue_iff {Id : Type} [Identifier Id] {e : StoredEvent Id} :
    (∃ v, e.toValue = .ok v) ↔
      (∃ v, Identifier.write e.aggregate = .ok v) ∧ e.version < 2 ^ 64 := by
  rw [← exists_writeVersion_iff]
  constructor
  · rintro ⟨v, hv⟩
    obtain ⟨id, hid, hv⟩ := bind_eq_ok.mp hv
    obtain ⟨version, hversion, -⟩ := bind_eq_ok.mp hv
    exact ⟨⟨id, hid⟩, version, hversion⟩
  · rintro ⟨⟨id, hid⟩, version, hversion⟩
    exact ⟨(e.aggregateKind, id, e.id, e.kind, version, e.data, e.time,
      Described.toValue e.originator, ()),
      bind_eq_ok.mpr ⟨id, hid, bind_eq_ok.mpr ⟨version, hversion, rfl⟩⟩⟩

section Parts

variable {Id : Type} [Identifier Id] [Identifier.Unmistakable Id]

theorem Record.readsBack_toValue {r : Record Id} {v} (h : r.toValue = .ok v) :
    (recordSchema (Identifier.schema Id)).ReadsBack v := by
  obtain ⟨id, hid, h⟩ := bind_eq_ok.mp h
  obtain ⟨version, -, h⟩ := bind_eq_ok.mp h
  cases h
  exact .record (.cons (by simp [Fields.names])
    (Identifier.Unmistakable.readsBack r.aggregate id hid) (Fields.readsBack _ rfl _))

theorem Record.eq_of_ofValue {r r' : Record Id} {v} (h : r.toValue = .ok v)
    (h' : Record.ofValue v = .ok r') : r' = r := by
  obtain ⟨id, hid, h⟩ := bind_eq_ok.mp h
  obtain ⟨version, hversion, h⟩ := bind_eq_ok.mp h
  cases h
  obtain ⟨id', hid', h'⟩ := bind_eq_ok.mp h'
  cases h'
  rw [toNat_of_writeVersion hversion,
    Identifier.Unmistakable.eq_of_read r.aggregate id' id hid hid']

theorem StoredEvent.readsBack_toValue {e : StoredEvent Id} {v} (h : e.toValue = .ok v) :
    (storedEventSchema (Identifier.schema Id)).ReadsBack v := by
  obtain ⟨id, hid, h⟩ := bind_eq_ok.mp h
  obtain ⟨version, -, h⟩ := bind_eq_ok.mp h
  cases h
  exact .record (.cons (by simp [Fields.names]) (Schema.readsBack _ rfl _)
    (.cons (by simp [Fields.names]) (Identifier.Unmistakable.readsBack e.aggregate id hid)
      (Fields.readsBack _ rfl _)))

theorem StoredEvent.eq_of_ofValue {e e' : StoredEvent Id} {v} (h : e.toValue = .ok v)
    (h' : StoredEvent.ofValue v = .ok e') : e' = e := by
  obtain ⟨id, hid, h⟩ := bind_eq_ok.mp h
  obtain ⟨version, hversion, h⟩ := bind_eq_ok.mp h
  cases h
  obtain ⟨id', hid', h'⟩ := bind_eq_ok.mp h'
  cases h'
  rw [toNat_of_writeVersion hversion,
    Identifier.Unmistakable.eq_of_read e.aggregate id' id hid hid', Described.ofValue_toValue]

end Parts

section LastingParts

variable {Id : Type} [Identifier Id] [Identifier.Lasting Id]

theorem Record.ofValue_toValue {r : Record Id} {v} (h : r.toValue = .ok v) :
    Record.ofValue v = .ok r := by
  obtain ⟨id, hid, h⟩ := bind_eq_ok.mp h
  obtain ⟨version, hversion, h⟩ := bind_eq_ok.mp h
  cases h
  have hread := Identifier.Faithful.read_write r.aggregate id hid
  refine bind_eq_ok.mpr ⟨r.aggregate, hread, ?_⟩
  rw [toNat_of_writeVersion hversion]
  rfl

theorem StoredEvent.ofValue_toValue {e : StoredEvent Id} {v} (h : e.toValue = .ok v) :
    StoredEvent.ofValue v = .ok e := by
  obtain ⟨id, hid, h⟩ := bind_eq_ok.mp h
  obtain ⟨version, hversion, h⟩ := bind_eq_ok.mp h
  cases h
  have hread := Identifier.Faithful.read_write e.aggregate id hid
  refine bind_eq_ok.mpr ⟨e.aggregate, hread, ?_⟩
  rw [toNat_of_writeVersion hversion, Described.ofValue_toValue]
  rfl

/-- The brackets of a record stand around those of its identifier. -/
theorem Record.depth_toValue {r : Record Id} {v} (h : r.toValue = .ok v) :
    ((recordSchema (Identifier.schema Id)).toJson v).depth + 2 ≤ Json.maxDepth := by
  obtain ⟨id, hid, h⟩ := bind_eq_ok.mp h
  obtain ⟨version, -, h⟩ := bind_eq_ok.mp h
  cases h
  have hshallow := Identifier.Lasting.shallow r.aggregate id hid
  have hrest := Fields.depthMembers_toMembers_le
    (.cons "version" .u64 (.cons "tenant_id" (.option .string) (.cons "deleted" .bool
      (.cons "deleted_at" (.option .instant) .nil))))
    (version, r.tenant, r.deleted, r.deletedAt, ())
  simp only [Fields.nesting, Schema.nesting] at hrest
  refine Nat.le_trans (Nat.add_le_add_right (Nat.le_of_eq (Schema.depth_toJson_record _ _ _)) 2) ?_
  rw [Fields.depthMembers_toMembers_cons]
  omega

/-- The brackets of an event stand around those of its identifier, of its bytes and of its
originator. -/
theorem StoredEvent.depth_toValue {e : StoredEvent Id} {v} (h : e.toValue = .ok v) :
    ((storedEventSchema (Identifier.schema Id)).toJson v).depth + 2 ≤ Json.maxDepth := by
  obtain ⟨id, hid, h⟩ := bind_eq_ok.mp h
  obtain ⟨version, -, h⟩ := bind_eq_ok.mp h
  cases h
  have hshallow := Identifier.Lasting.shallow e.aggregate id hid
  have hkind := Schema.depth_toJson_le .string e.aggregateKind
  have hrest := Fields.depthMembers_toMembers_le
    (.cons "event_id" .uuid (.cons "kind" .string (.cons "version" .u64 (.cons "data" (.list .u8)
      (.cons "created_at" .instant (.cons "originator" (Described.schema Originator) .nil))))))
    (e.id, e.kind, version, e.data, e.time, Described.toValue e.originator, ())
  have hnesting : (Described.schema Originator).nesting = 1 := rfl
  simp only [Fields.nesting, Schema.nesting, hnesting] at hkind hrest
  have hroom : 4 ≤ Json.maxDepth := by decide
  refine Nat.le_trans (Nat.add_le_add_right (Nat.le_of_eq (Schema.depth_toJson_record _ _ _)) 2) ?_
  rw [Fields.depthMembers_toMembers_cons, Fields.depthMembers_toMembers_cons]
  omega

end LastingParts

/-! ### Streams -/

namespace Stream

variable {Id : Type} [Identifier Id]

/-- What is written of a stream, and its document. -/
theorem archive_eq_ok {s : Stream Id} {encoding : Encoding} {document : Bytes} :
    s.archive encoding = .ok document ↔ ∃ record events, s.record.toValue = .ok record ∧
      s.events.mapM StoredEvent.toValue = .ok events ∧
      (streamSchema (Identifier.schema Id)).print encoding.layout (record, events, ()) =
        document := by
  rw [archive, bind_eq_ok]
  constructor
  · rintro ⟨record, hrecord, h⟩
    obtain ⟨events, hevents, h⟩ := bind_eq_ok.mp h
    exact ⟨record, events, hrecord, hevents, Except.ok.inj h⟩
  · rintro ⟨record, events, hrecord, hevents, rfl⟩
    exact ⟨record, hrecord, bind_eq_ok.mpr ⟨events, hevents, rfl⟩⟩

/-- A stream can be written if its record and all its events can. -/
theorem exists_archive_iff {s : Stream Id} {encoding : Encoding} :
    (∃ document, s.archive encoding = .ok document) ↔
      (∃ v, s.record.toValue = .ok v) ∧ ∀ e ∈ s.events, ∃ v, e.toValue = .ok v := by
  rw [← exists_mapM_iff]
  constructor
  · rintro ⟨document, hdocument⟩
    obtain ⟨record, events, hrecord, hevents, -⟩ := archive_eq_ok.mp hdocument
    exact ⟨⟨record, hrecord⟩, events, hevents⟩
  · rintro ⟨⟨record, hrecord⟩, events, hevents⟩
    exact ⟨_, archive_eq_ok.mpr ⟨record, events, hrecord, hevents, rfl⟩⟩

/-- A stream that is written in one encoding is written in every other one. -/
theorem exists_archive {s : Stream Id} {encoding : Encoding} {document : Bytes}
    (h : s.archive encoding = .ok document) (other : Encoding) :
    ∃ document', s.archive other = .ok document' :=
  exists_archive_iff.mpr (exists_archive_iff.mp ⟨document, h⟩)

/-- What is written of a stream is read back from its document, or its brackets are nested too
deep. -/
theorem parse_document [Identifier.Unmistakable Id] {s : Stream Id}
    {record : (recordSchema (Identifier.schema Id)).Value}
    {events : List (storedEventSchema (Identifier.schema Id)).Value}
    (hrecord : s.record.toValue = .ok record)
    (hevents : s.events.mapM StoredEvent.toValue = .ok events) (layout : Json.Layout) :
    (streamSchema (Identifier.schema Id)).parse
        ((streamSchema (Identifier.schema Id)).print layout (record, events, ())) =
      Json.withRoom ((streamSchema (Identifier.schema Id)).toJson (record, events, ())).depth
        Json.maxDepth (record, events, ()) := by
  have hreads : (streamSchema (Identifier.schema Id)).ReadsBack (record, events, ()) := by
    refine .record (.cons (by simp [Fields.names]) (Record.readsBack_toValue hrecord)
      (.cons (by simp [Fields.names]) (.list fun e he => ?_) (.nil _)))
    obtain ⟨e', -, he'⟩ := exists_of_mem_mapM hevents he
    exact StoredEvent.readsBack_toValue he'
  exact hreads.parse_print layout

/-- **The stream of a document is the one of which it was written.** -/
theorem eq_of_restore [Identifier.Unmistakable Id] {s s' : Stream Id} {encoding : Encoding}
    {document : Bytes} (h : s.archive encoding = .ok document)
    (h' : Stream.restore document = .ok s') : s' = s := by
  obtain ⟨record, events, hrecord, hevents, rfl⟩ := archive_eq_ok.mp h
  obtain ⟨v, hparse, h'⟩ := bind_eq_ok.mp h'
  rw [parse_document hrecord hevents] at hparse
  unfold Json.withRoom at hparse
  split at hparse
  · cases hparse
    obtain ⟨record', hrecord', h'⟩ := bind_eq_ok.mp h'
    obtain ⟨events', hevents', h'⟩ := bind_eq_ok.mp h'
    cases h'
    rw [Record.eq_of_ofValue hrecord hrecord', eq_of_mapM_mapM hevents hevents'
      fun _ _ _ => StoredEvent.eq_of_ofValue]
  · cases hparse

/-- The brackets of a document leave room. -/
theorem depth_document [Identifier.Lasting Id] {s : Stream Id}
    {record : (recordSchema (Identifier.schema Id)).Value}
    {events : List (storedEventSchema (Identifier.schema Id)).Value}
    (hrecord : s.record.toValue = .ok record)
    (hevents : s.events.mapM StoredEvent.toValue = .ok events) :
    ((streamSchema (Identifier.schema Id)).toJson (record, events, ())).depth ≤ Json.maxDepth := by
  have hdepth := Record.depth_toValue hrecord
  have hlist : Json.depthItems (events.map (storedEventSchema (Identifier.schema Id)).toJson) + 2 ≤
      Json.maxDepth := by
    have hroom : 2 ≤ Json.maxDepth := by decide
    refine Nat.add_le_of_le_sub hroom (Json.depthItems_le fun item hitem => ?_)
    obtain ⟨v, hv, rfl⟩ := List.mem_map.mp hitem
    obtain ⟨e, -, he⟩ := exists_of_mem_mapM hevents hv
    exact Nat.le_sub_of_add_le (StoredEvent.depth_toValue he)
  refine Nat.le_trans (Nat.le_of_eq (Schema.depth_toJson_record _ _ _)) ?_
  rw [Fields.depthMembers_toMembers_cons, Fields.depthMembers_toMembers_cons, Schema.toJson,
    Json.depth, Fields.toMembers, Json.depthMembers]
  omega

/-- **Every document is read back**, in both encodings, if identifiers last. -/
theorem restore_archive [Identifier.Lasting Id] {s : Stream Id} {encoding : Encoding}
    {document : Bytes} (h : s.archive encoding = .ok document) :
    Stream.restore document = .ok s := by
  obtain ⟨record, events, hrecord, hevents, rfl⟩ := archive_eq_ok.mp h
  have hparse := parse_document hrecord hevents encoding.layout
  rw [Json.withRoom, if_pos (depth_document hrecord hevents)] at hparse
  refine bind_eq_ok.mpr ⟨_, hparse, ?_⟩
  refine bind_eq_ok.mpr ⟨s.record, Record.ofValue_toValue hrecord, ?_⟩
  have hback : events.mapM StoredEvent.ofValue = .ok s.events :=
    mapM_of_mapM hevents fun e _ v he => StoredEvent.ofValue_toValue he
  exact bind_eq_ok.mpr ⟨s.events, hback, rfl⟩

end Stream

end EventSourcing
