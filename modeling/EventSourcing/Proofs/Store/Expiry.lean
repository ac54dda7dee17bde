import EventSourcing.Proofs.Store.Cycles
import EventSourcing.Proofs.Store.Lifecycle

/-!
# Expired aggregates

A store lists the aggregates of a kind that were marked as deleted at a cutoff or before.  The list
is complete only if no mark is without a time; then it has each of these aggregates once, in the
order in which they were marked.

An aggregate that is moved to the archive leaves the list, and it is in the list again once it is
moved back, since it comes back with its record.

## Main Definitions

* `Record.Dated`, `Memory.Dated` — marks of deletion with their times, and stores without others.
* `Memory.Orderly` — stores that have a history and a dated record of every aggregate.
* `Memory.Enumerates` — a complete list of expired aggregates.
* `Memory.each`, `Memory.boxEach`, `Memory.unboxEach` — one call for each of several aggregates.
* `Memory.Shelved` — what a store is when some aggregates have been moved to the archive.

## Main Statements

* `Memory.Orderly.after` — calls leave a store orderly if they save dated records only.
* `Memory.Orderly.enumerates_expired` — what an orderly store lists is complete.
* `Memory.Orderly.of_later` — what a later cutoff adds.
* `Memory.Shelved.boxEach`, `Memory.Shelved.unboxEach` — several aggregates are moved to the archive
  and back.
* `Memory.Shelved.mem_expired_iff` — these are no longer listed, and all others still are.
* `Memory.Orderly.box_expired` — the archive empties the list and fills it again.
-/

namespace EventSourcing

attribute [local instance] Counting.exact

variable {Id : Type}

/-! ### Marks and times -/

/-- A record that is marked as deleted says since when, and no other one does. -/
def Record.Dated (r : Record Id) : Prop := r.deleted = r.deletedAt.isSome

theorem Record.Dated.deleted_iff {r : Record Id} (h : r.Dated) :
    r.deleted = true ↔ ∃ time, r.deletedAt = some time := by
  rw [h, Option.isSome_iff_exists]

variable [Identifier Id]

/-- A place with such a record, of a live aggregate or in the archive. -/
inductive Slot.Dated : Slot Id → Prop where
  | live (s : Stream Id) (h : s.record.Dated) : Slot.Dated (.live s)
  | archived (s : Stream Id) (h : s.record.Dated) (encoding : Encoding) (document : Bytes)
      (harchive : s.archive encoding = .ok document) : Slot.Dated (.archived encoding document)

/-- A call that saves no other record than a dated one. -/
def Call.Dated : Call Id → Prop
  | .save _ record _ _ => record.Dated
  | .box _ _ _ => True
  | .unbox _ _ _ => True

namespace Memory

variable {kind : String} {id : Id} {m m' : Memory Id} {cutoff : Instant}

/-- All records are dated. -/
def Dated (m : Memory Id) : Prop := ∀ kind id slot, m.slot? kind id = some slot → slot.Dated

theorem dated_empty : (empty : Memory Id).Dated := fun kind id slot h => by cases h

theorem Dated.setSlot (h : m.Dated) {slot : Slot Id} (hslot : slot.Dated) :
    (m.setSlot kind id slot).Dated := by
  intro kind' id' slot' hslot'
  rw [slot?_setSlot] at hslot'
  split at hslot'
  · cases hslot'
    exact hslot
  · exact h kind' id' slot' hslot'

theorem Dated.save (h : m.Dated) (kind : String) {record : Record Id} (hrecord : record.Dated)
    (expected : Nat) (events : List NewEvent) : (m.save kind record expected events).2.Dated := by
  have hsaved := saved_save kind record expected events m
  generalize m.save kind record expected events = result at hsaved ⊢
  cases hsaved with
  | refused | nothing => exact h
  | first | behind => exact h.setSlot (.live _ hrecord)

theorem Dated.box (h : m.Dated) (kind : String) (id : Id) (encoding : Encoding) :
    (m.box kind id encoding).2.Dated := by
  have hboxed := boxed_box kind id encoding m
  generalize m.box kind id encoding = result at hboxed ⊢
  cases hboxed with
  | refused => exact h
  | moved stream document hslot harchive =>
    cases h kind id _ hslot with
    | live _ hrecord => exact h.setSlot (.archived stream hrecord encoding document harchive)

theorem Dated.unbox [Identifier.Unmistakable Id] (h : m.Dated) (kind : String) (id : Id)
    (encoding : Encoding) : (m.unbox kind id encoding).2.Dated := by
  have hunboxed := unboxed_unbox kind id encoding m
  generalize m.unbox kind id encoding = result at hunboxed ⊢
  cases hunboxed with
  | refused => exact h
  | moved stream document hslot hrestore =>
    -- The document is read as the stream of which it was written.
    cases h kind id _ hslot with
    | archived s hrecord encoding document harchive =>
      rw [Stream.eq_of_restore harchive hrestore]
      exact h.setSlot (.live s hrecord)

/-- Every aggregate has its history and a dated record. -/
structure Orderly (m : Memory Id) : Prop where
  keeps : ∀ kind id, ∃ history, m.Keeps kind id history
  dated : m.Dated

theorem orderly_empty : (empty : Memory Id).Orderly where
  keeps kind id := ⟨[], keeps_empty kind id⟩
  dated := dated_empty

/-- **A call that saves no other record than a dated one leaves a store orderly.** -/
theorem Orderly.after [Identifier.Unmistakable Id] (h : m.Orderly) {call : Call Id}
    (hcall : call.Dated) : (m.after call).Orderly where
  keeps kind id := by
    obtain ⟨history, hkeeps⟩ := h.keeps kind id
    exact ⟨_, (hkeeps.after call).1⟩
  dated := by
    cases call with
    | save kind record expected events => exact h.dated.save kind hcall expected events
    | box kind id encoding => exact h.dated.box kind id encoding
    | unbox kind id encoding => exact h.dated.unbox kind id encoding

/-- The record of a live aggregate names it, and is dated. -/
theorem Orderly.of_live (h : m.Orderly) {stream : Stream Id}
    (hslot : m.slot? kind id = some (.live stream)) :
    stream.record.aggregate = id ∧ stream.record.Dated := by
  obtain ⟨history, hkeeps⟩ := h.keeps kind id
  cases h.dated kind id _ hslot with
  | live _ hrecord => exact ⟨(hkeeps.of_live hslot).2.aggregate, hrecord⟩

/-! ### The list -/

/-- When a live aggregate was marked as deleted, if it is. -/
def deletionTime? (kind : String) (id : Id) (m : Memory Id) : Option Instant :=
  match m.get kind id with
  | .found record => record.deletedAt
  | .notFound => none
  | .archived => none

/-- A list of all aggregates of a kind that were marked as deleted at the cutoff or before, each of
them once, in the order in which they were marked. -/
structure Enumerates (kind : String) (cutoff : Instant) (m : Memory Id) (ids : List Id) : Prop where
  once : ids.Nodup
  mem_iff : ∀ id, id ∈ ids ↔ ∃ record time, m.get kind id = .found record ∧
    record.deleted = true ∧ record.deletedAt = some time ∧ time.le cutoff = true
  ordered : ∃ times : List Instant, ids.map (fun id => m.deletionTime? kind id) = times.map some ∧
    times.Pairwise fun s t => s.le t = true

/-- One mark is listed before another one if it is not later, and for marks of one time if the text
of its identifier is not greater. -/
theorem deletedBefore_iff {a b : Instant × Id} :
    deletedBefore a b = true ↔
      a.1.le b.1 = true ∧ (a.1 = b.1 → Identifier.text a.2 ≤ Identifier.text b.2) := by
  rw [deletedBefore]
  by_cases htime : a.1 = b.1
  · simp only [htime, if_true, decide_eq_true_eq, String.not_lt, true_implies]
    exact (and_iff_right ((b.1.le_total b.1).elim id id)).symm
  · simp only [htime, if_false, false_implies, and_true]

theorem deletedBefore_total (a b : Instant × Id) :
    (deletedBefore a b || deletedBefore b a) = true := by
  rw [Bool.or_eq_true, deletedBefore_iff, deletedBefore_iff]
  by_cases htime : a.1 = b.1
  · have hle : a.1.le b.1 = true ∧ b.1.le a.1 = true := by
      rw [htime]
      exact and_self_iff.mpr ((b.1.le_total b.1).elim id id)
    exact (String.le_total (Identifier.text a.2) (Identifier.text b.2)).imp
      (fun htext => ⟨hle.1, fun _ => htext⟩) fun htext => ⟨hle.2, fun _ => htext⟩
  · exact (a.1.le_total b.1).imp (fun hle => ⟨hle, fun h => absurd h htime⟩)
      fun hle => ⟨hle, fun h => absurd h.symm htime⟩

theorem deletedBefore_trans (a b c : Instant × Id) (hab : deletedBefore a b = true)
    (hbc : deletedBefore b c = true) : deletedBefore a c = true := by
  rw [deletedBefore_iff] at hab hbc ⊢
  refine ⟨Instant.le_trans hab.1 hbc.1, fun htime => ?_⟩
  -- What lies between two marks of one time is of that time as well.
  have hbetween : a.1 = b.1 := Instant.le_antisymm hab.1 (htime ▸ hbc.1)
  exact String.le_trans (hab.2 hbetween) (hbc.2 (hbetween ▸ htime))

namespace Orderly

/-- A mark is found under the kind and the identifier that the record names. -/
theorem key_of_deletion (h : m.Orderly) {entry : (String × Id) × Slot Id}
    (hentry : entry ∈ m.slots.entries) {d : Instant × Id}
    (hd : (if entry.1.1 = kind then deletion? entry.2 else none) = some d) :
    entry.1 = (kind, d.2) := by
  obtain ⟨⟨kind', id'⟩, slot⟩ := entry
  split at hd
  · rename_i hkind
    cases hkind
    obtain ⟨stream, rfl, haggregate, -⟩ := deletion?_eq_some.mp hd
    rw [← haggregate, (h.of_live (Table.mem_entries.mp hentry)).1]
  · cases hd

/-- No aggregate is marked twice. -/
theorem nodup_deletions (h : m.Orderly) (kind : String) :
    ((m.deletions kind).map Prod.snd).Nodup := by
  rw [List.Nodup, List.pairwise_map, deletions, List.pairwise_filterMap]
  refine List.Pairwise.imp_of_mem ?_ (List.pairwise_map.mp m.slots.distinct)
  intro entry entry' hentry hentry' hkeys d hd d' hd' hids
  exact hkeys (by rw [h.key_of_deletion hentry hd, h.key_of_deletion hentry' hd', hids])

theorem mem_deletions_iff (h : m.Orderly) {time : Instant} :
    (time, id) ∈ m.deletions kind ↔ ∃ record, m.get kind id = .found record ∧
      record.deleted = true ∧ record.deletedAt = some time := by
  rw [mem_deletions]
  constructor
  · rintro ⟨id', stream, hslot, rfl, hmark⟩
    obtain ⟨haggregate, -⟩ := h.of_live hslot
    exact ⟨stream.record, by rw [haggregate, get, hslot], hmark⟩
  · rintro ⟨record, hget, hmark⟩
    obtain ⟨stream, hslot, rfl⟩ := get_eq_found hget
    exact ⟨id, stream, hslot, (h.of_live hslot).1, hmark⟩

/-- **What an orderly store lists is complete**: all that is marked as deleted at the cutoff or
before, each aggregate once, in the order in which they were marked. -/
theorem enumerates_expired (h : m.Orderly) (kind : String) (cutoff : Instant) :
    m.Enumerates kind cutoff (m.expired kind cutoff) := by
  obtain ⟨marks, hmarks⟩ : ∃ marks,
      marks = ((m.deletions kind).filter fun d => d.1.le cutoff).mergeSort deletedBefore :=
    ⟨_, rfl⟩
  have hexpired : m.expired kind cutoff = marks.map Prod.snd := by rw [hmarks, expired_eq]
  have hperm : marks.Perm ((m.deletions kind).filter fun d => d.1.le cutoff) := by
    rw [hmarks]
    exact List.mergeSort_perm _ _
  have hmem {time : Instant} {id : Id} : (time, id) ∈ marks ↔
      (∃ record, m.get kind id = .found record ∧ record.deleted = true ∧
        record.deletedAt = some time) ∧ time.le cutoff = true := by
    rw [hperm.mem_iff, List.mem_filter, h.mem_deletions_iff]
  rw [hexpired]
  refine ⟨?_, fun id => ?_, marks.map Prod.fst, ?_, ?_⟩
  · refine (hperm.map Prod.snd).nodup_iff.mpr ?_
    exact (h.nodup_deletions kind).sublist (List.filter_sublist.map Prod.snd)
  · rw [List.mem_map]
    constructor
    · rintro ⟨⟨time, _⟩, hmark, rfl⟩
      obtain ⟨⟨record, hget, hdeleted, htime⟩, hle⟩ := hmem.mp hmark
      exact ⟨record, time, hget, hdeleted, htime, hle⟩
    · rintro ⟨record, time, hget, hdeleted, htime, hle⟩
      exact ⟨(time, id), hmem.mpr ⟨⟨record, hget, hdeleted, htime⟩, hle⟩, rfl⟩
  · rw [List.map_map, List.map_map]
    refine List.map_congr_left fun d hd => ?_
    obtain ⟨⟨record, hget, -, htime⟩, -⟩ := hmem.mp hd
    simp only [Function.comp_apply, deletionTime?, hget, htime]
  · rw [List.pairwise_map, hmarks]
    exact (List.pairwise_mergeSort deletedBefore_trans deletedBefore_total _).imp
      fun hbefore => (deletedBefore_iff.mp hbefore).1

/-- **What a later cutoff adds** are aggregates that were marked after the cutoff before. -/
theorem of_later (h : m.Orderly) {later : Instant} (hlater : cutoff.le later = true)
    (kind : String) :
    (∀ id ∈ m.expired kind cutoff, id ∈ m.expired kind later) ∧
    ∀ id ∈ m.expired kind later, id ∉ m.expired kind cutoff →
      ∃ time, m.deletionTime? kind id = some time ∧ time.le cutoff = false := by
  have hbefore := (h.enumerates_expired kind cutoff).mem_iff
  have hthen := (h.enumerates_expired kind later).mem_iff
  constructor
  · intro id hid
    obtain ⟨record, time, hget, hdeleted, htime, hle⟩ := (hbefore id).mp hid
    exact (hthen id).mpr ⟨record, time, hget, hdeleted, htime, Instant.le_trans hle hlater⟩
  · intro id hid hnot
    obtain ⟨record, time, hget, hdeleted, htime, -⟩ := (hthen id).mp hid
    refine ⟨time, by simp only [deletionTime?, hget, htime], Bool.eq_false_iff.mpr fun hle => ?_⟩
    exact hnot ((hbefore id).mpr ⟨record, time, hget, hdeleted, htime, hle⟩)

end Orderly

/-! ### To the archive and back -/

/-- Does the same for one aggregate after the other; with the answers. -/
def each {α : Type} (act : Id → Memory Id → α × Memory Id) :
    List Id → Memory Id → List α × Memory Id
  | [], m => ([], m)
  | id :: rest, m =>
    let (answer, m) := act id m
    let (answers, m) := each act rest m
    (answer :: answers, m)

/-- Moves aggregates of a kind to the archive, each in its encoding. -/
def boxEach (kind : String) (encoding : Id → Encoding) :
    List Id → Memory Id → List (Except ArchiveError Unit) × Memory Id :=
  each fun id => box kind id (encoding id)

/-- Moves aggregates of a kind back from the archive. -/
def unboxEach (kind : String) (encoding : Id → Encoding) :
    List Id → Memory Id → List (Except ArchiveError (Record Id)) × Memory Id :=
  each fun id => unbox kind id (encoding id)

/-- What `m` has become when the aggregates on a shelf have been moved to the archive. -/
structure Shelved (kind : String) (encoding : Id → Encoding) (shelf : Id → Prop)
    (m m' : Memory Id) : Prop where
  inside : ∀ id, shelf id → ∃ stream document, m.slot? kind id = some (.live stream) ∧
    stream.archive (encoding id) = .ok document ∧
    m'.slot? kind id = some (.archived (encoding id) document)
  outside : ∀ kind' id, (kind' = kind → ¬ shelf id) → m'.slot? kind' id = m.slot? kind' id

namespace Shelved

variable {encoding : Id → Encoding} {shelf shelf' : Id → Prop}

theorem of_empty (kind : String) (encoding : Id → Encoding) (m : Memory Id) :
    Shelved kind encoding (fun _ => False) m m where
  inside _ h := h.elim
  outside _ _ _ := rfl

theorem of_iff (h : Shelved kind encoding shelf m m') (hiff : ∀ id, shelf id ↔ shelf' id) :
    Shelved kind encoding shelf' m m' :=
  (funext fun id => propext (hiff id)) ▸ h

/-- One more aggregate is moved to the archive. -/
theorem box (h : Shelved kind encoding shelf m m') (hid : ¬ shelf id)
    (hbox : (m.box kind id (encoding id)).1 = .ok ()) :
    ∃ m'', m'.box kind id (encoding id) = (.ok (), m'') ∧
      Shelved kind encoding (fun id' => id' = id ∨ shelf id') m m'' := by
  have hboxed := boxed_box kind id (encoding id) m
  generalize m.box kind id (encoding id) = result at hbox hboxed
  cases hboxed with
  | refused => cases hbox
  | moved stream document hslot harchive =>
    have hslot' : m'.slot? kind id = some (.live stream) := by
      rw [h.outside kind id fun _ => hid, hslot]
    refine ⟨_, box_of_live hslot' harchive, fun id' hid' => ?_, fun kind' id' hid' => ?_⟩
    · by_cases hsame : id' = id
      · subst hsame
        exact ⟨stream, document, hslot, harchive, by rw [slot?_setSlot_self]⟩
      · have hkey : (kind, id) ≠ (kind, id') := fun heq => hsame (Prod.mk.inj heq).2.symm
        rw [slot?_setSlot_of_ne hkey]
        exact h.inside id' (hid'.resolve_left hsame)
    · have hkey : (kind, id) ≠ (kind', id') := by
        rintro heq
        cases heq
        exact hid' rfl (.inl rfl)
      rw [slot?_setSlot_of_ne hkey]
      exact h.outside kind' id' fun hkind hshelf => hid' hkind (.inr hshelf)

/-- An aggregate on the shelf is moved back. -/
theorem unbox [Identifier.Lasting Id] (h : Shelved kind encoding shelf m m') (hid : shelf id) :
    ∃ record m'', m.get kind id = .found record ∧
      m'.unbox kind id (encoding id) = (.ok record, m'') ∧
      Shelved kind encoding (fun id' => shelf id' ∧ id' ≠ id) m m'' := by
  obtain ⟨stream, document, hslot, harchive, hslot'⟩ := h.inside id hid
  have hunbox : m'.unbox kind id (encoding id) =
      (.ok stream.record, m'.setSlot kind id (.live stream)) := by
    simp only [Memory.unbox, hslot', ne_eq, not_true_eq_false, if_false,
      Stream.restore_archive harchive]
  refine ⟨stream.record, _, by rw [get, hslot], hunbox, fun id' hid' => ?_,
    fun kind' id' hid' => ?_⟩
  · have hkey : (kind, id) ≠ (kind, id') := fun heq => hid'.2 (Prod.mk.inj heq).2.symm
    rw [slot?_setSlot_of_ne hkey]
    exact h.inside id' hid'.1
  · rw [slot?_setSlot]
    split
    · rename_i hkey
      cases hkey
      exact hslot.symm
    · rename_i hkey
      refine h.outside kind' id' fun hkind hshelf => hid' hkind ⟨hshelf, fun hsame => ?_⟩
      exact hkey (by rw [hkind, hsame])

/-- **Any aggregates can be moved to the archive one after the other** if each of them can. -/
theorem boxEach {ids : List Id} (h : Shelved kind encoding shelf m m') (hnodup : ids.Nodup)
    (hids : ∀ id ∈ ids, ¬ shelf id ∧ (m.box kind id (encoding id)).1 = .ok ()) :
    ∃ m'', m'.boxEach kind encoding ids = (ids.map fun _ => .ok (), m'') ∧
      Shelved kind encoding (fun id => id ∈ ids ∨ shelf id) m m'' := by
  -- The next aggregate is moved when the ones before it are on the shelf already.
  induction ids generalizing m' shelf with
  | nil => exact ⟨m', rfl, h.of_iff fun id => by simp⟩
  | cons id rest ih =>
    obtain ⟨hnot, hrest⟩ := List.nodup_cons.mp hnodup
    obtain ⟨hid, hbox⟩ := hids id List.mem_cons_self
    obtain ⟨moved, hmoved, hshelved⟩ := h.box hid hbox
    obtain ⟨m'', hall, hshelved''⟩ := ih hshelved hrest fun id' hid' => by
      refine ⟨?_, (hids id' (List.mem_cons_of_mem id hid')).2⟩
      rintro (rfl | hshelf)
      · exact hnot hid'
      · exact (hids id' (List.mem_cons_of_mem id hid')).1 hshelf
    rw [Memory.boxEach] at hall
    refine ⟨m'', ?_, hshelved''.of_iff fun id' => ?_⟩
    · rw [Memory.boxEach, each, hmoved]
      simp only [hall, List.map_cons]
    · rw [List.mem_cons, or_assoc, or_left_comm]

/-- **Any aggregates on the shelf are moved back**, with the records that they had. -/
theorem unboxEach [Identifier.Lasting Id] {back : List Id} (h : Shelved kind encoding shelf m m')
    (hnodup : back.Nodup) (hback : ∀ id ∈ back, shelf id) :
    ∃ (records : List (Record Id)) (m'' : Memory Id),
      (back.map fun id => m.get kind id) = records.map .found ∧
      m'.unboxEach kind encoding back = (records.map .ok, m'') ∧
      Shelved kind encoding (fun id => shelf id ∧ id ∉ back) m m'' := by
  induction back generalizing m' shelf with
  | nil => exact ⟨[], m', rfl, rfl, h.of_iff fun id => by simp⟩
  | cons id rest ih =>
    obtain ⟨hnot, hrest⟩ := List.nodup_cons.mp hnodup
    obtain ⟨record, moved, hget, hmoved, hshelved⟩ := h.unbox (hback id List.mem_cons_self)
    obtain ⟨records, m'', hfound, hall, hshelved''⟩ := ih hshelved hrest fun id' hid' =>
      ⟨hback id' (List.mem_cons_of_mem id hid'), fun hsame => hnot (hsame ▸ hid')⟩
    rw [Memory.unboxEach] at hall
    refine ⟨record :: records, m'', by rw [List.map_cons, hget, hfound, List.map_cons], ?_,
      hshelved''.of_iff fun id' => ?_⟩
    · rw [Memory.unboxEach, each, hmoved]
      simp only [hall, List.map_cons]
    · rw [List.mem_cons, not_or, and_assoc]

/-- Behind moves to the archive a store is as orderly as before. -/
theorem orderly (h : Shelved kind encoding shelf m m') (hm : m.Orderly) : m'.Orderly := by
  -- A place outside the shelf is as it was, and one inside has the document of what it was.
  have hplace (kind' : String) (id : Id) : m'.slot? kind' id = m.slot? kind' id ∨
      ∃ stream document, m.slot? kind' id = some (.live stream) ∧
        stream.archive (encoding id) = .ok document ∧
        m'.slot? kind' id = some (.archived (encoding id) document) := by
    by_cases hinside : kind' = kind ∧ shelf id
    · exact .inr (hinside.1 ▸ h.inside id hinside.2)
    · exact .inl (h.outside kind' id fun hkind hshelf => hinside ⟨hkind, hshelf⟩)
  constructor
  · intro kind' id
    obtain ⟨history, hkeeps⟩ := hm.keeps kind' id
    rcases hplace kind' id with hslot | ⟨stream, document, hslot, harchive, hslot'⟩
    · exact ⟨history, by rw [Keeps, hslot]; exact hkeeps⟩
    · refine ⟨stream.events, ?_⟩
      rw [Keeps, hslot']
      exact .archived stream (hkeeps.of_live hslot).2 (encoding id) document harchive
  · intro kind' id slot hfound
    rcases hplace kind' id with hslot | ⟨stream, document, hslot, harchive, hslot'⟩
    · exact hm.dated kind' id slot (hslot ▸ hfound)
    · rw [hslot'] at hfound
      cases hfound
      exact .archived stream (hm.of_live hslot).2 (encoding id) document harchive

/-- Live is what was live and is not on the shelf. -/
theorem get_eq_found_iff (h : Shelved kind encoding shelf m m') {record : Record Id} :
    m'.get kind id = .found record ↔ m.get kind id = .found record ∧ ¬ shelf id := by
  by_cases hid : shelf id
  · obtain ⟨stream, document, -, -, hslot'⟩ := h.inside id hid
    rw [get, hslot']
    simp [hid]
  · rw [get, get, h.outside kind id fun _ => hid]
    simp [hid]

/-- **Aggregates that are moved to the archive are no longer listed, and all others still are.** -/
theorem mem_expired_iff (h : Shelved kind encoding shelf m m') (hm : m.Orderly) :
    id ∈ m'.expired kind cutoff ↔ id ∈ m.expired kind cutoff ∧ ¬ shelf id := by
  rw [((h.orderly hm).enumerates_expired kind cutoff).mem_iff,
    (hm.enumerates_expired kind cutoff).mem_iff]
  simp only [h.get_eq_found_iff]
  constructor
  · rintro ⟨record, time, ⟨hget, hid⟩, hmark⟩
    exact ⟨⟨record, time, hget, hmark⟩, hid⟩
  · rintro ⟨⟨record, time, hget, hmark⟩, hid⟩
    exact ⟨record, time, ⟨hget, hid⟩, hmark⟩

end Shelved

/-- **The archive empties the list and fills it again.**  Once all listed aggregates have been moved
to the archive nothing is listed; and when any of them are moved back, these are listed and no
others. -/
theorem Orderly.box_expired [Identifier.Lasting Id] (h : m.Orderly) {encoding : Id → Encoding}
    {ids : List Id} (hids : ids.Perm (m.expired kind cutoff))
    (hbox : ∀ id ∈ ids, (m.box kind id (encoding id)).1 = .ok ()) :
    ∃ m', m.boxEach kind encoding ids = (ids.map fun _ => .ok (), m') ∧
      m'.expired kind cutoff = [] ∧
      ∀ back : List Id, back.Nodup → (∀ id ∈ back, id ∈ ids) →
        ∃ (records : List (Record Id)) (m'' : Memory Id),
          (back.map fun id => m.get kind id) = records.map .found ∧
          m'.unboxEach kind encoding back = (records.map .ok, m'') ∧
          (m''.expired kind cutoff).Perm back := by
  have honce : ids.Nodup := hids.nodup_iff.mpr (h.enumerates_expired kind cutoff).once
  obtain ⟨m', hboxed, hshelved⟩ := (Shelved.of_empty kind encoding m).boxEach honce
    fun id hid => ⟨not_false, hbox id hid⟩
  refine ⟨m', hboxed, List.eq_nil_iff_forall_not_mem.mpr fun id hid => ?_,
    fun back hback hsubset => ?_⟩
  · obtain ⟨hlisted, hnot⟩ := (hshelved.mem_expired_iff h).mp hid
    exact hnot (.inl (hids.mem_iff.mpr hlisted))
  · obtain ⟨records, m'', hfound, hunboxed, hrest⟩ :=
      hshelved.unboxEach hback fun id hid => .inl (hsubset id hid)
    refine ⟨records, m'', hfound, hunboxed, ?_⟩
    have hlisted := ((hrest.orderly h).enumerates_expired kind cutoff).once
    refine (List.perm_ext_iff_of_nodup hlisted hback).mpr fun id => ?_
    rw [hrest.mem_expired_iff h, ← hids.mem_iff]
    constructor
    · rintro ⟨hid, hnot⟩
      exact Classical.not_not.mp fun hnotback => hnot ⟨.inl hid, hnotback⟩
    · exact fun hid => ⟨hsubset id hid, fun hrest => hrest.2 hid⟩

end Memory
end EventSourcing
