import EventSourcing.Proofs.Repository.Standing

/-!
# What a save leaves behind

Behind an accepted save the store keeps the earlier history and the committed events, just as they
were handed back, and the record of the saved root.  So what is loaded next is that root, unless no
root can be built for its tenant.

## Main Statements

* `Repository.Committed.kept` — the history and the record behind an accepted save.
* `Repository.Committed.reload` — what is loaded next.
* `Repository.Committed.events` — the events in front of the save and behind it.
-/

namespace EventSourcing

attribute [local instance] Counting.exact

variable {Id : Type} [Identifier Id] {A : Aggregate Id} {codec : Codec}

/-! ### Committed events -/

omit [Identifier Id] in
/-- What is stored of the committed events is read as these events. -/
theorem mapM_envelope_encodedFrom (hcodec : A.events.RoundTrips codec) (kind : String) {id : Id}
    {version : Nat} {pending : List (Envelope Id A.Event)} {batch : List NewEvent}
    (hpending : ∀ e ∈ pending, e.aggregate = id)
    (h : encodedFrom A codec version (Envelope.committedFrom version pending) = .ok batch) :
    (batch.map (NewEvent.stored kind id)).mapM (StoredEvent.envelope A codec) =
      .ok (Envelope.committedFrom version pending) := by
  induction pending generalizing version batch with
  | nil =>
    cases h
    rfl
  | cons e rest ih =>
    obtain ⟨data, batch', hdata, hbatch, rfl⟩ := encodedFrom_cons_eq_ok h
    have hrest := ih (fun e he => hpending e (List.mem_cons_of_mem _ he)) hbatch
    have hfirst : (NewEvent.stored kind id ⟨e.id, A.events.kind e.payload, version + 1, data,
        e.time, e.originator⟩).envelope A codec = .ok (e.committed (version + 1)) := by
      refine bind_eq_ok.mpr ⟨e.payload, hcodec e.payload data hdata, ?_⟩
      rw [Envelope.committed, ← hpending e List.mem_cons_self]
      rfl
    exact mapM_cons_eq_ok.mpr ⟨_, hfirst, _, hrest, rfl⟩

/-! ### Reading -/

omit [Identifier Id] in
/-- All of a history can be read if a root stands on all of it, and leads to the state of the
root. -/
theorem Root.Stands.read {root : Root A} {history : List (StoredEvent Id)}
    (h : root.Stands codec history) (hversion : root.version = history.length) :
    ∃ payloads, history.mapM (fun e => A.events.decode codec e.kind e.data) = .ok payloads ∧
      root.version = payloads.length ∧
      root.state = A.after (payloads ++ root.pending.map Envelope.payload) := by
  obtain ⟨payloads, hbegins, hlength, hstate⟩ := h
  rw [Aggregate.Begins, List.take_of_length_le (by omega)] at hbegins
  exact ⟨payloads, hbegins, hlength, hstate⟩

namespace Memory

variable {m : Memory Id} {id : Id} {history : List (StoredEvent Id)} {record : Record Id}

/-- All of a history is read. -/
theorem Keeps.decoded_all (h : m.Keeps A.kind id history) (hrecord : m.recordOf A id = .ok record) :
    m.decoded codec A id .all =
      (history.mapM (StoredEvent.envelope A codec)).mapError .eventDecode := by
  rw [decoded, h.loadEvents_all hrecord]

/-- What is saved to is live, or there is nothing. -/
theorem recordOf_of_save_ok {expected version : Nat} {events : List NewEvent} {m' : Memory Id}
    (hsave : m.save A.kind record expected events = (.ok version, m')) :
    (∃ current, m.recordOf A record.aggregate = .ok current) ∨
      m.slot? A.kind record.aggregate = none := by
  have hsaved := saved_save A.kind record expected events m
  rw [hsave] at hsaved
  cases hsaved with
  | nothing hslot _ _ _ => exact .inr hslot
  | first hslot _ _ _ _ => exact .inr hslot
  | behind stream hslot _ _ _ => exact .inl ⟨_, recordOf_eq_ok.mpr ⟨stream, hslot, rfl⟩⟩

/-- A root that stands on the whole history and whose record is stored is the one that is
loaded, if a root can be built for the record. -/
theorem loaded_of_stands {root : Root A} (hkeeps : m.Keeps A.kind root.id history)
    (hrecord : m.recordOf A root.id = .ok (root.recordAt root.version))
    (hstands : root.Stands codec history) (hpending : root.pending = []) :
    m.loaded codec A root.id (fun _ => none) =
      (Repository.shell A (root.recordAt root.version) 0).map fun _ =>
        { root with pending := [], originator := .unknown } := by
  have hversion : root.version = history.length := (hkeeps.of_record hrecord).2.version
  obtain ⟨payloads, hpayloads, hlength, hstate⟩ := hstands.read hversion
  rw [hpending, List.map_nil, List.append_nil] at hstate
  rw [loaded_eq hkeeps hrecord, hpayloads]
  cases (Repository.shell A (root.recordAt root.version) 0 :
      Except (LoadError Id) (Root A)) with
  | error e => rfl
  | ok base =>
    show Except.ok { Root.behind A root.id root.tenant payloads with
      deleted := root.deleted
      deletedAt := root.deletedAt } = _
    rw [Root.behind, ← hstate, ← hlength]
    rfl

end Memory

/-! ### Saving and reading -/

namespace Repository.Committed

variable {m m' : Memory Id} {root saved : Root A} {expected : Option Nat}
  {history : List (StoredEvent Id)} {committed : List (Envelope Id A.Event)}

/-- **Behind an accepted save the history has grown by what is read as the committed events**, and
the saved root stands on it. -/
theorem kept (hcodec : A.events.RoundTrips codec)
    (h : Committed codec root expected m (.ok (committed, saved), m'))
    (hkeeps : m.Keeps A.kind root.id history) (hheld : root.Held codec history) :
    saved = root.complete committed ∧ root.version = history.length ∧ ∃ batch,
      batch.mapM (StoredEvent.envelope A codec) = .ok committed ∧
      saved.version = (history ++ batch).length ∧
      m'.Keeps A.kind root.id (history ++ batch) ∧ saved.Held codec (history ++ batch) := by
  cases h with
  | accepted _ batch version _ hprepared hsave =>
    have hkept : m.Keeps A.kind (root.recordAt (plus root.version committed.length)).aggregate
        history := hkeeps
    obtain ⟨hlength, hkeeps'⟩ := hkept.save_ok hsave
    obtain ⟨hcommitted, hbatch⟩ := Root.prepared_eq_ok hprepared
    have hpending := Root.aggregate_of_stage (Root.stage_of_prepared hprepared).1
    have hstands := hheld.stands.complete hcodec hlength hprepared A.kind root.id
    rw [hcommitted] at hbatch
    have hread := mapM_envelope_encodedFrom hcodec A.kind hpending hbatch
    rw [← hcommitted] at hread
    refine ⟨rfl, hlength, _, hread, ?_, hkeeps', hheld.identified, hstands⟩
    rw [List.length_append, ← length_of_mapM hread, ← hlength]
    rfl

/-- The record of the saved root is stored, unless nothing has ever been stored. -/
theorem recordOf_saved (h : Committed codec root expected m (.ok (committed, saved), m'))
    (hkeeps : m'.Keeps A.kind root.id history) (hlength : 1 ≤ history.length) :
    m'.recordOf A root.id = .ok (saved.recordAt saved.version) := by
  cases h with
  | accepted _ batch version _ hprepared hsave =>
    rcases Memory.recordOf_save_ok hsave with hrecord | ⟨rfl, hslot⟩
    · exact hrecord
    · rw [hkeeps.of_none hslot] at hlength
      exact absurd hlength (Nat.not_succ_le_zero 0)

/-- **What is loaded behind an accepted save is the saved root**, if a root can be built for its
tenant. -/
theorem reload (hcodec : A.events.RoundTrips codec)
    (h : Committed codec root expected m (.ok (committed, saved), m'))
    (hkeeps : m.Keeps A.kind root.id history) (hheld : root.Held codec history)
    (hversion : 1 ≤ saved.version) :
    m'.loaded codec A saved.id (fun _ => none) =
      if saved.tenant.isSome = A.tenantScoped then
        .ok { saved with pending := [], originator := .unknown }
      else .error (.construction (.missingConstructor A.kind ⟨true, saved.tenant.isSome⟩)) := by
  obtain ⟨hsaved, hlength, batch, hbatch, hcount, hkeeps', hidentified, hstands⟩ :=
    h.kept hcodec hkeeps hheld
  have hrecord := h.recordOf_saved hkeeps' (hcount ▸ hversion)
  have hid : saved.id = root.id := by rw [hsaved]; rfl
  have hpending : saved.pending = [] := by rw [hsaved]; rfl
  rw [← hid] at hkeeps' hrecord
  rw [Memory.loaded_of_stands hkeeps' hrecord hstands hpending,
    Memory.shell_of_identified hidentified]
  show Except.map _ (if saved.tenant.isSome = A.tenantScoped then _ else _) = _
  split
  · rfl
  · rfl

/-- **The events behind an accepted save are those in front of it and the committed ones.** -/
theorem events (hcodec : A.events.RoundTrips codec)
    (h : Committed codec root expected m (.ok (committed, saved), m'))
    (hkeeps : m.Keeps A.kind root.id history) (hheld : root.Held codec history)
    (hversion : 1 ≤ saved.version) :
    ∃ earlier,
      ((do let _ ← m.recordOf A saved.id
           m.decoded codec A saved.id .all) = .ok earlier ∨
        m.recordOf A saved.id = .error (.notFound A.kind saved.id) ∧ earlier = []) ∧
      (do let _ ← m'.recordOf A saved.id
          m'.decoded codec A saved.id .all) = .ok (earlier ++ committed) := by
  obtain ⟨hsaved, hlength, batch, hbatch, hcount, hkeeps', -⟩ := h.kept hcodec hkeeps hheld
  have hrecord := h.recordOf_saved hkeeps' (hcount ▸ hversion)
  have hid : saved.id = root.id := by rw [hsaved]; rfl
  obtain ⟨payloads, hpayloads, -, -⟩ := hheld.stands.read hlength
  obtain ⟨earlier, hearlier, -⟩ := mapM_envelope hpayloads
  rw [hid]
  refine ⟨earlier, ?_, ?_⟩
  · cases h with
    | accepted _ batch' version _ hprepared hsave =>
      have hbefore : (∃ current, m.recordOf A root.id = .ok current) ∨
          m.slot? A.kind root.id = none := Memory.recordOf_of_save_ok hsave
      rcases hbefore with ⟨current, hcurrent⟩ | hslot
      · rw [hcurrent]
        exact .inl ((hkeeps.decoded_all hcurrent).trans (by rw [hearlier]; rfl))
      · rw [hkeeps.of_none hslot] at hearlier
        cases hearlier
        exact .inr ⟨by rw [Memory.recordOf, Memory.get, hslot], rfl⟩
  · rw [hrecord]
    refine (hkeeps'.decoded_all hrecord).trans ?_
    rw [mapM_append_of_ok hearlier, hbatch]
    rfl

end Repository.Committed

end EventSourcing
