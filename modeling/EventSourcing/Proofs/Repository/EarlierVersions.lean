import EventSourcing.Proofs.Repository.Replay
import EventSourcing.Proofs.Sample.Counter
import EventSourcing.Proofs.Store.Cycles
import EventSourcing.Proofs.Store.Reachable

/-!
# Earlier versions

An aggregate as it was at a version is what its events up to that version say, and nothing that
comes later has a part in it: not the events behind them, which need not even be readable, nor a
stay in the archive.  What is loaded of a version once is loaded of it for good.

## Main Statements

* `Memory.loadedAt_of_fits` — the root of a version that has been reached.
* `Memory.loadedAt_grown` — the same root when the history has grown.
* `Repository.earlier_versions` — earlier versions in any store that can be reached.
-/

namespace EventSourcing

attribute [local instance] Counting.exact

variable {Id : Type} [Identifier Id] {A : Aggregate Id} {codec : Codec}

namespace Memory

variable {m m' : Memory Id} {id : Id} {history more : List (StoredEvent Id)}
  {record record' : Record Id}

/-- A live aggregate with an identifier, for which a root can be built. -/
structure Fits (A : Aggregate Id) (id : Id) (record : Record Id) (m : Memory Id) : Prop where
  found : m.get A.kind id = .found record
  identified : Identifier.isEmpty id = false
  tenant : record.tenant.isSome = A.tenantScoped

/-- A root can be built for the record. -/
theorem Fits.shell (h : m.Fits A id record) (hkeeps : m.Keeps A.kind id history) :
    ∃ root, (Repository.shell A record 0 : Except (LoadError Id) (Root A)) = .ok root := by
  have haggregate : record.aggregate = id :=
    (hkeeps.of_record (recordOf_of_found h.found)).2.aggregate
  have hidentified : Identifier.isEmpty record.aggregate = false := by
    rw [haggregate]
    exact h.identified
  exact ⟨_, mapError_eq_ok.mpr (Root.shell_eq_ok.mpr ⟨h.tenant, hidentified, rfl⟩)⟩

/-- **The root of a version that has been reached** is the one behind the events up to it. -/
theorem loadedAt_of_fits (h : m.Fits A id record) (hkeeps : m.Keeps A.kind id history)
    {version : Nat} (hle : version ≤ record.version) :
    m.loadedAt codec A id version =
      (((history.take version).mapM fun e => A.events.decode codec e.kind e.data).mapError
        .eventDecode).map (Root.behind A id record.tenant) := by
  obtain ⟨root, hshell⟩ := h.shell hkeeps
  rw [loadedAt_eq hkeeps (recordOf_of_found h.found), if_neg (Nat.not_lt.mpr hle), hshell]
  rfl

/-- **It is the same when the history has grown.** -/
theorem loadedAt_grown (h : m.Fits A id record) (hkeeps : m.Keeps A.kind id history)
    (h' : m'.Fits A id record') (hkeeps' : m'.Keeps A.kind id (history ++ more)) {version : Nat}
    (hle : version ≤ record.version) :
    (m'.loadedAt codec A id version).map (fun root => (root.version, root.state)) =
      (m.loadedAt codec A id version).map fun root => (root.version, root.state) := by
  have hversion : record.version = history.length :=
    (hkeeps.of_record (recordOf_of_found h.found)).2.version
  have hversion' : record'.version = (history ++ more).length :=
    (hkeeps'.of_record (recordOf_of_found h'.found)).2.version
  have hle' : version ≤ record'.version := by
    rw [List.length_append] at hversion'
    omega
  have htake : (history ++ more).take version = history.take version :=
    List.take_append_of_le_length (hversion ▸ hle)
  rw [loadedAt_of_fits h hkeeps hle, loadedAt_of_fits h' hkeeps' hle', htake]
  cases (history.take version).mapM fun e => A.events.decode codec e.kind e.data with
  | error failure => rfl
  | ok payloads => rfl

/-- A root that is loaded is, but for its marks, the root of the version at which it is. -/
theorem loadedAt_of_loaded (h : m.Fits A id record) (hkeeps : m.Keeps A.kind id history)
    {root : Root A} (hload : m.loaded codec A id (fun _ => none) = .ok root) :
    root.version = record.version ∧
      (m.loadedAt codec A id record.version).map (fun root => (root.version, root.state)) =
        .ok (root.version, root.state) := by
  have hrecord := recordOf_of_found h.found
  have hversion : record.version = history.length := (hkeeps.of_record hrecord).2.version
  obtain ⟨shell, hshell⟩ := h.shell hkeeps
  rw [loaded_eq hkeeps hrecord, hshell] at hload
  obtain ⟨all, hwhole, rfl⟩ := map_eq_ok.mp hload
  have hwhole := mapError_eq_ok.mp hwhole
  have htake : history.take record.version = history :=
    List.take_of_length_le (Nat.le_of_eq hversion.symm)
  refine ⟨(length_of_mapM hwhole).trans hversion.symm, ?_⟩
  rw [loadedAt_of_fits h hkeeps (Nat.le_refl _), htake, hwhole]
  rfl

end Memory

/-! ### Repositories -/

namespace Repository

/-- **An aggregate as it was at a version is what its events up to that version say, and stays so.**
In any store that can be reached: there is no version ahead of the record; the root of a version
that has been reached is at that version, has the state after as many events as the version says,
if all of these can be read, and neither pending events nor a mark of deletion; otherwise the answer
is why the first event that cannot be read is not.  After any further operations, as long as a root
can be built for the aggregate at all, the answer has the same version and state, or is the same
failure; and where the aggregate had been loaded at its version then, these are the version and
state of the root that was loaded. -/
theorem earlier_versions [Identifier.Unmistakable Id] {τ : Type}
    (operations later : List (Operation Id)) (codec : Codec)
    (snapshots : Option (SnapshotBackend τ Id)) (t t' : τ) (A : Aggregate Id) (id : Id)
    (record record' : Record Id)
    (hfits : ((Memory.empty : Memory Id).runAll operations).Fits A id record)
    (hfits' : ((Memory.empty : Memory Id).runAll (operations ++ later)).Fits A id record')
    (version : Nat) :
    let m := (Memory.empty : Memory Id).runAll operations
    let m' := (Memory.empty : Memory Id).runAll (operations ++ later)
    let R := onMemory codec snapshots
    let decode (e : StoredEvent Id) := A.events.decode codec e.kind e.data
    let events := m.loadEvents A.kind id .all
    (record.version < version →
      (R.loadAt A id version (m, t)).1 =
        .error (.versionNotFound A.kind id version record.version)) ∧
    (version ≤ record.version →
      (∀ payloads, (events.take version).mapM decode = .ok payloads →
        payloads.length = version ∧ (R.loadAt A id version (m, t)).1 =
          .ok { Root.bare A id version record.tenant with state := A.after payloads }) ∧
      (∀ failure, (events.take version).mapM decode = .error failure →
        (∃ front payloads bad rest, events.take version = front ++ bad :: rest ∧
          front.mapM decode = .ok payloads ∧ decode bad = .error failure) ∧
        (R.loadAt A id version (m, t)).1 = .error (.eventDecode failure)) ∧
      (R.loadAt A id version (m', t')).1.map (fun root => (root.version, root.state)) =
        (R.loadAt A id version (m, t)).1.map fun root => (root.version, root.state)) ∧
    ∀ root,
      ((onMemory codec (none : Option (SnapshotBackend Unit Id))).load A id (m, ())).1 = .ok root →
      root.version = record.version ∧
        (R.loadAt A id root.version (m', t')).1.map (fun root => (root.version, root.state)) =
          .ok (root.version, root.state) := by
  intro m m' R decode events
  obtain ⟨history, hkeeps⟩ := (Memory.keeps_empty A.kind id).runAll operations
  obtain ⟨more, hkeeps'⟩ := hkeeps.runAll later
  have hrun : (m.runAll later) = m' := (List.foldl_append ..).symm
  rw [List.nil_append, hrun] at hkeeps'
  rw [List.nil_append] at hkeeps
  have hrecord := Memory.recordOf_of_found hfits.found
  have hevents : events = history := hkeeps.loadEvents_all hrecord
  have hloadAt (m : Memory Id) (t : τ) (version : Nat) :
      (R.loadAt A id version (m, t)).1 = m.loadedAt codec A id version := by
    rw [loadAt_memory]
  simp only [hloadAt]
  rw [hevents]
  refine ⟨fun hlater => ?_, fun hle => ⟨fun payloads hpayloads => ?_, fun failure hfailure => ?_,
    Memory.loadedAt_grown hfits hkeeps hfits' hkeeps' hle⟩, fun root hload => ?_⟩
  · rw [Memory.loadedAt_eq hkeeps hrecord, if_pos hlater]
  · have hlength : payloads.length = version := by
      have hversion : record.version = history.length := (hkeeps.of_record hrecord).2.version
      rw [length_of_mapM hpayloads, List.length_take]
      omega
    refine ⟨hlength, ?_⟩
    rw [Memory.loadedAt_of_fits hfits hkeeps hle, hpayloads, ← hlength]
    rfl
  · refine ⟨mapM_eq_error.mp hfailure, ?_⟩
    rw [Memory.loadedAt_of_fits hfits hkeeps hle, hfailure]
    rfl
  · rw [load_memory codec none A m () id (fun _ => none) fun _ => rfl] at hload
    obtain ⟨hversion, hthen⟩ := Memory.loadedAt_of_loaded hfits hkeeps hload
    refine ⟨hversion, ?_⟩
    rw [hversion, Memory.loadedAt_grown hfits hkeeps hfits' hkeeps' (Nat.le_refl _), hthen,
      hversion]

/-- A counter that was reset; then it has an event that no counter knows, is reset once more and has
a stay in the archive. -/
theorem earlier_versions_counter :
    let seed (kind : String) (data : Bytes) : Operation String :=
      .seedRaw "counter" .nil .epoch "c" kind data
    let operations := [seed "reset" [110, 117, 108, 108], seed "forgotten" []]
    let later := [seed "reset" [110, 117, 108, 108], .call (.box "counter" "c" .json),
      .call (.unbox "counter" "c" .json)]
    let m := (Memory.empty : Memory String).runAll operations
    let m' := (Memory.empty : Memory String).runAll (operations ++ later)
    let R := onMemory .json (none : Option (SnapshotBackend Unit String))
    let loaded (version : Nat) (m : Memory String) :=
      (R.loadAt Sample.counter "c" version (m, ())).1
    m.Fits Sample.counter "c" ⟨"c", 2, none, false, none⟩ ∧
    m'.Fits Sample.counter "c" ⟨"c", 3, none, false, none⟩ ∧
    loaded 1 m =
      .ok { Root.bare Sample.counter "c" 1 none with state := some (⟨0, 1⟩ : Sample.Counter) } ∧
    loaded 3 m = .error (.versionNotFound "counter" "c" 3 2) ∧
    loaded 2 m = .error (.eventDecode (.unknownKind "forgotten" ["value-added", "reset"])) ∧
    (loaded 1 m').map (fun root => (root.version, root.state)) =
      .ok (1, some (⟨0, 1⟩ : Sample.Counter)) := by
  intro seed operations later m m' R loaded
  have hfits : m.Fits Sample.counter "c" ⟨"c", 2, none, false, none⟩ := ⟨rfl, rfl, rfl⟩
  have hfits' : m'.Fits Sample.counter "c" ⟨"c", 3, none, false, none⟩ := by
    -- What comes back from the archive is what went there.
    let live := m.run (seed "reset" [110, 117, 108, 108])
    obtain ⟨stream, hslot, -⟩ := Memory.get_eq_found
      (show live.get "counter" "c" = .found ⟨"c", 3, none, false, none⟩ from rfl)
    obtain ⟨document, harchive⟩ := Memory.archive_of_box hslot
      (show (live.box "counter" "c" .json).1 = .ok () from rfl)
    have hback : m' = live := by
      show ((live.box "counter" "c" .json).2.unbox "counter" "c" .json).2 = live
      rw [Memory.box_of_live hslot harchive, Memory.unbox_box hslot harchive]
    rw [hback]
    exact ⟨rfl, rfl, rfl⟩
  have hread : ((m.loadEvents "counter" "c" .all).take 1).mapM
      (fun e => Sample.counter.events.decode .json e.kind e.data) = .ok [.reset] := by
    have hdecode := Sample.CounterEvent.roundTrips .reset [110, 117, 108, 108] rfl
    exact mapM_cons_eq_ok.mpr ⟨_, hdecode, [], rfl, rfl⟩
  obtain ⟨-, hone, -⟩ := earlier_versions operations later .json
    (none : Option (SnapshotBackend Unit String)) () () Sample.counter "c" _ _ hfits hfits' 1
  obtain ⟨-, htwo, -⟩ := earlier_versions operations later .json
    (none : Option (SnapshotBackend Unit String)) () () Sample.counter "c" _ _ hfits hfits' 2
  obtain ⟨hthree, -, -⟩ := earlier_versions operations later .json
    (none : Option (SnapshotBackend Unit String)) () () Sample.counter "c" _ _ hfits hfits' 3
  obtain ⟨hfront, -, hstable⟩ := hone (by decide)
  obtain ⟨-, hloaded⟩ := hfront [.reset] hread
  obtain ⟨-, hbad, -⟩ := htwo (by decide)
  refine ⟨hfits, hfits', hloaded, hthree (by decide), (hbad _ ?_).2, ?_⟩
  · exact mapM_eq_error.mpr ⟨_, [.reset], _, [], rfl, hread, rfl⟩
  · rw [hstable, hloaded]
    rfl

end Repository

end EventSourcing
