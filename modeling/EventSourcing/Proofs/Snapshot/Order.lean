import EventSourcing.Sample.Counter
import EventSourcing.Snapshot.Store
import Mathlib.Data.List.Nodup

/-!
# Offers in any order

Offers come in any order, those of slow writers late.  Some are declined by the policy, and some
fail: no snapshot can be made, or it cannot be written.  What is left is that of each aggregate the
latest snapshot is kept which any offer has come to, the first of those that are equally late.

So the order of the offers matters only between snapshots of one version.

## Main Definitions

* `Offer`, `Offer.made?` — an offer, and the snapshot that it comes to.
* `SnapshotMemory.answer`, `SnapshotMemory.behind`, `SnapshotMemory.behindAll` — what is answered,
  and the snapshots behind offers.
* `Snapshot.Latest` — the latest snapshot of several.

## Main Statements

* `SnapshotMemory.offered_offer` — what an offer can do.
* `SnapshotMemory.Remembers.behindAll` — what is kept behind any offers, by induction.
* `SnapshotMemory.Remembers.eq_of_perm` — the order does not matter.
* `SnapshotMemory.offers_in_any_order` — all of it, from the store without snapshots on.
-/

namespace EventSourcing

/-- An offer of a snapshot behind a save of `count` events on top of version `current`. -/
structure Offer (Id : Type) : Type 1 where
  {State : Type}
  form : JsonForm State
  kind : String
  id : Id
  current : Nat
  count : Nat
  create : Except String (Snapshot State)

/-- The snapshot that an offer comes to, as it would be kept: the policy asks for it, it can be
made, and it can be written. -/
def Offer.made? {Id : Type} (policy : SnapshotPolicy) (o : Offer Id) : Option (Snapshot Json) :=
  if policy.due o.current o.count then
    match o.create with
    | .error _ => none
    | .ok s =>
      match o.form.write s.data with
      | .error _ => none
      | .ok data => some ⟨s.version, data⟩
  else none

/-! ### The latest of several -/

namespace Snapshot

variable {α : Type} {past past' : List (Snapshot α)} {last last' : Option (Snapshot α)}

/-- The latest snapshot of several, the first one of those that are equally late. -/
inductive Latest (past : List (Snapshot α)) : Option (Snapshot α) → Prop where
  | nothing (hpast : past = []) : Latest past none
  | found (front rest : List (Snapshot α)) (s : Snapshot α) (hpast : past = front ++ s :: rest)
      (hfront : ∀ s' ∈ front, s'.version < s.version)
      (hrest : ∀ s' ∈ rest, s'.version ≤ s.version) : Latest past (some s)

theorem Latest.mem {s : Snapshot α} (h : Latest past (some s)) : s ∈ past := by
  cases h with
  | found front rest _ hpast =>
    rw [hpast]
    exact List.mem_append_cons_self

theorem Latest.version_le {s s' : Snapshot α} (h : Latest past (some s)) (hs' : s' ∈ past) :
    s'.version ≤ s.version := by
  cases h with
  | found front rest _ hpast hfront hrest =>
    rw [hpast] at hs'
    rcases List.mem_append.mp hs' with hs' | hs'
    · exact Nat.le_of_lt (hfront s' hs')
    · rcases List.mem_cons.mp hs' with rfl | hs'
      · exact Nat.le_refl _
      · exact hrest s' hs'

/-- The latest one stays so behind one that is not later. -/
theorem Latest.keep {s s' : Snapshot α} (h : Latest past (some s))
    (hversion : s'.version ≤ s.version) : Latest (past ++ [s']) (some s) := by
  cases h with
  | found front rest _ hpast hfront hrest =>
    refine .found front (rest ++ [s']) s (by rw [hpast, List.append_assoc]; rfl) hfront ?_
    intro s'' hs''
    rcases List.mem_append.mp hs'' with hs'' | hs''
    · exact hrest s'' hs''
    · rw [List.mem_singleton.mp hs'']
      exact hversion

/-- One that is later takes its place. -/
theorem Latest.replace {s : Snapshot α} (h : Latest past last)
    (hlater : ∀ kept, last = some kept → kept.version < s.version) :
    Latest (past ++ [s]) (some s) := by
  refine .found past [] s rfl (fun s' hs' => ?_) nofun
  cases last with
  | none =>
    cases h with
    | nothing hpast =>
      rw [hpast] at hs'
      cases hs'
  | some kept => exact Nat.lt_of_le_of_lt (h.version_le hs') (hlater kept rfl)

/-- Among snapshots of different versions the order does not matter. -/
theorem Latest.eq_of_perm (h : Latest past last) (h' : Latest past' last') (hperm : past'.Perm past)
    (hdistinct : (past.map Snapshot.version).Nodup) : last' = last := by
  cases last with
  | none =>
    cases h with
    | nothing hpast =>
      subst hpast
      cases h' with
      | nothing => rfl
      | found front rest s hpast' =>
        rw [hperm.eq_nil] at hpast'
        exact absurd hpast'.symm (List.append_ne_nil_of_right_ne_nil _ (List.cons_ne_nil _ _))
  | some s =>
    cases last' with
    | none =>
      cases h' with
      | nothing hpast' =>
        have hs := hperm.mem_iff.mpr h.mem
        rw [hpast'] at hs
        cases hs
    | some s' =>
      have hs' : s' ∈ past := hperm.mem_iff.mp h'.mem
      have hversion : s'.version = s.version :=
        Nat.le_antisymm (h.version_le hs') (h'.version_le (hperm.mem_iff.mpr h.mem))
      -- There are no two snapshots of this version.
      rw [List.inj_on_of_nodup_map hdistinct hs' h.mem hversion]

end Snapshot

namespace SnapshotMemory

variable {Id : Type} [DecidableEq Id] {t : SnapshotMemory Id} {policy : SnapshotPolicy}

/-- What is answered to an offer. -/
def answer (t : SnapshotMemory Id) (o : Offer Id) : Except OfferError OfferOutcome :=
  (t.offer o.form o.kind o.id o.current o.count o.create).1

/-- The snapshots behind an offer. -/
def behind (t : SnapshotMemory Id) (o : Offer Id) : SnapshotMemory Id :=
  (t.offer o.form o.kind o.id o.current o.count o.create).2

/-- The snapshots behind offers. -/
def behindAll (t : SnapshotMemory Id) (offers : List (Offer Id)) : SnapshotMemory Id :=
  offers.foldl behind t

/-! ### Single offers -/

/-- What an offer can do. -/
inductive Offered (t : SnapshotMemory Id) (o : Offer Id) :
    Except OfferError OfferOutcome → SnapshotMemory Id → Prop where
  | declined (hmade : o.made? t.policy = none) : Offered t o (.ok .notDue) t
  | failed (e : OfferError) (hmade : o.made? t.policy = none) : Offered t o (.error e) t
  | superseded (s kept : Snapshot Json) (hmade : o.made? t.policy = some s)
      (hkept : t.find? o.kind o.id = some kept) (hversion : s.version ≤ kept.version) :
      Offered t o (.ok .superseded) t
  | stored (s : Snapshot Json) (hmade : o.made? t.policy = some s)
      (hlater : ∀ kept, t.find? o.kind o.id = some kept → kept.version < s.version) :
      Offered t o (.ok .stored) (t.put o.kind o.id s)

/-- **An offer does what it can.** -/
theorem offered_offer (t : SnapshotMemory Id) (o : Offer Id) :
    Offered t o (t.answer o) (t.behind o) := by
  unfold answer behind offer
  by_cases hdue : t.policy.due o.current o.count = true
  · rw [if_pos hdue]
    cases hcreate : o.create with
    | error reason => exact .failed _ (by simp only [Offer.made?, hdue, if_true, hcreate])
    | ok s =>
      cases hwrite : o.form.write s.data with
      | error reason =>
        simp only [hwrite]
        exact .failed _ (by simp only [Offer.made?, hdue, if_true, hcreate, hwrite])
      | ok data =>
        have hmade : o.made? t.policy = some ⟨s.version, data⟩ := by
          simp only [Offer.made?, hdue, if_true, hcreate, hwrite]
        simp only [hwrite]
        cases hfound : t.find? o.kind o.id with
        | none => exact .stored _ hmade fun kept hkept => by cases hfound.symm.trans hkept
        | some kept =>
          by_cases hversion : s.version ≤ kept.version
          · simp only [Option.any_some, hversion, decide_true, if_true]
            exact .superseded _ kept hmade hfound hversion
          · simp only [Option.any_some, hversion, decide_false, Bool.false_eq_true, if_false]
            refine .stored _ hmade fun kept' hkept' => ?_
            cases hfound.symm.trans hkept'
            exact Nat.lt_of_not_le hversion
  · rw [if_neg hdue]
    exact .declined (by rw [Offer.made?, if_neg hdue])

/-- An offer is answered with a snapshot that is stored exactly if it changes what is kept. -/
theorem answer_eq_stored (t : SnapshotMemory Id) (o : Offer Id) :
    t.answer o = .ok .stored ↔ t.behind o ≠ t := by
  have hoffered := t.offered_offer o
  generalize t.answer o = answer at hoffered ⊢
  generalize t.behind o = t' at hoffered ⊢
  cases hoffered with
  | declined | failed | superseded => exact ⟨nofun, fun h => absurd rfl h⟩
  | stored s hmade hlater =>
    refine ⟨fun _ hsame => ?_, fun _ => rfl⟩
    have hfound : t.find? o.kind o.id = some s := by
      rw [← hsame, find?_put, if_pos rfl]
    exact Nat.lt_irrefl _ (hlater s hfound)

/-- An offer comes to no snapshot exactly if it is declined by the policy or fails. -/
theorem made?_eq_none (t : SnapshotMemory Id) (o : Offer Id) :
    o.made? t.policy = none ↔ t.answer o = .ok .notDue ∨ ∃ e, t.answer o = .error e := by
  have hoffered := t.offered_offer o
  generalize t.answer o = answer at hoffered ⊢
  generalize t.behind o = t' at hoffered
  cases hoffered with
  | declined hmade => exact ⟨fun _ => .inl rfl, fun _ => hmade⟩
  | failed e hmade => exact ⟨fun _ => .inr ⟨e, rfl⟩, fun _ => hmade⟩
  | superseded s kept hmade | stored s hmade =>
    rw [hmade]
    exact ⟨nofun, fun h => by rcases h with h | ⟨e, h⟩ <;> cases h⟩

/-- Such an offer changes nothing. -/
theorem behind_of_made?_eq_none {o : Offer Id} (hmade : o.made? t.policy = none) :
    t.behind o = t := by
  have hoffered := t.offered_offer o
  generalize t.answer o = answer at hoffered
  generalize t.behind o = t' at hoffered ⊢
  cases hoffered with
  | declined | failed | superseded => rfl
  | stored s hmade' => cases hmade.symm.trans hmade'

/-- The version of the snapshot of an aggregate never goes down. -/
theorem versionOf?_behind {kind : String} {id : Id} {version : Nat}
    (h : t.versionOf? kind id = some version) (o : Offer Id) :
    ∃ version', (t.behind o).versionOf? kind id = some version' ∧ version ≤ version' := by
  have hoffered := t.offered_offer o
  generalize t.answer o = answer at hoffered
  generalize t.behind o = t' at hoffered ⊢
  cases hoffered with
  | declined | failed | superseded => exact ⟨version, h, Nat.le_refl _⟩
  | stored s hmade hlater =>
    rw [versionOf?, find?_put]
    by_cases hkey : (o.kind, o.id) = (kind, id)
    · obtain ⟨rfl, rfl⟩ := Prod.mk.inj hkey
      obtain ⟨kept, hkept, rfl⟩ := Option.map_eq_some_iff.mp h
      rw [if_pos rfl]
      exact ⟨s.version, rfl, Nat.le_of_lt (hlater kept hkept)⟩
    · rw [if_neg hkey]
      exact ⟨version, h, Nat.le_refl _⟩

theorem versionOf?_behindAll {kind : String} {id : Id} {version : Nat}
    (h : t.versionOf? kind id = some version) (offers : List (Offer Id)) :
    ∃ version', (t.behindAll offers).versionOf? kind id = some version' ∧
      version ≤ version' := by
  induction offers generalizing t version with
  | nil => exact ⟨version, h, Nat.le_refl _⟩
  | cons o rest ih =>
    obtain ⟨between, hbetween, hle⟩ := versionOf?_behind h o
    obtain ⟨version', hversion', hle'⟩ := ih hbetween
    exact ⟨version', hversion', Nat.le_trans hle hle'⟩

/-! ### Any number of offers -/

/-- The snapshots to which offers for an aggregate come, in their order. -/
def made (policy : SnapshotPolicy) (kind : String) (id : Id) (offers : List (Offer Id)) :
    List (Snapshot Json) :=
  offers.filterMap fun o => if (o.kind, o.id) = (kind, id) then o.made? policy else none

theorem made_append (kind : String) (id : Id) (offers more : List (Offer Id)) :
    made policy kind id (offers ++ more) = made policy kind id offers ++ made policy kind id more :=
  List.filterMap_append

/-- A store that keeps of each aggregate the latest snapshot to which offers have come. -/
structure Remembers (policy : SnapshotPolicy) (past : List (Offer Id)) (t : SnapshotMemory Id) :
    Prop where
  follows : t.policy = policy
  latest : ∀ kind id, Snapshot.Latest (made policy kind id past) (t.find? kind id)

namespace Remembers

variable {past past' : List (Offer Id)} {t' : SnapshotMemory Id}

theorem empty (policy : SnapshotPolicy) :
    Remembers policy [] (SnapshotMemory.empty policy : SnapshotMemory Id) :=
  ⟨rfl, fun _ _ => .nothing rfl⟩

/-- An offer that comes to nothing leaves nothing to remember. -/
theorem of_none (h : t.Remembers policy past) {o : Offer Id} (hmade : o.made? policy = none) :
    t.Remembers policy (past ++ [o]) := by
  refine ⟨h.follows, fun kind id => ?_⟩
  have hnothing : made policy kind id [o] = [] := by
    simp only [made, List.filterMap_cons, List.filterMap_nil, hmade, ite_self]
  rw [made_append, hnothing, List.append_nil]
  exact h.latest kind id

/-- **Behind an offer the latest snapshots are kept.** -/
theorem behind (h : t.Remembers policy past) (o : Offer Id) :
    (t.behind o).Remembers policy (past ++ [o]) := by
  have hoffered := t.offered_offer o
  generalize t.answer o = answer at hoffered
  generalize t.behind o = t' at hoffered ⊢
  -- For the aggregate itself there is one more snapshot, and none for every other one.
  have hmore {s : Snapshot Json} (hmade : o.made? t.policy = some s) (kind : String) (id : Id) :
      made policy kind id (past ++ [o]) = made policy kind id past ++
        if (o.kind, o.id) = (kind, id) then [s] else [] := by
    rw [h.follows] at hmade
    rw [made_append]
    by_cases hkey : (o.kind, o.id) = (kind, id)
    · simp only [made, List.filterMap_cons, List.filterMap_nil, hkey, if_true, hmade]
    · simp only [made, List.filterMap_cons, List.filterMap_nil, hkey, if_false]
  cases hoffered with
  | declined hmade | failed e hmade => exact h.of_none (h.follows ▸ hmade)
  | superseded s kept hmade hkept hversion =>
    refine ⟨h.follows, fun kind id => ?_⟩
    rw [hmore hmade]
    by_cases hkey : (o.kind, o.id) = (kind, id)
    · obtain ⟨rfl, rfl⟩ := Prod.mk.inj hkey
      have hlatest := h.latest o.kind o.id
      rw [hkept] at hlatest ⊢
      rw [if_pos rfl]
      exact hlatest.keep hversion
    · rw [if_neg hkey, List.append_nil]
      exact h.latest kind id
  | stored s hmade hlater =>
    refine ⟨h.follows, fun kind id => ?_⟩
    rw [hmore hmade, find?_put]
    by_cases hkey : (o.kind, o.id) = (kind, id)
    · obtain ⟨rfl, rfl⟩ := Prod.mk.inj hkey
      rw [if_pos rfl, if_pos rfl]
      exact (h.latest o.kind o.id).replace hlater
    · rw [if_neg hkey, if_neg hkey, List.append_nil]
      exact h.latest kind id

/-- **Behind any offers the latest snapshots are kept.** -/
theorem behindAll (h : t.Remembers policy past) (offers : List (Offer Id)) :
    (t.behindAll offers).Remembers policy (past ++ offers) := by
  induction offers generalizing t past with
  | nil =>
    rw [List.append_nil]
    exact h
  | cons o rest ih =>
    rw [List.append_cons]
    exact ih (h.behind o)

/-- **The order does not matter** if no two snapshots of an aggregate have the same version. -/
theorem eq_of_perm (h : t.Remembers policy past) (h' : t'.Remembers policy past')
    (hperm : past'.Perm past)
    (hdistinct : ∀ kind id, ((made policy kind id past).map Snapshot.version).Nodup)
    (kind : String) (id : Id) : t'.find? kind id = t.find? kind id :=
  (h.latest kind id).eq_of_perm (h'.latest kind id) (hperm.filterMap _) (hdistinct kind id)

end Remembers

/-- **Offers lead to the latest snapshots, in whatever order they come.**  Offers of any kinds are
made one after the other, beginning with no snapshots.  All along no version that is kept goes down;
an offer is answered as stored exactly if it changes what is kept, and if the policy declines it or
it fails it comes to nothing and changes nothing.  In the end the snapshot that is kept of an
aggregate is the latest one to which an offer has come, the first of several that are equally late,
and there is none if no offer has come to any.  If the snapshots of each aggregate have different
versions, then the same offers in any other order lead to the same snapshots. -/
theorem offers_in_any_order (policy : SnapshotPolicy) (offers : List (Offer Id)) :
    let behind (offers : List (Offer Id)) : SnapshotMemory Id := (empty policy).behindAll offers
    (∀ front rest, front ++ rest = offers → ∀ kind id version,
      (behind front).versionOf? kind id = some version →
      ∃ version', (behind offers).versionOf? kind id = some version' ∧ version ≤ version') ∧
    (∀ front o rest, front ++ o :: rest = offers →
      behind (front ++ [o]) = (behind front).behind o ∧
      ((behind front).answer o = .ok .stored ↔ (behind front).behind o ≠ behind front) ∧
      (o.made? policy = none ↔
        (behind front).answer o = .ok .notDue ∨ ∃ e, (behind front).answer o = .error e) ∧
      (o.made? policy = none → (behind front).behind o = behind front)) ∧
    (∀ kind id, Snapshot.Latest (made policy kind id offers) ((behind offers).find? kind id)) ∧
    ∀ offers', offers'.Perm offers →
      (∀ kind id, ((made policy kind id offers).map Snapshot.version).Nodup) →
      (behind offers').policy = (behind offers).policy ∧
      (∀ kind id, (behind offers').find? kind id = (behind offers).find? kind id) ∧
      (behind offers').snapshots.entries.Perm (behind offers).snapshots.entries := by
  intro behind
  have hremembers (offers : List (Offer Id)) : (behind offers).Remembers policy offers :=
    (Remembers.empty policy).behindAll offers
  refine ⟨?_, ?_, (hremembers offers).latest, fun offers' hperm hdistinct => ?_⟩
  · rintro front rest rfl kind id version hversion
    have happend : behind (front ++ rest) = (behind front).behindAll rest := List.foldl_append
    rw [happend]
    exact versionOf?_behindAll hversion rest
  · rintro front o rest -
    have hfollows : (behind front).policy = policy := (hremembers front).follows
    have hmade := (behind front).made?_eq_none o
    have hkept := behind_of_made?_eq_none (t := behind front) (o := o)
    rw [hfollows] at hmade hkept
    exact ⟨List.foldl_append, (behind front).answer_eq_stored o, hmade, hkept⟩
  · have hsame := (hremembers offers).eq_of_perm (hremembers offers') hperm hdistinct
    exact ⟨(hremembers offers').follows.trans (hremembers offers).follows.symm, hsame,
      Table.perm_entries fun key => hsame key.1 key.2⟩

/-- Of one counter an earlier snapshot is offered late, another one cannot be made, and one is not
asked for; of another counter there is one.  Backwards it comes to the same. -/
theorem offers_in_any_order_counters :
    let offer (id : String) (current count : Nat)
        (create : Except String (Snapshot Sample.Counter)) : Offer String :=
      ⟨Sample.counter.form, "counter", id, current, count, create⟩
    let offers := [offer "c" 2 2 (.ok ⟨4, ⟨7, 0⟩⟩), offer "d" 1 1 (.ok ⟨2, ⟨5, 0⟩⟩),
      offer "c" 6 3 (.error "no state"), offer "c" 4 1 (.ok ⟨5, ⟨8, 0⟩⟩),
      offer "c" 0 2 (.ok ⟨2, ⟨3, 0⟩⟩)]
    let behind (offers : List (Offer String)) : SnapshotMemory String :=
      (empty (.interval 2)).behindAll offers
    offers.reverse.Perm offers ∧
      (∀ kind id, ((made (.interval 2) kind id offers).map Snapshot.version).Nodup) ∧
      (behind offers).versionOf? "counter" "c" = some 4 ∧
      (behind offers.reverse).snapshots.entries.Perm (behind offers).snapshots.entries := by
  intro offer offers behind
  have hdistinct (kind : String) (id : String) :
      ((made (.interval 2) kind id offers).map Snapshot.version).Nodup := by
    by_cases hc : ("counter", "c") = (kind, id)
    · obtain ⟨rfl, rfl⟩ := Prod.mk.inj hc
      decide
    by_cases hd : ("counter", "d") = (kind, id)
    · obtain ⟨rfl, rfl⟩ := Prod.mk.inj hd
      decide
    · have hnothing : made (.interval 2) kind id offers = [] := by
        refine List.filterMap_eq_nil_iff.mpr fun o ho => if_neg fun hkey => ?_
        simp only [offers, List.mem_cons, List.not_mem_nil, or_false] at ho
        rcases ho with rfl | rfl | rfl | rfl | rfl
        · exact hc hkey
        · exact hd hkey
        all_goals exact hc hkey
      rw [hnothing]
      exact List.nodup_nil
  obtain ⟨-, -, -, hany⟩ := offers_in_any_order (.interval 2) offers
  exact ⟨offers.reverse_perm, hdistinct, by decide, (hany _ offers.reverse_perm hdistinct).2.2⟩

end SnapshotMemory

end EventSourcing
