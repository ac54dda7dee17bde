/-!
# Answers that may be failures

## Main Statements

* `bind_eq_ok`, `bind_eq_error` — two steps succeed if the first one does and the second one does
  with its result; otherwise one of them fails.
* `bind_of_ok`, `bind_of_error` — the same where the steps work on a state, which is left behind.
* `mapM_cons_eq_ok`, `mapM_append_of_ok` — the same for the items of a list.
* `exists_mapM_iff`, `mapM_eq_error` — a list succeeds if all items do, and fails with the first one
  that does.
* `eq_of_mapM_mapM` — what is read of a list is the list of which it was written.
* `mapM_of_mapM` — a list is read back if its items are.
-/

namespace EventSourcing

/-- Two steps succeed if the first one does and the second one does with its result. -/
theorem bind_eq_ok {ε α β : Type} {x : Except ε α} {f : α → Except ε β} {b : β} :
    (x >>= f) = .ok b ↔ ∃ a, x = .ok a ∧ f a = .ok b := by
  cases x with
  | error e =>
    constructor
    · intro h
      cases h
    · rintro ⟨a, ha, -⟩
      cases ha
  | ok a =>
    constructor
    · intro h
      exact ⟨a, rfl, h⟩
    · rintro ⟨a', ha, h⟩
      cases ha
      exact h

theorem bind_eq_error {ε α β : Type} {x : Except ε α} {f : α → Except ε β} {e : ε} :
    (x >>= f) = .error e ↔ x = .error e ∨ ∃ a, x = .ok a ∧ f a = .error e := by
  cases x with
  | error e' =>
    constructor
    · intro h
      cases h
      exact .inl rfl
    · rintro (h | ⟨a, ha, -⟩)
      · cases h
        rfl
      · cases ha
  | ok a =>
    constructor
    · intro h
      exact .inr ⟨a, rfl, h⟩
    · rintro (h | ⟨a', ha, h⟩)
      · cases h
      · cases ha
        exact h

section State

variable {S ε α β : Type} {x : ExceptT ε (StateM S) α} {f : α → ExceptT ε (StateM S) β} {s s' : S}

/-- The second step goes on where the first one has succeeded. -/
theorem bind_of_ok {a : α} (h : x s = (.ok a, s')) : (x >>= f) s = f a s' := by
  show ExceptT.bindCont f (x s).1 (x s).2 = _
  rw [h]
  rfl

/-- The state behind a failure is the one behind both steps. -/
theorem bind_of_error {e : ε} (h : x s = (.error e, s')) : (x >>= f) s = (.error e, s') := by
  show ExceptT.bindCont f (x s).1 (x s).2 = _
  rw [h]
  rfl

/-- Two steps that only look at the state. -/
theorem bind_of_looks {r : Except ε α} {g : α → Except ε β} (hx : x s = (r, s))
    (hf : ∀ a, f a s = (g a, s)) : (x >>= f) s = (r >>= g, s) := by
  cases r with
  | error e => exact bind_of_error hx
  | ok a => exact (bind_of_ok hx).trans (hf a)

end State

/-- What follows an answer matters only for what it answers. -/
theorem bind_congr_of_ok {ε α β : Type} {x : Except ε α} {f g : α → Except ε β}
    (h : ∀ a, x = .ok a → f a = g a) : x >>= f = x >>= g := by
  cases x with
  | error e => rfl
  | ok a => exact h a rfl

theorem map_eq_ok {ε α β : Type} {x : Except ε α} {f : α → β} {b : β} :
    x.map f = .ok b ↔ ∃ a, x = .ok a ∧ f a = b := by
  cases x with
  | error e =>
    constructor
    · intro h
      cases h
    · rintro ⟨a, ha, -⟩
      cases ha
  | ok a =>
    constructor
    · intro h
      exact ⟨a, rfl, Except.ok.inj h⟩
    · rintro ⟨_, ha, rfl⟩
      cases ha
      rfl

theorem map_eq_error {ε α β : Type} {x : Except ε α} {f : α → β} {e : ε} :
    x.map f = .error e ↔ x = .error e := by
  cases x with
  | error e' =>
    constructor
    · intro h
      cases h
      rfl
    · intro h
      cases h
      rfl
  | ok a =>
    constructor
    · intro h
      cases h
    · intro h
      cases h

theorem mapError_eq_ok {ε ε' α : Type} {x : Except ε α} {f : ε → ε'} {a : α} :
    x.mapError f = .ok a ↔ x = .ok a := by
  cases x with
  | error e =>
    constructor
    · intro h
      cases h
    · intro h
      cases h
  | ok a' =>
    constructor
    · intro h
      cases h
      rfl
    · intro h
      cases h
      rfl

theorem mapError_eq_error {ε ε' α : Type} {x : Except ε α} {f : ε → ε'} {e' : ε'} :
    x.mapError f = .error e' ↔ ∃ e, x = .error e ∧ f e = e' := by
  cases x with
  | error e =>
    constructor
    · intro h
      exact ⟨e, rfl, Except.error.inj h⟩
    · rintro ⟨_, he, rfl⟩
      cases he
      rfl
  | ok a =>
    constructor
    · intro h
      cases h
    · rintro ⟨e, he, -⟩
      cases he

theorem exists_error_iff {ε α : Type} {x : Except ε α} :
    (∃ e, x = .error e) ↔ ¬ ∃ a, x = .ok a := by
  cases x with
  | error e => simp
  | ok a => simp

section MapM

variable {α β ε ε' : Type} {f : α → Except ε β} {g : β → Except ε' α}

theorem mapM_cons_eq_ok {a : α} {as : List α} {bs : List β} :
    (a :: as).mapM f = .ok bs ↔ ∃ b, f a = .ok b ∧ ∃ bs', as.mapM f = .ok bs' ∧ bs = b :: bs' := by
  rw [List.mapM_cons, bind_eq_ok]
  refine exists_congr fun b => and_congr_right fun _ => ?_
  rw [bind_eq_ok]
  refine exists_congr fun bs' => and_congr_right fun _ => ?_
  exact ⟨fun h => (Except.ok.inj h).symm, fun h => by rw [h]; rfl⟩

/-- A list can be written if its items can. -/
theorem exists_mapM_iff {as : List α} :
    (∃ bs, as.mapM f = .ok bs) ↔ ∀ a ∈ as, ∃ b, f a = .ok b := by
  induction as with
  | nil => exact ⟨fun _ => nofun, fun _ => ⟨[], rfl⟩⟩
  | cons a as ih =>
    rw [List.forall_mem_cons, ← ih]
    constructor
    · rintro ⟨bs, hbs⟩
      obtain ⟨b, hb, bs', hbs', -⟩ := mapM_cons_eq_ok.mp hbs
      exact ⟨⟨b, hb⟩, bs', hbs'⟩
    · rintro ⟨⟨b, hb⟩, bs', hbs'⟩
      exact ⟨b :: bs', mapM_cons_eq_ok.mpr ⟨b, hb, bs', hbs', rfl⟩⟩

/-- What is written of a list is written of its items. -/
theorem exists_of_mem_mapM {as : List α} {bs : List β} (h : as.mapM f = .ok bs) {b : β}
    (hb : b ∈ bs) : ∃ a ∈ as, f a = .ok b := by
  induction as generalizing bs with
  | nil =>
    cases h
    cases hb
  | cons a as ih =>
    obtain ⟨b', hfirst, bs', hrest, rfl⟩ := mapM_cons_eq_ok.mp h
    rcases List.mem_cons.mp hb with rfl | hb
    · exact ⟨a, List.mem_cons_self, hfirst⟩
    · obtain ⟨a', ha', hf⟩ := ih hrest hb
      exact ⟨a', List.mem_cons_of_mem a ha', hf⟩

/-- What is read of a list is the list of which it was written, if that holds of the items. -/
theorem eq_of_mapM_mapM {as as' : List α} {bs : List β} (h : as.mapM f = .ok bs)
    (h' : bs.mapM g = .ok as') (hitem : ∀ a b a', f a = .ok b → g b = .ok a' → a' = a) :
    as' = as := by
  induction as generalizing bs as' with
  | nil =>
    cases h
    cases h'
    rfl
  | cons a as ih =>
    obtain ⟨b, hfirst, bs', hrest, rfl⟩ := mapM_cons_eq_ok.mp h
    obtain ⟨a', hback, as'', hbacks, rfl⟩ := mapM_cons_eq_ok.mp h'
    rw [hitem a b a' hfirst hback, ih hrest hbacks]

/-- A list is read back item by item. -/
theorem mapM_of_mapM {as : List α} {bs : List β} (h : as.mapM f = .ok bs)
    (hitem : ∀ a ∈ as, ∀ b, f a = .ok b → g b = .ok a) : bs.mapM g = .ok as := by
  induction as generalizing bs with
  | nil =>
    cases h
    rfl
  | cons a as ih =>
    obtain ⟨b, hfirst, bs', hrest, rfl⟩ := mapM_cons_eq_ok.mp h
    have hback := hitem a List.mem_cons_self b hfirst
    have hbacks := ih hrest fun a ha => hitem a (List.mem_cons_of_mem _ ha)
    exact mapM_cons_eq_ok.mpr ⟨a, hback, as, hbacks, rfl⟩

theorem length_of_mapM {as : List α} {bs : List β} (h : as.mapM f = .ok bs) :
    bs.length = as.length := by
  induction as generalizing bs with
  | nil =>
    cases h
    rfl
  | cons a as ih =>
    obtain ⟨b, -, bs', hrest, rfl⟩ := mapM_cons_eq_ok.mp h
    rw [List.length_cons, ih hrest, List.length_cons]

/-- The first items of a list give the first results. -/
theorem mapM_take {as : List α} {bs : List β} (h : as.mapM f = .ok bs) (count : Nat) :
    (as.take count).mapM f = .ok (bs.take count) := by
  induction as generalizing bs count with
  | nil =>
    cases h
    cases count <;> rfl
  | cons a as ih =>
    obtain ⟨b, hfirst, bs', hrest, rfl⟩ := mapM_cons_eq_ok.mp h
    cases count with
    | zero => rfl
    | succ count => exact mapM_cons_eq_ok.mpr ⟨b, hfirst, _, ih hrest count, rfl⟩

/-- Of two lists one after the other the second one is of interest only if the first one does not
fail. -/
theorem mapM_append_of_ok {as : List α} {bs : List β} (h : as.mapM f = .ok bs) (as' : List α) :
    (as ++ as').mapM f = (as'.mapM f).map (bs ++ ·) := by
  rw [List.mapM_append, h]
  show (as'.mapM f >>= fun bs' => pure (bs ++ bs')) = _
  cases as'.mapM f <;> rfl

/-- A list fails with the first item that does. -/
theorem mapM_eq_error {as : List α} {e : ε} :
    as.mapM f = .error e ↔ ∃ front bs a rest,
      as = front ++ a :: rest ∧ front.mapM f = .ok bs ∧ f a = .error e := by
  constructor
  · intro h
    induction as with
    | nil => cases h
    | cons a rest ih =>
      rw [List.mapM_cons] at h
      rcases bind_eq_error.mp h with ha | ⟨b, ha, h⟩
      · exact ⟨[], [], a, rest, rfl, rfl, ha⟩
      · rcases bind_eq_error.mp h with hrest | ⟨bs, -, h⟩
        · obtain ⟨front, bs, bad, tail, rfl, hfront, hbad⟩ := ih hrest
          have hlonger : (a :: front).mapM f = .ok (b :: bs) :=
            mapM_cons_eq_ok.mpr ⟨b, ha, bs, hfront, rfl⟩
          exact ⟨a :: front, b :: bs, bad, tail, rfl, hlonger, hbad⟩
        · cases h
  · rintro ⟨front, bs, a, rest, rfl, hfront, ha⟩
    rw [mapM_append_of_ok hfront, List.mapM_cons, ha]
    rfl

end MapM

end EventSourcing
