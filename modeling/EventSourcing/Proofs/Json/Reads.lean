import EventSourcing.Json.Reader
import EventSourcing.Proofs.Json.Lexeme

/-!
# Readers that read what was printed

A reader that is meant for a value reads its printed form from the front of any document, wherever
the form ends, and leaves what follows.  The only thing that can go wrong is that the value has
more nested brackets than the reader may still open.

This module says what that means and shows it of the loops over lists and objects: if the reader
of an item, or of a member, reads what was printed, then so does the loop.

## Main Definitions

* `Json.depth` — how many brackets of a value are nested.
* `Json.withRoom` — an answer that needs room for nested brackets.
* `Json.Reads` — a reader reads what was printed.
* `Json.Gathers` — the readers of the members of an object read what was printed of them, one after
  the other.

## Main Statements

* `Json.list_printed`, `Json.object_printed` — the loops.
-/

namespace EventSourcing.Json

/-! ### Nested brackets -/

mutual

/-- How many brackets are nested in a value. -/
def depth : Json → Nat
  | .arr items => depthItems items + 1
  | .obj members => depthMembers members + 1
  | _ => 0

/-- How many brackets are nested in the items of a list. -/
def depthItems : List Json → Nat
  | [] => 0
  | v :: rest => max v.depth (depthItems rest)

/-- How many brackets are nested in the members of an object. -/
def depthMembers : List (String × Json) → Nat
  | [] => 0
  | (_, v) :: rest => max v.depth (depthMembers rest)

end

@[simp] theorem depth_null : Json.null.depth = 0 := rfl

@[simp] theorem depth_str (s : String) : (Json.str s).depth = 0 := rfl

/-- An answer that needs room for nested brackets. -/
def withRoom {α : Type} (needed room : Nat) (a : α) : Except Failure α :=
  if needed ≤ room then .ok a else .error .tooDeep

section WithRoom

variable {α β : Type} {needed room : Nat}

@[simp] theorem withRoom_zero (room : Nat) (a : α) : withRoom 0 room a = .ok a :=
  if_pos (Nat.zero_le room)

@[simp] theorem withRoom_succ_zero (needed : Nat) (a : α) :
    withRoom (needed + 1) 0 a = .error .tooDeep :=
  if_neg (Nat.not_succ_le_zero needed)

@[simp] theorem withRoom_succ_succ (needed room : Nat) (a : α) :
    withRoom (needed + 1) (room + 1) a = withRoom needed room a := by
  simp [withRoom]

/-- What needs the room of two parts, one after the other, needs room for the deeper one. -/
theorem withRoom_bind {m n : Nat} {a : α} {c : β} {f : α → Except Failure β}
    (h : f a = withRoom n room c) : (withRoom m room a >>= f) = withRoom (max m n) room c := by
  show (withRoom m room a).bind f = _
  unfold withRoom at h ⊢
  by_cases hm : m ≤ room
  · rw [if_pos hm]
    show f a = _
    simp only [h, Nat.max_le, hm, true_and]
  · rw [if_neg hm, if_neg fun hmax => hm (by omega)]
    rfl

theorem withRoom_bind_ok {a : α} {c : β} {f : α → Except Failure β} (h : f a = .ok c) :
    (withRoom needed room a >>= f) = withRoom needed room c := by
  show (withRoom needed room a).bind f = _
  unfold withRoom
  split
  · exact h
  · rfl

theorem withRoom_bind_pure (a : α) (f : α → β) :
    (withRoom needed room a >>= fun x => pure (f x)) = withRoom needed room (f a) :=
  withRoom_bind_ok rfl

end WithRoom

/-! ### First bytes -/

/-- The byte may be the first one of a value: it is neither white space nor the bracket that ends a
list. -/
def Opens (b : UInt8) : Prop := isSpaceByte b = false ∧ b ≠ 0x5D

theorem opens_of_startsNumber {b : UInt8} (h : startsNumber b = true) : Opens b := by
  constructor
  · cases hspace : isSpaceByte b with
    | false => rfl
    | true =>
      simp only [isSpaceByte, Bool.or_eq_true, decide_eq_true_eq] at hspace
      rcases hspace with ((rfl | rfl) | rfl) | rfl <;> cases h
  · rintro rfl
    cases h

theorem startsNumber_ne_n {b : UInt8} (h : startsNumber b = true) : b ≠ 0x6E := by
  rintro rfl
  cases h

/-- Scaled digits start with a digit. -/
theorem exists_printScaled_eq_cons {ds : Bytes} (hne : ds ≠ [])
    (hds : ∀ b ∈ ds, isDigit b = true) (exponent : Int) :
    ∃ b tail, printScaled ds exponent = b :: tail ∧ startsNumber b = true := by
  obtain ⟨d, ds, rfl⟩ := List.exists_cons_of_ne_nil hne
  have hstart : startsNumber d = true := by simp [startsNumber, hds d (by simp)]
  simp only [printScaled]
  split
  · exact ⟨d, _, rfl, hstart⟩
  · by_cases hpoint : (decide (0 < ((d :: ds).length : Int) + exponent) &&
        decide (((d :: ds).length : Int) + exponent ≤ 16)) = true
    · rw [if_pos hpoint]
      simp only [Bool.and_eq_true, decide_eq_true_eq] at hpoint
      obtain ⟨n, hn⟩ : ∃ n, (((d :: ds).length : Int) + exponent).toNat = n + 1 :=
        ⟨(((d :: ds).length : Int) + exponent).toNat - 1, by omega⟩
      rw [hn]
      exact ⟨d, _, rfl, hstart⟩
    · rw [if_neg hpoint]
      split
      · exact ⟨0x30, _, rfl, rfl⟩
      · exact ⟨d, _, rfl, hstart⟩

/-- A number that is no integer starts with a digit or with its sign. -/
theorem exists_printDecimal_eq_cons (d : Decimal) :
    ∃ b tail, printDecimal d = b :: tail ∧ startsNumber b = true := by
  obtain ⟨scaled, hscaled⟩ :
      ∃ scaled, (d.toDouble?.map Double.shortest).getD (d.digits, d.exponent) = scaled := ⟨_, rfl⟩
  obtain ⟨hne, hds, -⟩ := printNat_spec scaled.1
  simp only [printDecimal]
  rw [hscaled]
  cases d.negative with
  | true => exact ⟨0x2D, printScaled (printNat scaled.1) scaled.2, by simp, rfl⟩
  | false => exact exists_printScaled_eq_cons hne hds _

/-- A printed value starts with a byte that may be the first one of a value, and only `null` starts
with an `n`. -/
theorem exists_printAt_eq_cons (layout : Layout) (depth : Nat) (v : Json) :
    ∃ b tail, v.printAt layout depth = b :: tail ∧ Opens b ∧ (b = 0x6E → v = .null) := by
  have hnumber {s : Bytes} (h : ∃ b tail, s = b :: tail ∧ startsNumber b = true) :
      ∃ b tail, s = b :: tail ∧ Opens b ∧ (b = 0x6E → v = .null) := by
    obtain ⟨b, tail, heq, hb⟩ := h
    exact ⟨b, tail, heq, opens_of_startsNumber hb, fun h => absurd h (startsNumber_ne_n hb)⟩
  cases v with
  | null => exact ⟨0x6E, _, by rw [printAt], by simp [Opens, isSpaceByte], fun _ => rfl⟩
  | bool b =>
    cases b
    · exact ⟨0x66, _, by rw [printAt], by simp [Opens, isSpaceByte], by simp⟩
    · exact ⟨0x74, _, by rw [printAt], by simp [Opens, isSpaceByte], by simp⟩
  | int n => exact hnumber (by rw [printAt]; exact exists_printInt_eq_cons n)
  | decimal d => exact hnumber (by rw [printAt]; exact exists_printDecimal_eq_cons d)
  | str s =>
    exact ⟨quote, _, by rw [printAt, printString], by simp [Opens, isSpaceByte, quote],
      by simp [quote]⟩
  | arr items =>
    cases items
    · exact ⟨0x5B, _, by rw [printAt], by simp [Opens, isSpaceByte], by simp⟩
    · exact ⟨0x5B, _, by rw [printAt], by simp [Opens, isSpaceByte], by simp⟩
  | obj members =>
    rcases members with _ | ⟨⟨k, v⟩, rest⟩
    · exact ⟨0x7B, _, by rw [printAt], by simp [Opens, isSpaceByte], by simp⟩
    · exact ⟨0x7B, _, by rw [printAt], by simp [Opens, isSpaceByte], by simp⟩

/-! ### Where values end -/

theorem stops_comma (s : Bytes) : Stops (0x2C :: s) := stops_cons (by decide)

/-- The white space of a layout in front of a bracket ends a number, and so does the bracket. -/
theorem stops_line {layout : Layout} {depth : Nat} {b : UInt8} {s : Bytes}
    (h : Stops (b :: s)) : Stops (layout.line depth ++ b :: s) := by
  cases layout with
  | compact => exact h
  | indented => exact stops_cons (by decide)

theorem stops_printItems {layout : Layout} {depth : Nat} {s : Bytes} (h : Stops s)
    (items : List Json) : Stops (printItems layout depth items ++ s) := by
  cases items with
  | nil => exact h
  | cons v rest =>
    rw [printItems]
    exact stops_comma _

theorem stops_printMembers {layout : Layout} {depth : Nat} {s : Bytes} (h : Stops s)
    (members : List (String × Json)) : Stops (printMembers layout depth members ++ s) := by
  rcases members with _ | ⟨⟨k, v⟩, rest⟩
  · exact h
  · rw [printMembers]
    exact stops_comma _

/-! ### Readers -/

/-- A reader, in a document shorter than `limit`, reads what was printed as `a`, if there is room
for the nested brackets. -/
def Reads {α : Type} (read : Bytes → Except Failure (α × Bytes)) (limit : Nat) (printed : Bytes)
    (needed room : Nat) (a : α) : Prop :=
  ∀ b rest, skipSpace b = printed ++ rest → b.length < limit → Stops rest →
    read b = withRoom needed room (a, rest)

theorem length_skipSpace_le (b : Bytes) : (skipSpace b).length ≤ b.length :=
  (List.dropWhile_suffix _).length_le

/-- Changing what a reader gives changes what it reads. -/
theorem Reads.map {α β : Type} {read : Bytes → Except Failure (α × Bytes)} {limit : Nat}
    {printed : Bytes} {needed room : Nat} {a : α} (h : Reads read limit printed needed room a)
    (f : α → β) :
    Reads (fun b => do let (x, rest) ← read b; return (f x, rest)) limit printed needed room
      (f a) := by
  intro b rest hb hlen hrest
  show (read b >>= _) = _
  rw [h b rest hb hlen hrest]
  exact withRoom_bind_pure (a, rest) fun r => (f r.1, r.2)

/-- The same for a change that may fail, but not here. -/
theorem Reads.mapOk {α β : Type} {read : Bytes → Except Failure (α × Bytes)} {limit : Nat}
    {printed : Bytes} {needed room : Nat} {a : α} (h : Reads read limit printed needed room a)
    {f : α → Except Failure β} {c : β} (hf : f a = .ok c) :
    Reads (fun b => do let (x, rest) ← read b; return (← f x, rest)) limit printed needed room
      c := by
  intro b rest hb hlen hrest
  show (read b >>= _) = _
  rw [h b rest hb hlen hrest]
  refine withRoom_bind_ok ?_
  show (f a >>= _) = _
  rw [hf]
  rfl

/-- A printed value stands at the front. -/
theorem skipSpace_printAt (layout : Layout) (depth : Nat) (v : Json) (s : Bytes) :
    skipSpace (v.printAt layout depth ++ s) = v.printAt layout depth ++ s := by
  obtain ⟨c, tail, hc, hopens, -⟩ := exists_printAt_eq_cons layout depth v
  rw [hc, List.cons_append, skipSpace_cons hopens.1]

/-! ### Lists -/

section Items

variable {α : Type} {item : Bytes → Except Failure (α × Bytes)} {limit room : Nat}
  {layout : Layout} {depth : Nat} {toJson : α → Json}

/-- Behind the opening bracket stands the first item. -/
theorem nextItem_first (layout : Layout) (depth : Nat) (v : Json) (s : Bytes) :
    nextItem true (layout.line depth ++ (v.printAt layout depth ++ s)) =
      .ok (.item (v.printAt layout depth ++ s)) := by
  obtain ⟨c, tail, hc, hopens, -⟩ := exists_printAt_eq_cons layout depth v
  rw [nextItem, skipSpace_line, hc, List.cons_append, skipSpace_cons hopens.1]
  simp [hopens.2]

/-- Behind a comma stands the next item. -/
theorem nextItem_comma (layout : Layout) (depth : Nat) (v : Json) (s : Bytes) :
    nextItem false (0x2C :: (layout.line depth ++ (v.printAt layout depth ++ s))) =
      .ok (.item (v.printAt layout depth ++ s)) := by
  obtain ⟨c, tail, hc, hopens, -⟩ := exists_printAt_eq_cons layout depth v
  rw [nextItem, skipSpace_cons (by decide), hc]
  simp [skipSpace_line, skipSpace_cons hopens.1, hopens.2]

/-- One turn of the loop over a list. -/
theorem items_turn {first : Bool} {s i t : Bytes} {a : α} {as : List α} {m n k : Nat}
    (rest : Bytes) (hnext : nextItem first s = .ok (.item i))
    (hitem : item i = withRoom m room (a, rest))
    (hrest : items item k false rest = withRoom n room (as, t)) :
    items item (k + 1) first s = withRoom (max m n) room (a :: as, t) := by
  rw [items, hnext]
  show (item i >>= _) = _
  rw [hitem]
  refine withRoom_bind ?_
  show (items item k false rest >>= _) = _
  rw [hrest, withRoom_bind_pure]

/-- The items of a list behind the first one are read if each of them is. -/
theorem items_printed {as : List α}
    (h : ∀ a ∈ as, Reads item limit ((toJson a).printAt layout depth) (toJson a).depth room a)
    {outer n : Nat} {rest : Bytes} (hn : n ≤ limit)
    (hlen : (printItems layout depth (as.map toJson) ++
      (layout.line outer ++ 0x5D :: rest)).length < n) :
    items item n false (printItems layout depth (as.map toJson) ++
        (layout.line outer ++ 0x5D :: rest)) =
      withRoom (depthItems (as.map toJson)) room (as, rest) := by
  -- Every turn of the loop takes at least a comma from the text, so the bound is never reached.
  obtain ⟨n, rfl⟩ : ∃ k, n = k + 1 := ⟨n - 1, by omega⟩
  induction as generalizing n with
  | nil =>
    have hclose : skipSpace (layout.line outer ++ 0x5D :: rest) = 0x5D :: rest := by
      rw [skipSpace_line, skipSpace_cons (by decide)]
    simp [items, nextItem, hclose, printItems, depthItems, bind, Except.bind, pure, Except.pure]
  | cons a as ih =>
    simp only [List.map_cons, printItems, List.cons_append, List.append_assoc, List.length_cons,
      List.length_append] at hlen ⊢
    obtain ⟨m, rfl⟩ : ∃ k, n = k + 1 := ⟨n - 1, by omega⟩
    refine items_turn (printItems layout depth (as.map toJson) ++
      (layout.line outer ++ 0x5D :: rest)) (nextItem_comma layout depth (toJson a) _) ?_ ?_
    · exact h a (by simp) _ _ (skipSpace_printAt layout depth (toJson a) _)
        (by simp only [List.length_append, List.length_cons]; omega)
        (stops_printItems (stops_line (stops_cons (by decide))) _)
    · exact ih (fun a' ha' => h a' (by simp [ha'])) m (by omega)
        (by simp only [List.length_append, List.length_cons]; omega)

/-- **The items of a list are read behind its bracket if each of them is.** -/
theorem list_printed {as : List α}
    (h : ∀ a ∈ as, Reads item limit ((toJson a).printAt layout (depth + 1)) (toJson a).depth room a)
    {s rest : Bytes} (hs : 0x5B :: s = (Json.arr (as.map toJson)).printAt layout depth ++ rest)
    (hlen : s.length < limit) :
    items item limit true s = withRoom (depthItems (as.map toJson)) room (as, rest) := by
  obtain ⟨n, rfl⟩ : ∃ k, limit = k + 1 := ⟨limit - 1, by omega⟩
  cases as with
  | nil =>
    simp only [List.map_nil, printAt, List.cons_append, List.cons.injEq, true_and] at hs
    subst hs
    rfl
  | cons a as =>
    -- The first item has no comma in front; the others are those of `items_printed`.
    simp only [List.map_cons, printAt, List.cons_append, List.append_assoc, List.cons.injEq,
      true_and, List.nil_append] at hs
    subst hs
    simp only [List.length_append, List.length_cons] at hlen
    refine items_turn (printItems layout (depth + 1) (as.map toJson) ++
      (layout.line depth ++ 0x5D :: rest)) (nextItem_first layout (depth + 1) (toJson a) _) ?_ ?_
    · exact h a (by simp) _ _ (skipSpace_printAt layout (depth + 1) (toJson a) _)
        (by simp only [List.length_append, List.length_cons]; omega)
        (stops_printItems (stops_line (stops_cons (by decide))) _)
    · have hfirst : 0 < ((toJson a).printAt layout (depth + 1)).length := by
        obtain ⟨c, tail, hc, -⟩ := exists_printAt_eq_cons layout (depth + 1) (toJson a)
        simp [hc]
      exact items_printed (fun a' ha' => h a' (by simp [ha'])) (by omega)
        (by simp only [List.length_append, List.length_cons]; omega)

end Items

/-! ### Objects -/

section Members

variable {σ : Type} {member : String → σ → Bytes → Except Failure (σ × Bytes)}
  {limit room : Nat} {layout : Layout} {depth : Nat} {gathered all : σ}

/-- The readers of the members of an object read what was printed of them, one after the other:
what has been gathered goes from `gathered` to `all`. -/
inductive Gathers {σ : Type} (member : String → σ → Bytes → Except Failure (σ × Bytes))
    (limit room : Nat) (layout : Layout) (depth : Nat) :
    (gathered : σ) → List (String × Json) → (all : σ) → Prop where
  | nil (gathered : σ) : Gathers member limit room layout depth gathered [] gathered
  | cons {gathered : σ} (next : σ) {all : σ} {key : String} {v : Json}
      {rest : List (String × Json)}
      (first : Reads (member key gathered) limit (layout.colon ++ v.printAt layout depth) v.depth
        room next)
      (others : Gathers member limit room layout depth next rest all) :
      Gathers member limit room layout depth gathered ((key, v) :: rest) all

/-- Behind the opening bracket stands the first key. -/
theorem nextKey_first (layout : Layout) (depth : Nat) (key : String) (s : Bytes) :
    nextKey true (layout.line depth ++ (printString key ++ s)) =
      .ok (.item ((Bytes.ofText key).flatMap escapeByte ++ quote :: s)) := by
  rw [nextKey, skipSpace_line, printString, List.cons_append, skipSpace_cons (by decide)]
  simp [quote]

/-- Behind a comma stands the next key. -/
theorem nextKey_comma (layout : Layout) (depth : Nat) (key : String) (s : Bytes) :
    nextKey false (0x2C :: (layout.line depth ++ (printString key ++ s))) =
      .ok (.item ((Bytes.ofText key).flatMap escapeByte ++ quote :: s)) := by
  rw [nextKey, skipSpace_cons (by decide), printString]
  simp [skipSpace_line, skipSpace_cons (b := quote) (by decide)]

theorem skipSpace_colon (layout : Layout) (s : Bytes) :
    skipSpace (layout.colon ++ s) = layout.colon ++ s := by
  cases layout
  · exact skipSpace_cons (by decide)
  · exact skipSpace_cons (by decide)

/-- One turn of the loop over an object. -/
theorem members_turn {first : Bool} {key : String} {s i t : Bytes} {m n k : Nat} (next : σ)
    (rest : Bytes) (hnext : nextKey first s =
      .ok (.item ((Bytes.ofText key).flatMap escapeByte ++ quote :: i)))
    (hlen : ((Bytes.ofText key).flatMap escapeByte ++ quote :: i).length ≤ k)
    (hmember : member key gathered i = withRoom m room (next, rest))
    (hrest : members member k false next rest = withRoom n room (all, t)) :
    members member (k + 1) first gathered s = withRoom (max m n) room (all, t) := by
  rw [members, hnext]
  show (string k _ >>= _) = _
  rw [string_printed key hlen]
  show (member key gathered i >>= _) = _
  rw [hmember]
  exact withRoom_bind hrest

/-- The members of an object behind the first one are read if their readers read them. -/
theorem members_printed {printed : List (String × Json)}
    (h : Gathers member limit room layout depth gathered printed all)
    {outer n : Nat} {rest : Bytes} (hn : n ≤ limit)
    (hlen : (printMembers layout depth printed ++ (layout.line outer ++ 0x7D :: rest)).length < n) :
    members member n false gathered (printMembers layout depth printed ++
        (layout.line outer ++ 0x7D :: rest)) =
      withRoom (depthMembers printed) room (all, rest) := by
  obtain ⟨n, rfl⟩ : ∃ k, n = k + 1 := ⟨n - 1, by omega⟩
  induction h generalizing n with
  | nil gathered =>
    have hclose : skipSpace (layout.line outer ++ 0x7D :: rest) = 0x7D :: rest := by
      rw [skipSpace_line, skipSpace_cons (by decide)]
    simp [members, nextKey, hclose, printMembers, depthMembers, bind, Except.bind, pure,
      Except.pure]
  | @cons gathered next all key v printed first others ih =>
    simp only [printMembers, List.cons_append, List.append_assoc, List.length_cons,
      List.length_append, printString] at hlen
    obtain ⟨m, rfl⟩ : ∃ k, n = k + 1 := ⟨n - 1, by omega⟩
    simp only [printMembers, List.cons_append, List.append_assoc, depthMembers]
    refine members_turn next (printMembers layout depth printed ++
      (layout.line outer ++ 0x7D :: rest)) (nextKey_comma layout depth key _) ?_ ?_ ?_
    · simp only [List.length_append, List.length_cons]
      omega
    · exact first _ _ (by rw [List.append_assoc, skipSpace_colon])
        (by simp only [List.length_append, List.length_cons]; omega)
        (stops_printMembers (stops_line (stops_cons (by decide))) _)
    · exact ih m (by omega) (by simp only [List.length_append, List.length_cons]; omega)

/-- **The members of an object are read behind its bracket if their readers read them.** -/
theorem object_printed {printed : List (String × Json)}
    (h : Gathers member limit room layout (depth + 1) gathered printed all)
    {s rest : Bytes} (hs : 0x7B :: s = (Json.obj printed).printAt layout depth ++ rest)
    (hlen : s.length < limit) :
    members member limit true gathered s = withRoom (depthMembers printed) room (all, rest) := by
  obtain ⟨n, rfl⟩ : ∃ k, limit = k + 1 := ⟨limit - 1, by omega⟩
  cases h with
  | nil =>
    simp only [printAt, List.cons_append, List.cons.injEq, true_and] at hs
    subst hs
    rfl
  | @cons _ next _ key v printed first others =>
    simp only [printAt, List.cons_append, List.append_assoc, List.cons.injEq, true_and,
      List.nil_append] at hs
    subst hs
    simp only [List.length_append, List.length_cons, printString] at hlen
    refine members_turn next (printMembers layout (depth + 1) printed ++
      (layout.line depth ++ 0x7D :: rest)) (nextKey_first layout (depth + 1) key _) ?_ ?_ ?_
    · simp only [List.length_append, List.length_cons]
      omega
    · exact first _ _ (by rw [List.append_assoc, skipSpace_colon])
        (by simp only [List.length_append, List.length_cons]; omega)
        (stops_printMembers (stops_line (stops_cons (by decide))) _)
    · exact members_printed others (by omega)
        (by simp only [List.length_append, List.length_cons]; omega)

end Members

end EventSourcing.Json
