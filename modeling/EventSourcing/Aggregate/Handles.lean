/-!
# Handles

Clients hold values by handles.  A handle owns its value, or shares it with other handles: what one
of them changes, all of them see.  A shared value can be owned again once only one handle is left.

## Main Definitions

* `Handles` — handles by name.
* `Handles.get?`, `Handles.set`, `Handles.own` — the value of a handle, changing it, a new handle.
* `Handles.share`, `Handles.clone`, `Handles.unwrap`, `Handles.drop` — sharing.
-/

namespace EventSourcing

universe u

/-- A handle owns a value or refers to a shared one by its number. -/
inductive Handle (α : Type u) where
  | owned (value : α)
  | shared (cell : Nat)

/-- Handles by name, and the shared values. -/
structure Handles (α : Type u) where
  named : List (String × Handle α)
  cells : List α

namespace Handles

variable {α : Type u}

/-- No handles. -/
def empty : Handles α := ⟨[], []⟩

instance : Inhabited (Handles α) := ⟨empty⟩

/-- The handle of a name. -/
def handle? (name : String) (h : Handles α) : Option (Handle α) := h.named.lookup name

/-- The value of a handle. -/
def get? (name : String) (h : Handles α) : Option α :=
  match h.handle? name with
  | some (.owned value) => some value
  | some (.shared cell) => h.cells[cell]?
  | none => none

/-- Whether a handle shares its value. -/
def isShared (name : String) (h : Handles α) : Bool :=
  match h.handle? name with
  | some (.shared _) => true
  | _ => false

/-- The handles without those of a name. -/
def drop (name : String) (h : Handles α) : Handles α :=
  { h with named := h.named.filter fun e => e.1 ≠ name }

/-- Gives a name to a handle; an older handle of the name is given up. -/
def bind (name : String) (handle : Handle α) (h : Handles α) : Handles α :=
  { h.drop name with named := (name, handle) :: (h.drop name).named }

/-- A handle that owns a value. -/
def own (name : String) (value : α) (h : Handles α) : Handles α := h.bind name (.owned value)

/-- Changes the value of a handle. -/
def set (name : String) (value : α) (h : Handles α) : Handles α :=
  match h.handle? name with
  | some (.shared cell) => { h with cells := h.cells.set cell value }
  | _ => h.own name value

/-- Makes an owned value one that can be shared. -/
def share (name : String) (h : Handles α) : Handles α :=
  match h.handle? name with
  | some (.owned value) =>
    { h with cells := h.cells ++ [value] }.bind name (.shared h.cells.length)
  | _ => h

/-- Another handle to the same shared value. -/
def clone (name copy : String) (h : Handles α) : Handles α :=
  match h.handle? name with
  | some (.shared cell) => h.bind copy (.shared cell)
  | _ => h

/-- The number of handles to a shared value. -/
def holders (cell : Nat) (h : Handles α) : Nat :=
  h.named.countP fun e =>
    match e.2 with
    | .shared c => c == cell
    | .owned _ => false

/-- Owns a shared value again, if no other handle is left. -/
def unwrap (name : String) (h : Handles α) : Bool × Handles α :=
  match h.handle? name with
  | some (.shared cell) =>
    match h.cells[cell]? with
    | some value => if h.holders cell = 1 then (true, h.own name value) else (false, h)
    | none => (false, h)
  | _ => (false, h)

end Handles
end EventSourcing
