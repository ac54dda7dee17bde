/-!
# Version windows

Reading a history may be limited to a window of versions: those after a version, those up to a
version, or both.

## Main Definitions

* `Window` — the two bounds.
* `Window.contains` — whether a version lies within them.
-/

namespace EventSourcing

/-- The bounds of a window. -/
structure Window where
  /-- Only versions greater than this. -/
  after : Option Nat
  /-- Only versions not greater than this. -/
  upTo : Option Nat
  deriving Repr, DecidableEq

namespace Window

/-- Every version. -/
def all : Window := ⟨none, none⟩

instance : Inhabited Window := ⟨all⟩

/-- The versions greater than the given one. -/
def since (version : Nat) : Window := ⟨some version, none⟩

/-- The versions not greater than the given one. -/
def through (version : Nat) : Window := ⟨none, some version⟩

/-- Whether a version lies within the window. -/
def contains (w : Window) (version : Nat) : Bool :=
  w.after.all (fun after => after < version) && w.upTo.all (fun upTo => version ≤ upTo)

@[simp] theorem contains_all (version : Nat) : all.contains version = true := rfl

@[simp] theorem contains_since (after version : Nat) :
    (since after).contains version = decide (after < version) := Bool.and_true _

@[simp] theorem contains_through (upTo version : Nat) :
    (through upTo).contains version = decide (version ≤ upTo) := Bool.true_and _

end Window
end EventSourcing
