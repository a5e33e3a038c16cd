import PodTunnels.OrderedMap

/-!
# Key tables

A key table binds characters to actions. Binding a key again replaces what it was bound to, and
the bindings of a merged table replace those that were there. The hints are the bindings to be
shown to the user, in the order of their keys.
-/

namespace PodTunnels

structure Binding (α : Type) where
  label : String
  visible : Bool
  action : α

abbrev KeyTable (α : Type) := OrderedMap Char (Binding α)

namespace KeyTable

variable {α : Type}

def bind (table : KeyTable α) (key : Char) (binding : Binding α) : KeyTable α :=
  table.insert key binding

/-- Put the bindings of another table over those of this one. -/
def merge (table other : KeyTable α) : KeyTable α :=
  table.union other

/-- The keys and labels of the visible bindings. -/
def hints (table : KeyTable α) : List (Char × String) :=
  (table.entries.filter fun e => e.2.visible).map fun e => (e.1, e.2.label)

end KeyTable

end PodTunnels
