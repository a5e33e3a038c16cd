import PodTunnels.KeyTable

/-!
# Bound keys of the console

Two keys are bound to actions: one forwards the selected resource, or asks to delete its forwards,
and one refreshes the pod list. The first is bound wherever there is a controller, the second by the
console alone.
-/

namespace PodTunnels.Console

inductive KeyAction where
  | forward
  | refresh
deriving DecidableEq, Repr

def controllerKeys : KeyTable KeyAction :=
  KeyTable.bind {} 'F' ⟨"Port-Forward", true, .forward⟩

def consoleKeys : KeyTable KeyAction :=
  KeyTable.merge (KeyTable.bind {} 'r' ⟨"Refresh", true, .refresh⟩) controllerKeys

end PodTunnels.Console
