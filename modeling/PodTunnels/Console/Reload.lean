import PodTunnels.Console.Basic

/-!
# Reloads of the pods

A reload asks kubectl for the pods in the background and puts the outcome into the console when it
comes. It starts when the console takes up a request for it. A request may be made while a reload is
under way, so several can be under way at once, and they may end in any order: nothing is done to
prefer a newer one.
-/

namespace PodTunnels.Console

abbrev Reloaded := Except KubectlFailure (List PodSummary)

/-- A console with the reloads that were started for it, numbered from zero. -/
structure Reloads where
  console : State
  started : Nat := 0
  underWay : List Nat := []

namespace Reloads

inductive Event where
  /-- Somebody asks for a reload. -/
  | request
  /-- The console takes up a request, if there is one. -/
  | tick
  /-- A reload ends at a time, and its outcome is put in. -/
  | arrive (reload : Nat) (result : Reloaded) (now : Nat)

/-- The console and its reloads after an event. A reload that is not under way cannot end. -/
def step (r : Reloads) : Event → Reloads
  | .request => { r with console := r.console.requestRefresh }
  | .tick =>
    match r.console.takeRefreshRequest with
    | (true, console) =>
      { console, started := r.started + 1, underWay := r.underWay ++ [r.started] }
    | (false, console) => { r with console }
  | .arrive reload result now =>
    if r.underWay.contains reload then
      { r with
        console := r.console.setPods result now
        underWay := r.underWay.erase reload }
    else r

def run (r : Reloads) (events : List Event) : Reloads :=
  events.foldl step r

/-- A console that no reload was started for. -/
def initial (console : State) : Reloads :=
  { console }

end Reloads

end PodTunnels.Console
