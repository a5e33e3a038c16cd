import PodTunnels.Console.Input
import PodTunnels.Switchboard.Schedule

/-!
# A console at its switchboard

The console is the interface of a controller: what the controller's notices say is done to the
console in their order, as part of the move that gave them. In the other direction an event at the
console may result in a move. The two change in no other way together. Between two keys that a hand
types there is time for the background to settle.
-/

namespace PodTunnels.Console

/-- A switchboard and the console at it. -/
structure Desk where
  sb : Switchboard
  console : State

namespace Desk

/-- Do to a console what a notice says, given the controller and the time. -/
def tell (ctl : Option Controller) (now : Nat) (c : State) : Effect → State
  | .showSelection n =>
    match ctl.bind fun ctl => ctl.selections[n]? with
    | some dialog => { c with modal := some (.selection (.ofDialog n dialog)) }
    | none => c
  | .showDeletion n =>
    match ctl.bind fun ctl => ctl.deletions[n]? with
    | some dialog => { c with modal := some (.deletion n dialog) }
    | none => c
  | .dismiss => { c with modal := none }
  | .info news => c.showFlash .info news.message now
  | .error e => c.showFlash .error e.message now
  | .refresh => c.requestRefresh

/-- Put the switchboard after some moves in place, and do to the console what was noticed. -/
def follow (d : Desk) (sb : Switchboard) : Desk :=
  let news := (sb.notices.drop d.sb.notices.length).filter fun n =>
    n.controller = d.console.controller
  let ctl := sb.controllers[d.console.controller]?
  { sb, console := news.foldl (fun c n => tell ctl sb.clock c n.effect) d.console }

def step (d : Desk) (m : Move) : Desk :=
  d.follow (d.sb.step m)

/-- An event at the console, with the move that it results in. -/
def handle (d : Desk) (e : Event) : Handling × Desk :=
  let r := d.console.handle d.sb.registry e
  let d := { d with console := r.console }
  (r.handling, match r.move with
    | some m => d.step m
    | none => d)

def settle (d : Desk) : Desk :=
  d.follow d.sb.settle

/-- Type characters, and let the background settle after each. -/
def type (d : Desk) (keys : List Char) : Desk :=
  keys.foldl (fun d c => (d.handle (.press { code := .char c })).2.settle) d

def selectedTarget (d : Desk) : Option Target :=
  d.console.selectedTarget d.sb.registry

end Desk

end PodTunnels.Console
