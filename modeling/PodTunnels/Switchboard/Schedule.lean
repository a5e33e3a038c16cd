import PodTunnels.Switchboard.Move

/-!
# Schedules

Left alone, the background settles: jobs end in the order in which they were started, and then the
runners take their steps. Those whose transports have reported something go first: of closed
transports in the order of the closes, and among the rest the older session. After them go those
whose time has come, in the order in which they set their alarms. Tasks for the interfaces pile up
meanwhile and are applied only when asked for.

Time passes from deadline to deadline; the background settles at each of them.

Each step removes a job or brings a runner nearer to its end, so the work that is left bounds the
number of steps.
-/

namespace PodTunnels

/-- How many steps a runner in a phase can take at most. -/
def Phase.stepsLeft : Phase → Nat
  | waiting => 2
  | forwarding => 1
  | aborting _ _ => 1
  | ended => 0

/-- How many steps the runner of a session can take at most. -/
def Session.stepsLeft (s : Session) : Nat :=
  (s.runner.map fun r => r.phase.stepsLeft).getD 0

namespace Switchboard

/-- How many steps the background can take at most. -/
def work (sb : Switchboard) : Nat :=
  sb.registry.roster.foldl (fun steps s => steps + s.stepsLeft) sb.jobs.length

def ownerOf? (sb : Switchboard) (t : TransportId) : Option SessionId :=
  sb.registry.roster.findIdx? fun s => s.transport == t

/-- All sessions in the order in which their runners take their turns. -/
def turns (sb : Switchboard) : List SessionId :=
  sb.closings.filterMap sb.ownerOf? ++ List.range sb.registry.roster.length

/-- Whether the transport of a session has reported what its runner waits for. -/
def isSignalled (sb : Switchboard) (id : SessionId) : Bool :=
  (sb.session? id).any fun s =>
    s.runner.any fun r =>
      match r.phase with
      | .waiting => (sb.readiness s.transport).isSome
      | .forwarding | .aborting _ _ => (sb.ending s.transport).isSome
      | .ended => false

/-- When the runner of a session acts without being signalled. -/
def deadline? (sb : Switchboard) (id : SessionId) : Option Nat := do
  let s ← sb.session? id
  let r ← s.runner
  match r.phase with
  | .waiting => some r.readyDeadline
  | .aborting _ since => some (since + Runner.closeGrace)
  | .forwarding | .ended => none

/-- The sessions with a runner in the order in which the runners set their alarms. -/
def alarmed (sb : Switchboard) : List SessionId :=
  (List.range sb.alarms).filterMap fun n =>
    sb.registry.roster.findIdx? fun s => s.runner.any fun r => r.alarm == n

/-- Whether the time of the runner of a session has come. -/
def isDue (sb : Switchboard) (id : SessionId) : Bool :=
  (sb.deadline? id).any (· ≤ sb.clock)

/-- The session whose runner takes the next step. -/
def nextRunner? (sb : Switchboard) : Option SessionId :=
  (sb.turns.find? sb.isSignalled).or (sb.alarmed.find? sb.isDue)

/-- The next move of the background; `none` when it has settled. -/
def nextMove? (sb : Switchboard) : Option Move :=
  match sb.jobs with
  | _ :: _ => some (.finishJob 0)
  | [] => sb.nextRunner?.map .stepRunner

/-- Let the background take a number of steps at most. -/
def settleFor : Nat → Switchboard → Switchboard
  | 0, sb => sb
  | n + 1, sb =>
    match sb.nextMove? with
    | some move => settleFor n (sb.step move)
    | none => sb

/-- Let the background go on until it can do nothing more. -/
def settle (sb : Switchboard) : Switchboard :=
  settleFor sb.work sb

def nextDeadline? (sb : Switchboard) (limit : Nat) : Option Nat :=
  ((List.range sb.registry.roster.length).filterMap sb.deadline?).filter (· ≤ limit) |>.min?

/-- Let time pass up to a limit, through at most a number of deadlines. -/
def advanceFor : Nat → Nat → Switchboard → Switchboard
  | 0, limit, sb => sb.step (.elapse (limit - sb.clock))
  | n + 1, limit, sb =>
    match sb.nextDeadline? limit with
    | none => sb.step (.elapse (limit - sb.clock))
    | some time => advanceFor n limit (sb.step (.elapse (time - sb.clock))).settle

/-- Let a duration pass, with the background at work. -/
def advanceClock (sb : Switchboard) (duration : Nat) : Switchboard :=
  advanceFor sb.work (sb.clock + duration) sb

def hasTask (sb : Switchboard) (c : ControllerId) : Bool :=
  sb.controllers[c]?.any fun ctl => !ctl.queue.waiting.isEmpty

/-- Apply a number of tasks at most, and let the background settle after each. The answer holds how
many there were. -/
def applyTasks (c : ControllerId) : Nat → Switchboard → Nat × Switchboard
  | 0, sb => (0, sb)
  | n + 1, sb =>
    if sb.hasTask c then
      let (applied, sb) := applyTasks c n (sb.applyTask c).settle
      (applied + 1, sb)
    else (0, sb)

end Switchboard

end PodTunnels
