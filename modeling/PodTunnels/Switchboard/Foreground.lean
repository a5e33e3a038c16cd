import PodTunnels.Switchboard.Schedule

/-!
# A forward in the foreground

Outside the console a single forward is run by a loop that has nothing else to do. It starts the
forward on a switchboard of its own and then reacts to two kinds of events: a task that waits for
its interface, and the user's interrupt. After each it looks at what has become of the session. The
loop returns when its session is terminated, or when there is no session and nothing is under way
that could still make one; an interrupt before there is a session makes it return at once, and a
later one stops the session and goes on.

Everything else goes on in the background and is not the loop's doing. The loop fails with the last
failure it was told of, unless it was interrupted.
-/

namespace PodTunnels

/-- Whether a move is made without an interface: the end of a job, a step of a runner, a signal,
time, or a change of the surroundings. -/
def Move.isBackground : Move → Bool
  | .finishJob _ | .stepRunner _ | .signalReady _ _ | .signalFinish _ _ | .elapse _ => true
  | .hold _ | .unhold _ | .setCluster _ => true
  | _ => false

/-- The loop of a forward in the foreground. -/
structure Foreground where
  sb : Switchboard
  key : SessionKey
  session : Option SessionId := none
  interrupted : Bool := false
  returned : Bool := false

namespace Foreground

inductive Event where
  /-- The first waiting task is applied. -/
  | task
  | interrupt
  /-- Something goes on in the background. -/
  | background (move : Move)

def controller : ControllerId := 0

/-- Whether nothing is under way that could make a session. -/
def isIdle (sb : Switchboard) : Bool :=
  sb.controllers[controller]?.all fun ctl => ctl.flowState = .dialog .idle

def isTerminated (sb : Switchboard) (id : SessionId) : Bool :=
  (sb.session? id).any fun s => s.state = .terminated

/-- Look whether there is a session by now, and whether it is time to return. -/
def look (f : Foreground) : Foreground :=
  let session := f.session.or (f.sb.registry.lookup f.key)
  let returned :=
    match session with
    | some id => isTerminated f.sb id
    | none => isIdle f.sb
  { f with session, returned }

/-- The loop after an event. Once it has returned nothing changes it any more. -/
def step (f : Foreground) (e : Event) : Foreground :=
  if f.returned then f
  else
    match e with
    | .task =>
      if f.sb.hasTask controller then { f with sb := f.sb.applyTask controller }.look else f
    | .interrupt =>
      if f.interrupted then f
      else if f.session.isNone then { f with interrupted := true, returned := true }
      else { f with interrupted := true, sb := f.sb.step (.stop f.key) }.look
    | .background move => if move.isBackground then { f with sb := f.sb.step move } else f

def run (f : Foreground) (events : List Event) : Foreground :=
  events.foldl step f

/-- Start a forward and enter the loop. Without a claim on the key there is nothing to wait for. -/
def enter (sb : Switchboard) (pod : ResourcePath) (selection : Selection) : Foreground :=
  let sb := sb.start controller pod selection
  let claimed := sb.controllers[controller]?.any fun ctl => ctl.pendingStarts ≠ 0
  { sb, key := ⟨pod, selection.container⟩, returned := !claimed }

/-- What the interface was told, in order. -/
def effects (f : Foreground) : List Effect :=
  (f.sb.notices.filter fun n => n.controller = controller).map Notice.effect

def lastFailure? (f : Foreground) : Option Failure :=
  (f.effects.filterMap Effect.failure?).getLast?

/-- What the loop fails with when it returns. -/
def failure? (f : Foreground) : Option Failure :=
  if f.interrupted then none else f.lastFailure?

end Foreground

end PodTunnels
