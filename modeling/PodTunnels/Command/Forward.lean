import PodTunnels.Command.Report
import PodTunnels.Kubectl.PortForward
import PodTunnels.Resource.Parser
import PodTunnels.Selection
import PodTunnels.Switchboard.Foreground

/-!
# The forward command

The command resolves its target, reads the ports of the pod, makes a selection of the mappings it
was given, and runs the forward in the foreground over one run of kubectl.

The course of such a forward is fixed by how the run turns out. Its output is there at once; after
its delay it may interrupt the user, and unless it stays it exits; one that is closed exits at once.
Between these moments the background settles and the loop applies the tasks that have come up. What
has not ended when the time for readiness is over, and the time to wind down after it, stays for
ever.
-/

namespace PodTunnels

namespace Foreground

open PodTunnels.Kubectl

/-- The transport that a run of kubectl carries: the first one on the switchboard. -/
def carrier : TransportId := 0

def settle (f : Foreground) : Foreground :=
  if f.returned then f else { f with sb := f.sb.settle }

def pass (f : Foreground) (duration : Nat) : Foreground :=
  if f.returned then f else { f with sb := f.sb.advanceClock duration }

def relay (f : Foreground) (run : PortForward) : Foreground :=
  let (readiness, ending) := run.reports
  let f :=
    match readiness with
    | some outcome => f.step (.background (.signalReady carrier outcome))
    | none => f
  match ending with
  | some outcome => f.step (.background (.signalFinish carrier outcome))
  | none => f

/-- Let the background settle, and a run end that was closed. -/
def calm (f : Foreground) (run : PortForward) : Foreground :=
  let f := f.settle
  if f.sb.isClosed carrier then (f.relay run.close).settle else f

/-- Apply tasks as they come up, a number of them at most. -/
def react (run : PortForward) : Nat → Foreground → Foreground
  | 0, f => f.calm run
  | n + 1, f => react run n ((f.calm run).step .task)

/-- The number of tasks that one start leads to: its check, its activation and its end. -/
def tasksOfStart : Nat := 3

/-- The time after which nothing happens any more by itself. -/
def patience (readySeconds : Nat) : Nat :=
  1000 * readySeconds + Runner.closeGrace

/-- The course of a forward over a run of kubectl. -/
def course (f : Foreground) (readySeconds : Nat) (run : PortForward) : Foreground :=
  let alive := run.alive
  let react := react alive tasksOfStart
  let f := react ((react f).relay alive)
  let f := react (f.pass run.run.delay)
  let f := if run.run.interrupts then react (f.step .interrupt) else f
  let f := if run.run.hangs then f else react (f.relay run)
  react (f.pass (patience readySeconds))

/-- What a forward in the foreground reports: good news in the output, failures beside it. -/
def report (f : Foreground) : Report where
  output := Report.printed ((f.effects.filterMap Effect.news?).map Info.message)
  errorOutput :=
    Report.printed ((f.effects.filterMap Effect.failure?).map fun e => "Error: " ++ e.message)
  failure := f.failure?.map .told

end Foreground

namespace Command

/-- The work of a command on a host that a failure ends. -/
abbrev Work := ExceptT CommandFailure (StateM Host)

/-- Work that the library does. -/
def Work.ofStep {α : Type} (act : Host → Except Failure α × Host) : Work α :=
  ExceptT.mk fun h => let (r, h) := act h; (r.mapError .failure, h)

/-- What a forward needs to be started: a pod and a selection of its ports. -/
def chooseForward (config : Config) (client : Kubectl.Client) (ns target : String)
    (mappings : List String) (container address : Option String) :
    Work (ResourcePath × Selection) := do
  let target ← Work.ofStep fun h => (Target.parse target ns, h)
  let pod ← Work.ofStep (client.ask target.resolve)
  let ports ← Work.ofStep (client.ask (fetchPodPorts pod))
  let address := address.getD config.defaultAddress
  match Selection.ofMappings ports mappings container address with
  | .ok selection => return (pod, selection)
  | .error fault => throw (.ofMapping fault)

/-- How the one transport of a forward turns out, given what came of starting kubectl for it. -/
def planOf (opened : Except Failure Kubectl.PortForward) : Plan where
  openFailure :=
    match opened with
    | .ok _ => none
    | .error e => some e
  ready := .onSignal
  close := .ignored

/-- Run a forward in the foreground. The run of kubectl is used up only if it was started. -/
def runForward (config : Config) (client : Kubectl.Client) (pod : ResourcePath)
    (selection : Selection) (h : Host) : Report × Host :=
  let (opened, after) := client.openForward pod selection.tunnels h
  let sb := Switchboard.initial { cluster := .empty, plans := [planOf opened] }
    [(config.defaultAddress, config.readySeconds)]
  let run := opened.toOption.getD (.ofRun [] {})
  let f := (Foreground.enter sb pod selection).course config.readySeconds run
  (f.report, if f.sb.transports.isEmpty then h else after)

def forward (config : Config) (ns target : String) (mappings : List String)
    (container address : Option String) (h : Host) : Report × Host :=
  let client := Kubectl.Client.ofConfig h config
  match (chooseForward config client ns target mappings container address).run h with
  | (.ok (pod, selection), h) => runForward config client pod selection h
  | (.error e, h) => (.failed e, h)

end Command

end PodTunnels
