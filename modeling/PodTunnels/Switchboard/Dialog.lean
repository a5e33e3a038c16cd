import PodTunnels.Switchboard.Start
import PodTunnels.Switchboard.Stop

/-!
# Dialogs

A trigger begins a dialog flow for a target. The target is resolved to a pod; if that pod has live
sessions, the user is asked whether to delete them, and otherwise its ports are read and offered in
a start dialog. A failure on the way is told once and ends the flow.

Every continuation looks first whether its generation is the current one, and does nothing if a
newer trigger has taken over; but a confirmed deletion stops the sessions it listed in any case.
-/

namespace PodTunnels

namespace Switchboard

def isCurrent (sb : Switchboard) (c : ControllerId) (generation : Nat) : Bool :=
  sb.controllers[c]?.any fun ctl => ctl.generation == generation

/-- Bring the flow of a generation to a stage. -/
def advance (sb : Switchboard) (c : ControllerId) (generation : Nat) (stage : Stage) :
    Switchboard :=
  sb.control c fun ctl => ctl.advance generation stage

/-- End the flow of a generation with a failure. -/
def abandon (sb : Switchboard) (c : ControllerId) (generation : Nat) (e : Failure) : Switchboard :=
  if sb.isCurrent c generation then
    (sb.advance c generation .idle).notify c (.flow generation) (.error e)
  else sb

def askDeletion (sb : Switchboard) (c : ControllerId) (generation : Nat) (pod : ResourcePath)
    (sessions : List SessionId) : Switchboard :=
  match sb.controllers[c]? with
  | none => sb
  | some ctl =>
    if ctl.generation = generation then
      let lines := sessions.filterMap fun id => (sb.session? id).map fun s => s.line
      let dialog : DeletionDialog := { generation, pod, sessions, lines }
      ((sb.advance c generation .awaitingDeletion).control c fun ctl =>
        { ctl with deletions := ctl.deletions ++ [dialog] }).notify c (.flow generation)
          (.showDeletion ctl.deletions.length)
    else sb

/-- The flow of a generation has come to a pod. -/
def podFound (sb : Switchboard) (c : ControllerId) (generation : Nat) (pod : ResourcePath) :
    Switchboard :=
  match sb.registry.allForPod pod with
  | [] =>
    if sb.isCurrent c generation then
      (sb.advance c generation .awaitingSelection).spawn (.readPorts c generation pod)
    else sb
  | sessions => sb.askDeletion c generation pod sessions

def resolved (sb : Switchboard) (c : ControllerId) (generation : Nat) :
    Except Failure ResourcePath → Switchboard
  | .ok pod => sb.podFound c generation pod
  | .error e => sb.abandon c generation e

def trigger (sb : Switchboard) (c : ControllerId) (target : Target) : Switchboard :=
  match sb.controllers[c]? with
  | none => sb
  | some ctl =>
    let generation := ctl.generation + 1
    let sb := sb.control c fun ctl => ctl.begin .resolving
    match Route.ofKind target.kind with
    | .error e => sb.abandon c generation e
    | .ok .pod => sb.podFound c generation target.path
    | .ok route => sb.spawn (.resolve c generation route target.path)

def offer (sb : Switchboard) (c : ControllerId) (generation : Nat) (pod : ResourcePath)
    (candidates : List Candidate) : Switchboard :=
  match sb.controllers[c]? with
  | none => sb
  | some ctl =>
    if ctl.generation = generation then
      let dialog : SelectionDialog := { generation, pod, candidates, address := ctl.address }
      ((sb.advance c generation .awaitingSelection).control c fun ctl =>
        { ctl with selections := ctl.selections ++ [dialog] }).notify c (.flow generation)
          (.showSelection ctl.selections.length)
    else sb

def portsRead (sb : Switchboard) (c : ControllerId) (generation : Nat) (pod : ResourcePath) :
    Except Failure PodPorts → Switchboard
  | .error e => sb.abandon c generation e
  | .ok ports =>
    match tcpCandidates ports with
    | [] => sb.abandon c generation (.invalidPorts (.noneDeclared pod))
    | candidates => sb.offer c generation pod candidates

def confirmSelection (sb : Switchboard) (c : ControllerId) (dialog : Nat) (selection : Selection) :
    Switchboard :=
  match sb.controllers[c]?.bind fun ctl => ctl.openSelection? dialog with
  | none => sb
  | some d =>
    let sb := sb.control c fun ctl => ctl.answerSelection dialog
    if sb.isCurrent c d.generation then
      (sb.advance c d.generation .idle).start c d.pod selection
    else sb

def cancelSelection (sb : Switchboard) (c : ControllerId) (dialog : Nat) : Switchboard :=
  match sb.controllers[c]?.bind fun ctl => ctl.openSelection? dialog with
  | none => sb
  | some d => (sb.control c fun ctl => ctl.answerSelection dialog).advance c d.generation .idle

/-- Answer the question before a deletion with yes. -/
def confirmDeletion (sb : Switchboard) (c : ControllerId) (dialog : Nat) : Switchboard :=
  match sb.controllers[c]?.bind fun ctl => ctl.openDeletion? dialog with
  | none => sb
  | some d =>
    let sb := d.sessions.foldl stopSession (sb.control c fun ctl => ctl.answerDeletion dialog)
    let sb :=
      if sb.isCurrent c d.generation then
        (sb.advance c d.generation .idle).notify c (.flow d.generation) (.info (.deleted d.pod))
      else sb
    sb.notify c (.flow d.generation) .refresh

def cancelDeletion (sb : Switchboard) (c : ControllerId) (dialog : Nat) : Switchboard :=
  match sb.controllers[c]?.bind fun ctl => ctl.openDeletion? dialog with
  | none => sb
  | some d => (sb.control c fun ctl => ctl.answerDeletion dialog).advance c d.generation .idle

end Switchboard

end PodTunnels
