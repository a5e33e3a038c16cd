import PodTunnels.Proofs.RequestedClose

/-!
# What a runner sees

A runner waits twice: for a report of readiness, and for the end of its transport. What it sees each
time decides what is said in the end. A step of a runner sees readiness, its failure, the end of the
time for it, or the end of the transport (`Sight`), and the standing of the session after the step
can be read off what was seen (`watch_stepRunner`). Along a run the sights of a runner add up
(`Switchboard.sights`).
-/

namespace PodTunnels

/-- What a runner can see in a step. -/
inductive Sight where
  /-- The transport has reported readiness. -/
  | ready
  /-- The transport has reported that it does not become ready. -/
  | unready (failure : Failure)
  /-- The time for readiness is over, and there is no report. -/
  | late
  /-- The transport has ended. -/
  | finished (outcome : Outcome)
deriving DecidableEq, Repr

/-- A move is a step of the runner of a session. -/
def Move.isStepOf (id : SessionId) : Move → Bool
  | .stepRunner id' => id' = id
  | _ => false

theorem Move.eq_of_isStepOf {id : SessionId} {m : Move} (h : m.isStepOf id = true) :
    m = .stepRunner id := by
  cases m with
  | stepRunner id' => rw [of_decide_eq_true h]
  | _ => cases h

namespace Switchboard

open Standing

variable {sb : Switchboard} {id : SessionId} {m : Move} {s : Session} {r : Runner}
  {outcome : Outcome}

/-- What the runner of a session sees when it takes a step. -/
def sight (sb : Switchboard) (s : Session) (r : Runner) : Option Sight :=
  match r.phase with
  | .waiting =>
    match sb.readiness s.transport with
    | some .success => some .ready
    | some (.failed e) => some (.unready e)
    | none => if r.readyDeadline ≤ sb.clock then some .late else none
  | .forwarding => (sb.ending s.transport).map .finished
  | .aborting .. | .ended => none

def sight? (sb : Switchboard) (id : SessionId) (m : Move) : Option Sight :=
  if m.isStepOf id then
    (sb.session? id).bind fun s => s.runner.bind fun r => sb.sight s r
  else none

def sights (sb : Switchboard) (id : SessionId) : List Move → List Sight
  | [] => []
  | m :: moves => (sb.sight? id m).toList ++ (sb.step m).sights id moves

theorem sights_concat (sb : Switchboard) (id : SessionId) (moves : List Move) (m : Move) :
    sb.sights id (moves ++ [m]) = sb.sights id moves ++ ((sb.run moves).sight? id m).toList := by
  induction moves generalizing sb with
  | nil => simp [sights, run]
  | cons first moves ih =>
    show (sb.sight? id first).toList ++ (sb.step first).sights id (moves ++ [m]) = _
    rw [ih, ← List.append_assoc]
    rfl

theorem sight?_of_session (hs : sb.session? id = some s) (hrunner : s.runner = some r) :
    sb.sight? id (.stepRunner id) = sb.sight s r := by
  simp [sight?, Move.isStepOf, hs, hrunner]

theorem sight?_of_idle (hidle : (sb.standing id).runner? = none) :
    sb.sight? id m = none := by
  unfold sight?
  split
  · cases hs : sb.session? id with
    | none => rfl
    | some s =>
      have hrunner : s.runner = none := (runner?_of_session hs).symm.trans hidle
      simp [hrunner]
  · rfl

/-! ## What a step does after what it sees -/

/-- What a step of a runner sees, and what the session comes to by it. -/
inductive Watch (sb : Switchboard) (id : SessionId) (s : Session) (r : Runner) :
    Option Sight → Standing → Prop
  | idle : Watch sb id s r none (sb.standing id)
  | ready (hphase : r.phase = .waiting) :
      Watch sb id s r (some .ready)
        (((sb.standing id).live fun l => l.enter .forwarding).queue r.controller (.activate id))
  | unready {e : Failure} {alarm : Nat} (hphase : r.phase = .waiting) :
      Watch sb id s r (some (.unready e)) ((sb.standing id).live fun l =>
        (l.requestClose.enter (.aborting (excuse s.closeRequested (.failed e)) sb.clock)).setAlarm
          alarm)
  | late {alarm : Nat} (hphase : r.phase = .waiting) :
      Watch sb id s r (some .late) ((sb.standing id).live fun l =>
        (l.requestClose.enter
          (.aborting (.failed (notReady s.key r.readySeconds)) sb.clock)).setAlarm alarm)
  | finished {outcome : Outcome} (hphase : r.phase = .forwarding) :
      Watch sb id s r (some (.finished outcome))
        (((sb.standing id).live fun l => (l.enter .ended).terminate).queue r.controller
          (.retire id (excuse s.closeRequested outcome)))
  /-- A failed start has been wound down. -/
  | down {outcome : Outcome} {since : Nat} (hphase : r.phase = .aborting outcome since) :
      Watch sb id s r none
        (((sb.standing id).live fun l => (l.enter .ended).terminate).queue r.controller
          (.retire id outcome))

theorem watch_stepRunner (hs : sb.session? id = some s) (hrunner : s.runner = some r)
    (hhears : sb.hears r.controller = true) :
    sb.Watch id s r (sb.sight s r) ((sb.stepRunner id).standing id) := by
  have hstep {sb' : Switchboard} (h : sb.stepRunner? id = some sb') : sb.stepRunner id = sb' := by
    rw [stepRunner, h]
    rfl
  have hidle (h : sb.stepRunner? id = none) : sb.stepRunner id = sb := by
    rw [stepRunner, h]
    rfl
  cases hphase : r.phase with
  | waiting =>
    cases hready : sb.readiness s.transport with
    | none =>
      by_cases hdue : r.readyDeadline ≤ sb.clock
      · have hsight : sb.sight s r = some .late := by simp [sight, hphase, hready, hdue]
        rw [hsight, hstep (by simp [stepRunner?, hs, hrunner, hphase, hready, hdue]; rfl)]
        obtain ⟨alarm, hst⟩ := exists_standing_runnerAbort
          (sb.wire s.transport Transport.stopAwaiting) id (.failed (notReady s.key r.readySeconds))
        rw [hst]
        exact .late hphase
      · have hsight : sb.sight s r = none := by simp [sight, hphase, hready, hdue]
        rw [hsight, hidle (by simp [stepRunner?, hs, hrunner, hphase, hready, hdue])]
        exact .idle
    | some report =>
      cases report with
      | success =>
        have hsight : sb.sight s r = some .ready := by simp [sight, hphase, hready]
        rw [hsight, stepRunner_of_ready hs hrunner hphase hready, standing_runnerReady hhears]
        exact .ready hphase
      | failed e =>
        have hsight : sb.sight s r = some (.unready e) := by simp [sight, hphase, hready]
        rw [hsight, hstep (by simp [stepRunner?, hs, hrunner, hphase, hready]; rfl)]
        obtain ⟨alarm, hst⟩ :=
          exists_standing_runnerAbort sb id (excuse s.closeRequested (.failed e))
        rw [hst]
        exact .unready hphase
  | forwarding =>
    cases hending : sb.ending s.transport with
    | none =>
      have hsight : sb.sight s r = none := by simp [sight, hphase, hending]
      rw [hsight, hidle (by simp [stepRunner?, hs, hrunner, hphase, hending])]
      exact .idle
    | some outcome =>
      have hsight : sb.sight s r = some (.finished outcome) := by simp [sight, hphase, hending]
      rw [hsight, hstep (by simp [stepRunner?, hs, hrunner, hphase, hending]; rfl),
        standing_runnerEnd hhears]
      exact .finished hphase
  | aborting outcome since =>
    have hsight : sb.sight s r = none := by simp [sight, hphase]
    rw [hsight]
    by_cases hdone : (sb.ending s.transport).isSome ∨ since + Runner.closeGrace ≤ sb.clock
    · rw [hstep (by
        simp only [stepRunner?, hs, hrunner, hphase, bind, Option.bind, if_pos hdone]; rfl),
        standing_runnerEnd hhears]
      exact .down hphase
    · rw [hidle (by simp only [stepRunner?, hs, hrunner, hphase, bind, Option.bind, if_neg hdone])]
      exact .idle
  | ended =>
    have hsight : sb.sight s r = none := by simp [sight, hphase]
    rw [hsight, hidle (by simp [stepRunner?, hs, hrunner, hphase])]
    exact .idle

end Switchboard

end PodTunnels
