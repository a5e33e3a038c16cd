import PodTunnels.Proofs.Uniqueness
import PodTunnels.Proofs.Within

/-!
# The affair of a start

The affair of a start is all that a switchboard holds about it: the check of its ports that is under
way, what came of it and waits for the interface, the notices about the start, and the sessions that
were made for it. A move leaves the affair of a start as it is unless it asks for that start, ends
its check, applies what came of the check, or shuts an interface down (`affair_step`).
-/

namespace PodTunnels

def Job.start? : Job → Option StartId
  | .checkPorts _ start _ _ => some start
  | .resolve .. | .readPorts .. => none

def Task.start? : Task → Option StartId
  | .checked start _ _ _ => some start
  | .resolved .. | .portsRead .. | .activate _ | .retire .. => none

/-- What a switchboard holds about one start. -/
@[ext]
structure Affair where
  /-- The checks of its ports. -/
  checks : List Job
  /-- What came of such checks and waits for the interface of a controller. -/
  verdicts : ControllerId → List Task
  told : List Notice
  /-- The sessions that were made for it, with their numbers. -/
  made : List (Wiring × SessionId)

namespace Affair

def untouched : Affair := ⟨[], fun _ => [], [], []⟩

end Affair

namespace Switchboard

variable {sb sb' sb₁ : Switchboard} {id : SessionId} {c : ControllerId} {k : StartId}
  {key : SessionKey} {m : Move}

/-- What came of checks and waits for the interface of a controller. -/
def verdicts (sb : Switchboard) (c : ControllerId) : List Task :=
  (sb.waiting c).filter Task.isVerdict

def affair (sb : Switchboard) (k : StartId) : Affair where
  checks := sb.checks.filter fun job => job.start? = some k
  verdicts c := (sb.verdicts c).filter fun task => task.start? = some k
  told := sb.toldStart k
  made := sb.made k

/-! ## Changes that do not show -/

theorem verdicts_of_controller {ctl : Controller} (hctl : sb.controllers[c]? = some ctl) :
    sb.verdicts c = ctl.verdicts := by
  simp [verdicts, waiting, queue?, hctl, Controller.verdicts]

theorem verdicts_of_none (hctl : sb.controllers[c]? = none) : sb.verdicts c = [] := by
  simp [verdicts, waiting, queue?, hctl]

theorem Aside.verdicts (h : sb.Aside sb') : sb'.verdicts = sb.verdicts := by
  funext c
  rcases h.controller_cases c with ⟨ctl, ctl', hctl, hctl', haside⟩ | ⟨hctl, hctl'⟩
  · rw [verdicts_of_controller hctl, verdicts_of_controller hctl', haside.verdicts]
  · rw [verdicts_of_none hctl, verdicts_of_none hctl']

theorem Aside.hears (h : sb.Aside sb') : sb'.hears = sb.hears := by
  funext c
  rcases h.controller_cases c with ⟨ctl, ctl', hctl, hctl', haside⟩ | ⟨hctl, hctl'⟩
  · simp [Switchboard.hears, hctl, hctl', haside.isOpen]
  · simp [Switchboard.hears, hctl, hctl']

theorem Aside.affair (h : sb.Aside sb') (k : StartId) : sb'.affair k = sb.affair k := by
  simp only [Switchboard.affair, h.checks, h.verdicts, h.told, h.made]

/-- When a session is opened for a start, that shows by what is made at most. -/
theorem Within.affair_eq (h : Within k sb sb') (k' : StartId) :
    sb'.affair k' = { sb.affair k' with made := sb'.made k' } := by
  simp only [Switchboard.affair, checks, Switchboard.verdicts, waiting, queue?, h.controllers,
    h.jobs, h.told]

/-- No other start sees it. -/
theorem Within.affair {k' : StartId} (h : Within k sb sb') (hk : k' ≠ k) :
    sb'.affair k' = sb.affair k' := by
  rw [h.affair_eq, h.made k' hk]
  rfl

theorem hears_closeInterface (sb : Switchboard) (c : ControllerId) :
    (sb.step (.closeInterface c)).hears c = false := by
  cases hctl : sb.controllers[c]? <;>
    simp [step, Switchboard.hears, control, hctl, UiQueue.close]

theorem queue?_control_of {f : Controller → Controller} (hf : ∀ ctl, (f ctl).queue = ctl.queue) :
    (sb.control c f).queue? = sb.queue? := by
  funext c'
  rw [queue?_control]
  split
  · rename_i hc
    subst hc
    simp only [queue?, hf]
  · rfl

/-- A change of a controller that leaves its queue alone does not show. -/
theorem affair_control {f : Controller → Controller} (hf : ∀ ctl, (f ctl).queue = ctl.queue) :
    (sb.control c f).affair k = sb.affair k := by
  simp only [affair, verdicts, waiting, queue?_control_of hf]
  rfl

theorem affair_release (sb : Switchboard) (c : ControllerId) (key : SessionKey) (k : StartId) :
    (sb.control c fun ctl => ctl.release key).affair k = sb.affair k :=
  affair_control fun _ => rfl

theorem affair_notify_of_ne {about : Subject} (habout : about ≠ .start k) (effect : Effect) :
    (sb.notify c about effect).affair k = sb.affair k := by
  refine Affair.ext rfl rfl ?_ rfl
  simp [affair, toldStart, notify, habout]

theorem affair_spawn_of_ne {job : Job} (hjob : job.start? ≠ some k) :
    (sb.spawn job).affair k = sb.affair k := by
  refine Affair.ext ?_ rfl rfl rfl
  cases hcheck : job.isCheck <;> simp [affair, checks, spawn, hcheck, hjob]

theorem affair_reportStart_of_ne {k' : StartId} (hk : k' ≠ k) (result : Except Failure Unit) :
    (sb.reportStart c k' result).affair k = sb.affair k := by
  cases result with
  | error e => exact affair_notify_of_ne (by simpa using hk) _
  | ok _ => rfl

/-! ## Asking for a start -/

theorem start_of_none (hctl : sb.controllers[c]? = none) (pod : ResourcePath)
    (selection : Selection) : sb.start c pod selection = sb := by
  simp only [start, hctl]

/-- Under a free key a start is claimed, and its ports are to be checked. -/
theorem start_of_free {ctl : Controller} {pod : ResourcePath} {selection : Selection}
    (hctl : sb.controllers[c]? = some ctl)
    (hfree : sb.isTaken ctl ⟨pod, selection.container⟩ = false) :
    sb.start c pod selection =
      ({ sb with startCount := sb.startCount + 1 }.control c fun ctl =>
        ctl.claim ⟨pod, selection.container⟩ sb.startCount).spawn
          (.checkPorts c sb.startCount ⟨pod, selection.container⟩ selection) := by
  simp only [start, hctl, hfree, Bool.false_eq_true, if_false]

/-- Other starts see nothing of it. -/
theorem affair_start_of_ne (hk : sb.startCount ≠ k) (pod : ResourcePath) (selection : Selection) :
    (sb.start c pod selection).affair k = sb.affair k := by
  cases hctl : sb.controllers[c]? with
  | none => rw [start_of_none hctl]
  | some ctl =>
    cases htaken : sb.isTaken ctl ⟨pod, selection.container⟩ with
    | true =>
      rw [start_of_taken hctl htaken]
      exact affair_notify_of_ne (by simpa using hk) _
    | false =>
      rw [start_of_free hctl htaken]
      have hclaimed : ({ sb with startCount := sb.startCount + 1 }.control c fun ctl =>
          ctl.claim ⟨pod, selection.container⟩ sb.startCount).affair k = sb.affair k :=
        affair_control (f := fun ctl => ctl.claim _ _) fun _ => rfl
      exact (affair_spawn_of_ne (by simpa [Job.start?] using hk)).trans hclaimed

/-! ## The end of a check -/

theorem finishJob_of_check {place : Nat} {selection : Selection}
    (hplace : sb.jobs[place]? = some (.checkPorts c k key selection)) :
    sb.finishJob place =
      { sb with jobs := sb.jobs.eraseIdx place }.post c
        (.checked k key selection (checkTunnels sb.surroundings.held selection.tunnels)) := by
  simp only [finishJob, hplace, runJob]

theorem verdicts_post (sb : Switchboard) (c : ControllerId) (task : Task)
    (htask : task.isVerdict = true) (c' : ControllerId) :
    (sb.post c task).verdicts c' =
      if c' = c ∧ sb.hears c = true then sb.verdicts c ++ [task] else sb.verdicts c' := by
  rw [verdicts, waiting_post]
  split <;> simp [verdicts, htask]

theorem affair_finishJob_of_ne {place : Nat} {selection : Selection} {k' : StartId}
    (hplace : sb.jobs[place]? = some (.checkPorts c k' key selection)) (hk : k' ≠ k) :
    (sb.finishJob place).affair k = sb.affair k := by
  obtain ⟨as, bs, hjobs, herased⟩ := exists_eraseIdx hplace
  rw [finishJob_of_check hplace]
  refine Affair.ext ?_ (funext fun c' => ?_) rfl rfl
  · change ((sb.jobs.eraseIdx place).filter Job.isCheck).filter _ =
      (sb.jobs.filter Job.isCheck).filter _
    rw [herased, hjobs]
    simp [Job.isCheck, Job.start?, hk]
  · simp only [affair, verdicts_post _ c (.checked k' key selection _) rfl]
    split
    · rename_i hc
      rw [hc.1]
      simp [Task.start?, hk, verdicts, waiting, queue?]
    · rfl

/-! ## What came of a check -/

theorem verdicts_popTask {task : Task} {rest : List Task} (hwaiting : sb.waiting c = task :: rest)
    (htask : task.isVerdict = true) (c' : ControllerId) :
    (sb.popTask c).verdicts c' = if c' = c then (sb.verdicts c).tail else sb.verdicts c' := by
  rw [verdicts, waiting_popTask]
  split
  · simp [verdicts, hwaiting, htask]
  · rfl

theorem verdicts_of_waiting {task : Task} {rest : List Task}
    (hwaiting : sb.waiting c = task :: rest) (htask : task.isVerdict = true) :
    sb.verdicts c = task :: rest.filter Task.isVerdict := by
  rw [verdicts, hwaiting]
  simp [htask]

theorem affair_popTask_of_ne {selection : Selection} {result : Except Failure Unit}
    {rest : List Task} {k' : StartId}
    (hwaiting : sb.waiting c = .checked k' key selection result :: rest) (hk : k' ≠ k) :
    (sb.popTask c).affair k = sb.affair k := by
  refine Affair.ext rfl (funext fun c' => ?_) rfl rfl
  simp only [affair, verdicts_popTask hwaiting rfl]
  split
  · rename_i hc
    rw [hc]
    rw [verdicts_of_waiting hwaiting rfl]
    simp [Task.start?, hk]
  · rfl

/-! ## Making a session -/

/-- Why a start fails, given the plans of transports. -/
inductive Grounds (plans : List Plan) (key : SessionKey) (tunnels : List Tunnel) : Failure → Prop
  /-- Its key is claimed or held by a live session. -/
  | taken : Grounds plans key tunnels (.duplicateSession key)
  /-- One of its local ports is held. -/
  | port {held : List LocalEnd} {e : Failure} (hcheck : checkTunnels held tunnels = .error e) :
      Grounds plans key tunnels e
  /-- The transport cannot be opened. -/
  | unopened {plan : Plan} {e : Failure} (hplan : plan ∈ plans) (hopen : plan.openFailure = some e) :
      Grounds plans key tunnels e
  /-- There is nothing to be tunnelled, and the transport refuses that. -/
  | empty (htunnels : tunnels = []) : Grounds plans key tunnels (.invalidPorts .noMapping)

/-- Where transports without tunnels are refused, a transport that is opened has tunnels. -/
theorem openTransport_grounds (hrefuses : sb.surroundings.refusesEmpty = true)
    (key : SessionKey) (tunnels : List Tunnel) :
    (∃ e, sb.openTransport key tunnels = (.error e, sb.attempt) ∧
      Grounds sb.surroundings.plans key tunnels e) ∨
    tunnels ≠ [] ∧ sb.openTransport key tunnels =
      (.ok (sb.atOpening key).transports.length,
        ((sb.atOpening key).connect
          { key, tunnels, occasion := .start, plan := sb.nextPlan }).2) := by
  simp only [openTransport, hrefuses, true_and]
  split
  · rename_i hempty
    exact .inl ⟨_, rfl, .empty hempty⟩
  · rename_i htunnels
    split
    · rename_i e hopen
      refine .inl ⟨e, rfl, ?_⟩
      cases hplan : sb.surroundings.plans[sb.attempts]? with
      | none =>
        rw [nextPlan, hplan] at hopen
        cases hopen
      | some plan =>
        rw [nextPlan, hplan] at hopen
        exact .unopened (List.mem_of_getElem? hplan) hopen
    · exact .inr ⟨htunnels, rfl⟩

theorem aside_atOpening (sb : Switchboard) (key : SessionKey) : sb.Aside (sb.atOpening key) := by
  unfold atOpening
  split
  · exact (Aside.of_apart (.attempt sb)).trans (.registerRival ..)
  · exact .of_apart (.attempt sb)

/-- A session is made for a start on a transport that is opened for it, and the rest is aside. -/
def Makes (sb sb' : Switchboard) (w : Wiring) (id : SessionId) : Prop :=
  ∃ found t, sb.Aside found ∧ t.occasion = .start ∧ w.transport = found.transports.length ∧
    id = found.registry.roster.length ∧ ((found.connect t).2.enroll w).2.Apart sb'

namespace Makes

variable {w : Wiring}

theorem made (h : sb.Makes sb' w id) (k : StartId) :
    sb'.made k = sb.made k ++ if w.start = some k then [(w, id)] else [] := by
  obtain ⟨found, t, haside, -, -, rfl, hapart⟩ := h
  rw [Switchboard.made, hapart.wirings, ← haside.made]
  split <;> rename_i hk <;>
    simp [Switchboard.made, wirings, enroll, Registry.enroll, connect, Session.ofWiring,
      List.zipIdx_append, hk]

theorem opened (h : sb.Makes sb' w id) : sb'.opened = sb.opened ++ [w.transport] := by
  obtain ⟨found, t, haside, ht, hw, -, hapart⟩ := h
  rw [Switchboard.opened, hapart.occasions, ← haside.opened]
  simp [Switchboard.opened, occasions, enroll, connect, List.zipIdx_append, ht, hw]

theorem affair (h : sb.Makes sb' w id) (k : StartId) :
    sb'.affair k =
      { sb.affair k with
        made := (sb.affair k).made ++ if w.start = some k then [(w, id)] else [] } := by
  have hmade := h.made k
  obtain ⟨found, t, haside, -, -, -, hapart⟩ := h
  have hrest : sb'.affair k = { sb.affair k with made := sb'.made k } := by
    refine .trans ?_ (congrArg (fun a : Affair => { a with made := sb'.made k }) (haside.affair k))
    simp only [Switchboard.affair, checks, verdicts, waiting, queue?, hapart.controllers,
      hapart.jobs, hapart.told]
    rfl
  rw [hrest, hmade]
  rfl

theorem startCount (h : sb.Makes sb' w id) : sb'.startCount = sb.startCount := by
  obtain ⟨found, t, haside, -, -, -, hapart⟩ := h
  exact hapart.startCount.trans haside.startCount

theorem closings (h : sb.Makes sb' w id) : sb.closings <+: sb'.closings := by
  obtain ⟨found, t, haside, -, -, -, hapart⟩ := h
  exact haside.closings.trans hapart.closings

end Makes

/-- A session is new and registered, its close was not asked for, and a runner for a controller
waits for readiness. -/
def Launched (sb : Switchboard) (c : ControllerId) (w : Wiring) (id : SessionId) : Prop :=
  sb.registry.isRegistered id = true ∧ ∃ r : Runner, r.controller = c ∧ r.phase = .waiting ∧
    sb.session? id = some { toWiring := w, toLife := { runner := some r } }

/-- What is left of the session of a start that came too late. -/
def Forsaken (sb : Switchboard) (w : Wiring) (id : SessionId) : Prop :=
  sb.registry.isRegistered id = false ∧ w.transport ∈ sb.closings ∧
    ∃ s, sb.session? id = some s ∧ s.runner = none

/-- A session that finds its key free is launched, and one that does not is given up. -/
theorem register_cases (wf : sb.registry.WellFormed) {ctl : Controller}
    (hctl : sb.controllers[c]? = some ctl) (w : Wiring) :
    (sb.enroll w).2.Apart (sb.register c w).2 ∧
      ((sb.register c w).1 = .ok () ∧
          (sb.register c w).2.Launched c w sb.registry.roster.length ∨
        (sb.register c w).1 = .error (.duplicateSession w.key) ∧
          (sb.register c w).2.Forsaken w sb.registry.roster.length) := by
  cases hlookup : sb.registry.lookup w.key with
  | none =>
    rw [register_of_lookup_none wf c hlookup]
    have hinstall : (sb.enroll w).2.Apart (sb.install w) := .registry _ rfl
    refine ⟨hinstall.trans (.launchRunner _ c _), .inl ⟨rfl, ?_⟩⟩
    have hctl' : (sb.install w).controllers[c]? = some ctl := hctl
    have hst := standing_launchRunner hctl' sb.registry.roster.length sb.registry.roster.length
    rw [if_pos rfl, standing_install wf, if_pos rfl] at hst
    exact ⟨congrArg Standing.registered hst, _, rfl, rfl, congrArg Standing.session hst⟩
  | some holder =>
    have hst := standing_register_of_lookup_some wf c hlookup sb.registry.roster.length
    rw [if_pos rfl] at hst
    have hnone : sb.session? sb.registry.roster.length = none := Registry.session?_length
    have hnew : (sb.enroll w).2.session? sb.registry.roster.length = some (.ofWiring w) := by
      simp [enroll, session?, Registry.session?_enroll]
    have hclosings : w.transport ∈ (sb.register c w).2.closings := by
      rw [register_of_lookup_some wf c hlookup, closeSession_of_not_requested hnew rfl]
      exact List.mem_append_right _ (List.mem_singleton.2 rfl)
    refine ⟨?_, .inr ⟨?_, ?_, hclosings, _, congrArg Standing.session hst, rfl⟩⟩
    · rw [register_of_lookup_some wf c hlookup]
      exact (Apart.closeSession ..).trans (.wire_drop ..)
    · rw [register_of_lookup_some wf c hlookup]
    · exact (congrArg Standing.registered hst).trans
        (Registry.isRegistered_eq_false_of_none hnone)

/-- What becomes of a start that comes to open its session: it fails before a session is made, or a
session is made for it and launched, or given up. -/
theorem openSession_cases (wf : sb.registry.WellFormed)
    (hrefuses : sb.surroundings.refusesEmpty = true) {ctl : Controller}
    (hctl : sb.controllers[c]? = some ctl) (k : StartId) (key : SessionKey)
    (tunnels : List Tunnel) :
    (∃ e, (sb.openSession c k key tunnels).1 = .error e ∧
      sb.Aside (sb.openSession c k key tunnels).2 ∧ Grounds sb.surroundings.plans key tunnels e) ∨
    ∃ w id, w.start = some k ∧ w.key = key ∧ w.tunnels = tunnels ∧
      sb.Makes (sb.openSession c k key tunnels).2 w id ∧
      ((sb.openSession c k key tunnels).1 = .ok () ∧
          (sb.openSession c k key tunnels).2.Launched c w id ∨
        (sb.openSession c k key tunnels).1 = .error (.duplicateSession key) ∧
          (sb.openSession c k key tunnels).2.Forsaken w id) := by
  cases hfree : sb.registry.lookup key with
  | some holder =>
    simp only [openSession, hfree]
    exact .inl ⟨_, rfl, .refl sb, .taken⟩
  | none =>
    simp only [openSession, hfree]
    rcases openTransport_grounds hrefuses key tunnels with ⟨e, he, hgrounds⟩ | ⟨htunnels, hok⟩
    · rw [he]
      exact .inl ⟨e, rfl, .of_apart (.attempt sb), hgrounds⟩
    · rw [hok]
      simp only [dif_neg htunnels]
      let found := sb.atOpening key
      let t : Transport := { key, tunnels, occasion := .start, plan := sb.nextPlan }
      let w : Wiring := ⟨key, tunnels, htunnels, found.transports.length, some k⟩
      have wf' : (found.connect t).2.registry.WellFormed := wellFormed_atOpening wf hfree
      have haside := aside_atOpening sb key
      obtain ⟨ctl', hctl', -⟩ := haside.controller c ctl hctl
      have hctl'' : (found.connect t).2.controllers[c]? = some ctl' := hctl'
      obtain ⟨hapart, hcases⟩ := register_cases wf' hctl'' w
      exact .inr ⟨w, _, rfl, rfl, rfl, ⟨found, t, haside, rfl, rfl, rfl, hapart⟩, hcases⟩

/-! ## The end of a start -/

section Verdict

variable {selection : Selection} {result : Except Failure Unit} {rest : List Task}

/-- A start whose check failed is given up. -/
theorem step_of_checked_error {e : Failure}
    (hwaiting : sb.waiting c = .checked k key selection (.error e) :: rest) :
    sb.step (.applyTask c) =
      ((sb.popTask c).control c fun ctl => ctl.release key).reportStart c k (.error e) := by
  rw [step, applyTask_of_cons hwaiting]
  rfl

/-- A start whose check went well opens its session. -/
theorem step_of_checked_ok (hwaiting : sb.waiting c = .checked k key selection (.ok ()) :: rest) :
    sb.step (.applyTask c) =
      (((sb.popTask c).openSession c k key selection.tunnels).2.control c fun ctl =>
        ctl.release key).reportStart c k
          ((sb.popTask c).openSession c k key selection.tunnels).1 := by
  rw [step, applyTask_of_cons hwaiting]
  rfl

/-- What becomes of a start when what came of its check is applied: it is given up, or its session
is opened or not. -/
def outcome (sb : Switchboard) (c : ControllerId) (k : StartId) (key : SessionKey)
    (selection : Selection) : Except Failure Unit → Except Failure Unit
  | .error e => .error e
  | .ok _ => ((sb.popTask c).openSession c k key selection.tunnels).1

/-- When what came of a check is applied, something may happen within its start. Then its claim is
released, and a failure is told. -/
theorem verdict_within (hwaiting : sb.waiting c = .checked k key selection result :: rest) :
    ∃ sb', sb.step (.applyTask c) =
        (sb'.control c fun ctl => ctl.release key).reportStart c k
          (sb.outcome c k key selection result) ∧
      Within k (sb.popTask c) sb' := by
  cases result with
  | error e => exact ⟨_, step_of_checked_error hwaiting, .refl _⟩
  | ok _ => exact ⟨_, step_of_checked_ok hwaiting, .openSession ..⟩

/-- How the interface applies what came of a check: the start fails before a session is made, or a
session is made for it and launched, or given up. Then its claim is released, and a failure is
told. -/
theorem verdict_cases (wf : sb.registry.WellFormed)
    (hrefuses : sb.surroundings.refusesEmpty = true)
    (hwaiting : sb.waiting c = .checked k key selection result :: rest) :
    ∃ result' sb', sb.step (.applyTask c) =
        (sb'.control c fun ctl => ctl.release key).reportStart c k result' ∧
      ((∃ e, result' = .error e ∧ (sb.popTask c).Aside sb' ∧
          (result = .error e ∨ Grounds sb.surroundings.plans key selection.tunnels e)) ∨
        ∃ w id, w.start = some k ∧ w.key = key ∧ w.tunnels = selection.tunnels ∧
          (sb.popTask c).Makes sb' w id ∧
          (result' = .ok () ∧ sb'.Launched c w id ∨
            result' = .error (.duplicateSession key) ∧ sb'.Forsaken w id)) := by
  obtain ⟨ctl, hctl, -⟩ := exists_controller_of_waiting hwaiting
  have hctl' : (sb.popTask c).controllers[c]? =
      some { ctl with queue := { ctl.queue with waiting := ctl.queue.waiting.tail } } := by
    simp [popTask, control, hctl]
  cases result with
  | error e => exact ⟨_, _, step_of_checked_error hwaiting, .inl ⟨e, rfl, .refl _, .inl rfl⟩⟩
  | ok _ =>
    refine ⟨_, _, step_of_checked_ok hwaiting, ?_⟩
    have wf' : (sb.popTask c).registry.WellFormed := wf
    rcases openSession_cases wf' hrefuses hctl' k key selection.tunnels with
      ⟨e, he, haside, hgrounds⟩ | hmade
    · exact .inl ⟨e, he, haside, .inr hgrounds⟩
    · exact .inr hmade

theorem affair_popTask (hwaiting : sb.waiting c = .checked k key selection result :: rest) :
    (sb.popTask c).affair k =
      { sb.affair k with
        verdicts := Function.update (sb.affair k).verdicts c ((sb.affair k).verdicts c).tail } := by
  refine Affair.ext rfl (funext fun c' => ?_) rfl rfl
  simp only [affair, verdicts_popTask hwaiting rfl, Function.update_apply]
  split
  · rw [verdicts_of_waiting hwaiting rfl]
    simp [Task.start?]
  · rfl

/-- Other starts see nothing of it. -/
theorem affair_verdict_of_ne {k' : StartId}
    (hwaiting : sb.waiting c = .checked k' key selection result :: rest) (hk : k' ≠ k) :
    (sb.step (.applyTask c)).affair k = sb.affair k := by
  have hpop := affair_popTask_of_ne hwaiting hk
  obtain ⟨sb', hstep, hwithin⟩ := verdict_within hwaiting
  rw [hstep, affair_reportStart_of_ne hk, affair_release, ← hpop]
  exact hwithin.affair (Ne.symm hk)

/-- No start is counted by it. -/
theorem startCount_verdict (hwaiting : sb.waiting c = .checked k key selection result :: rest) :
    (sb.step (.applyTask c)).startCount = sb.startCount := by
  obtain ⟨sb', hstep, hwithin⟩ := verdict_within hwaiting
  rw [hstep]
  cases sb.outcome c k key selection result <;> exact hwithin.startCount

end Verdict

/-! ## What lasts -/

/-- What no move takes back: the ways of transports, the starts that were counted, and the closes
that were asked for. -/
structure Lasts (sb sb' : Switchboard) : Prop where
  refusesEmpty : sb'.surroundings.refusesEmpty = sb.surroundings.refusesEmpty
  plans : sb'.surroundings.plans = sb.surroundings.plans
  startCount : sb.startCount ≤ sb'.startCount
  closings : sb.closings <+: sb'.closings

/-- A change elsewhere. -/
theorem Lasts.of_eq (hsurroundings : sb'.surroundings = sb.surroundings)
    (hstartCount : sb.startCount ≤ sb'.startCount) (hclosings : sb'.closings = sb.closings) :
    sb.Lasts sb' :=
  ⟨by rw [hsurroundings], by rw [hsurroundings], hstartCount, hclosings ▸ List.prefix_refl _⟩

theorem Lasts.refl (sb : Switchboard) : sb.Lasts sb :=
  .of_eq rfl (Nat.le_refl _) rfl

theorem Lasts.trans {sb'' : Switchboard} (h : sb.Lasts sb') (h' : sb'.Lasts sb'') :
    sb.Lasts sb'' :=
  ⟨h'.refusesEmpty.trans h.refusesEmpty, h'.plans.trans h.plans,
    Nat.le_trans h.startCount h'.startCount, h.closings.trans h'.closings⟩

theorem Aside.lasts (h : sb.Aside sb') : sb.Lasts sb' :=
  ⟨h.refusesEmpty, h.plans, Nat.le_of_eq h.startCount.symm, h.closings⟩

theorem Makes.lasts {w : Wiring} (h : sb.Makes sb' w id) : sb.Lasts sb' := by
  have hstartCount := Nat.le_of_eq h.startCount.symm
  have hclosings := h.closings
  obtain ⟨found, t, haside, -, -, -, hapart⟩ := h
  exact ⟨hapart.refusesEmpty.trans haside.refusesEmpty, hapart.plans.trans haside.plans,
    hstartCount, hclosings⟩

theorem lasts_reportStart (sb : Switchboard) (c : ControllerId) (k : StartId)
    (result : Except Failure Unit) : sb.Lasts (sb.reportStart c k result) := by
  cases result <;> exact .of_eq rfl (Nat.le_refl _) rfl

theorem lasts_start (sb : Switchboard) (c : ControllerId) (pod : ResourcePath)
    (selection : Selection) : sb.Lasts (sb.start c pod selection) := by
  cases hctl : sb.controllers[c]? with
  | none =>
    rw [start_of_none hctl]
    exact .refl sb
  | some ctl =>
    cases htaken : sb.isTaken ctl ⟨pod, selection.container⟩ with
    | true =>
      rw [start_of_taken hctl htaken]
      exact .of_eq rfl (Nat.le_succ _) rfl
    | false =>
      rw [start_of_free hctl htaken]
      exact .of_eq rfl (Nat.le_succ _) rfl

/-- No start is counted twice. -/
theorem startCount_step (wf : sb.registry.WellFormed) (m : Move) :
    sb.startCount ≤ (sb.step m).startCount := by
  rcases aside_step wf m with haside | hconcerns
  · exact Nat.le_of_eq haside.startCount.symm
  · cases hconcerns with
    | start haside hstep =>
      rw [hstep, ← haside.startCount]
      exact (lasts_start ..).startCount
    | check hplace =>
      rw [step, finishJob_of_check hplace]
      exact Nat.le_refl _
    | verdict hwaiting => exact Nat.le_of_eq (startCount_verdict hwaiting).symm
    | shut => exact Nat.le_refl _

theorem lasts_step (wf : sb.registry.WellFormed) (hrefuses : sb.surroundings.refusesEmpty = true)
    (m : Move) : sb.Lasts (sb.step m) := by
  rcases aside_step wf m with haside | hconcerns
  · exact haside.lasts
  · cases hconcerns with
    | start haside hstep =>
      rw [hstep]
      exact haside.lasts.trans (lasts_start ..)
    | check hplace =>
      rw [step, finishJob_of_check hplace]
      exact .of_eq rfl (Nat.le_refl _) rfl
    | @verdict c k key selection result rest hwaiting =>
      obtain ⟨result', sb', hstep, hcases⟩ := verdict_cases wf hrefuses hwaiting
      have hpop : sb.Lasts (sb.popTask c) := .of_eq rfl (Nat.le_refl _) rfl
      have hopen : (sb.popTask c).Lasts sb' := by
        rcases hcases with ⟨e, -, haside, -⟩ | ⟨w, id, -, -, -, hmakes, -⟩
        · exact haside.lasts
        · exact hmakes.lasts
      have hrelease : sb'.Lasts (sb'.control c fun ctl => ctl.release key) :=
        .of_eq rfl (Nat.le_refl _) rfl
      rw [hstep]
      exact hpop.trans (hopen.trans (hrelease.trans (lasts_reportStart ..)))
    | shut => exact .of_eq rfl (Nat.le_refl _) rfl

/-- What holds at first, and is kept by every move where transports without tunnels are refused,
holds along every run of such a kind. -/
theorem strict_run {P : Switchboard → Prop} {surroundings : Surroundings}
    (controllers : List (String × Nat)) (hrefuses : surroundings.refusesEmpty = true)
    (hinitial : P (initial surroundings controllers))
    (hstep : ∀ sb : Switchboard, sb.Sound → sb.surroundings.refusesEmpty = true → P sb →
      ∀ m, P (sb.step m)) (moves : List Move) :
    P ((initial surroundings controllers).run moves) := by
  have hsound := sound_initial surroundings controllers
  refine (hsound.run_induction (P := fun sb => P sb ∧ sb.surroundings.refusesEmpty = true)
    ⟨hinitial, hrefuses⟩ (fun sb hsound h m => ?_) moves).1
  exact ⟨hstep sb hsound h.2 h.1 m,
    (lasts_step hsound.wellFormed h.2 m).refusesEmpty.trans h.2⟩

theorem lasts_run {surroundings : Surroundings} (controllers : List (String × Nat))
    (hrefuses : surroundings.refusesEmpty = true) (moves : List Move) :
    (initial surroundings controllers).Lasts ((initial surroundings controllers).run moves) :=
  strict_run controllers hrefuses (.refl _)
    (fun _ hsound hrefuses h m => h.trans (lasts_step hsound.wellFormed hrefuses m)) moves

/-! ## Moves -/

/-- A move has to do with a start: it asks for it, ends its check, applies what came of that, or
shuts an interface down. -/
inductive Advances (sb : Switchboard) (k : StartId) : Move → Prop
  | asked {m : Move} {sb₁ : Switchboard} {c : ControllerId} {pod : ResourcePath}
      {selection : Selection} (haside : sb.Aside sb₁)
      (hstep : sb.step m = sb₁.start c pod selection) (hk : sb₁.startCount = k) : Advances sb k m
  | check {place : Nat} {c : ControllerId} {key : SessionKey} {selection : Selection}
      (hplace : sb.jobs[place]? = some (.checkPorts c k key selection)) :
      Advances sb k (.finishJob place)
  | verdict {c : ControllerId} {key : SessionKey} {selection : Selection}
      {result : Except Failure Unit} {rest : List Task}
      (hwaiting : sb.waiting c = .checked k key selection result :: rest) :
      Advances sb k (.applyTask c)
  | shut {c : ControllerId} : Advances sb k (.closeInterface c)

/-- Every other move leaves the affair of the start as it is. -/
theorem affair_step (wf : sb.registry.WellFormed) (m : Move) (k : StartId) :
    (sb.step m).affair k = sb.affair k ∨ sb.Advances k m := by
  rcases aside_step wf m with haside | hconcerns
  · exact .inl (haside.affair k)
  · cases hconcerns with
    | @start _ sb₁ c pod selection haside hstep =>
      by_cases hk : sb₁.startCount = k
      · exact .inr (.asked haside hstep hk)
      · rw [hstep, affair_start_of_ne hk, haside.affair]
        exact .inl rfl
    | @check place c k' key selection hplace =>
      by_cases hk : k' = k
      · exact .inr (.check (hk ▸ hplace))
      · exact .inl (affair_finishJob_of_ne hplace hk)
    | @verdict c k' key selection result rest hwaiting =>
      by_cases hk : k' = k
      · exact .inr (.verdict (hk ▸ hwaiting))
      · exact .inl (affair_verdict_of_ne hwaiting hk)
    | shut => exact .inr .shut

end Switchboard

end PodTunnels
