import PodTunnels.Proofs.Registry
import PodTunnels.Switchboard.Move
import Mathlib.Logic.Function.Basic

/-!
# Where a session stands

The standing of a session is all that a switchboard holds about it: the session itself, whether it
is registered, the tasks about it that wait in the queue of each controller, which interfaces still
take tasks, and the notices that were given about it.

Operations of the switchboard are followed through this view. Dialog flows and starts that come to
nothing do not show in it at all; an operation on a session shows in the standing of that session
only. So what a move does can be stated for one session at a time.
-/

namespace PodTunnels

/-- The session that a task is about. Tasks of flows and of starts are about none. -/
def Task.session? : Task → Option SessionId
  | .activate id => some id
  | .retire id _ => some id
  | .resolved .. | .portsRead .. | .checked .. => none

/-- What a switchboard holds about one session. -/
@[ext]
structure Standing where
  session : Option Session
  registered : Bool
  /-- The controllers whose interfaces take tasks. -/
  hears : ControllerId → Bool
  /-- The tasks about the session that wait, in order. -/
  errands : ControllerId → List Task
  /-- The notices about the session, in order. -/
  told : List Notice

namespace Standing

def live (st : Standing) (f : Life → Life) : Standing :=
  { st with session := st.session.map (·.live f) }

def register (st : Standing) (registered : Bool) : Standing :=
  { st with registered }

/-- The interface of a controller is gone. -/
def shut (st : Standing) (c : ControllerId) : Standing :=
  { st with hears := Function.update st.hears c false, errands := Function.update st.errands c [] }

def queue (st : Standing) (c : ControllerId) (task : Task) : Standing :=
  { st with errands := Function.update st.errands c (st.errands c ++ [task]) }

def pop (st : Standing) (c : ControllerId) : Standing :=
  { st with errands := Function.update st.errands c (st.errands c).tail }

def tell (st : Standing) (notices : List Notice) : Standing :=
  { st with told := st.told ++ notices }

def quit (st : Standing) : Standing :=
  ((st.register false).live Life.deactivate).live Life.requestClose

def cleanUp (st : Standing) : Standing :=
  if (st.session.any fun s => !s.retired) = true then (st.register false).live Life.retire else st

theorem live_live (st : Standing) (f g : Life → Life) :
    (st.live f).live g = st.live fun l => g (f l) := by
  cases h : st.session <;> simp [live, h, Session.live]

theorem quit_quit (st : Standing) : st.quit.quit = st.quit := by
  cases h : st.session <;>
    simp [quit, live, register, h, Session.live, Life.deactivate, Life.requestClose]

theorem requestClose_requestClose (st : Standing) :
    (st.live Life.requestClose).live Life.requestClose = st.live Life.requestClose := by
  rw [live_live]
  rfl

end Standing

namespace Switchboard

variable {sb sb' : Switchboard} {id id' : SessionId} {c c' : ControllerId} {s : Session}

/-! ## The view -/

def queue? (sb : Switchboard) (c : ControllerId) : Option (UiQueue Task) :=
  sb.controllers[c]?.map Controller.queue

/-- The tasks that wait for the interface of a controller. -/
def waiting (sb : Switchboard) (c : ControllerId) : List Task :=
  ((sb.queue? c).map UiQueue.waiting).getD []

def errands (sb : Switchboard) (id : SessionId) (c : ControllerId) : List Task :=
  (sb.waiting c).filter fun task => task.session? = some id

def told (sb : Switchboard) (id : SessionId) : List Notice :=
  sb.notices.filter fun notice => notice.about = .session id

def standing (sb : Switchboard) (id : SessionId) : Standing where
  session := sb.session? id
  registered := sb.registry.isRegistered id
  hears := sb.hears
  errands := sb.errands id
  told := sb.told id

theorem hears_eq (sb : Switchboard) (c : ControllerId) :
    sb.hears c = (sb.queue? c).any UiQueue.isOpen := by
  cases h : sb.controllers[c]? <;> simp [hears, queue?, h]

/-- A standing is determined by the registry, the queues and the notices about the session. -/
theorem standing_congr (hreg : sb'.registry = sb.registry) (hqueue : sb'.queue? = sb.queue?)
    (htold : sb'.told id = sb.told id) : sb'.standing id = sb.standing id := by
  have hhears : sb'.hears = sb.hears := by
    funext c
    rw [hears_eq, hears_eq, hqueue]
  have herrands : sb'.errands id = sb.errands id := by
    funext c
    simp only [errands, waiting, hqueue]
  simp only [standing, session?, htold, hreg, hhears, herrands]

theorem queue?_control (sb : Switchboard) (c : ControllerId) (f : Controller → Controller)
    (c' : ControllerId) :
    (sb.control c f).queue? c' =
      if c' = c then sb.controllers[c]?.map fun ctl => (f ctl).queue else sb.queue? c' := by
  simp only [queue?, control, List.getElem?_modify]
  by_cases h : c' = c
  · subst h
    simp [Function.comp_def]
  · simp [h, Ne.symm h]

/-! ## What does not show -/

section Hidden

variable (sb : Switchboard) (id : SessionId) (c : ControllerId)

/-- A change of a controller that leaves its queue alone does not show. -/
theorem standing_control {f : Controller → Controller} (hf : ∀ ctl, (f ctl).queue = ctl.queue) :
    (sb.control c f).standing id = sb.standing id := by
  have hqueue : (sb.control c f).queue? = sb.queue? := by
    funext c'
    rw [queue?_control]
    split
    · rename_i h
      subst h
      simp only [queue?, hf]
    · rfl
  exact standing_congr rfl hqueue rfl

@[simp] theorem standing_advance (generation : Nat) (stage : Stage) :
    (sb.advance c generation stage).standing id = sb.standing id :=
  standing_control sb id c fun ctl => by
    simp only [Controller.advance]
    split <;> rfl

@[simp] theorem standing_release (key : SessionKey) :
    (sb.control c fun ctl => ctl.release key).standing id = sb.standing id :=
  standing_control sb id c fun _ => rfl

/-- A notice about something else does not show. -/
theorem standing_notify_of_ne {about : Subject} (h : about ≠ .session id) (effect : Effect) :
    (sb.notify c about effect).standing id = sb.standing id := by
  have htold : (sb.notify c about effect).told id = sb.told id := by
    simp [told, notify, h]
  exact standing_congr rfl rfl htold

@[simp] theorem standing_notify_flow (generation : Nat) (effect : Effect) :
    (sb.notify c (.flow generation) effect).standing id = sb.standing id :=
  standing_notify_of_ne sb id c (by simp) effect

@[simp] theorem standing_notify_start (start : StartId) (effect : Effect) :
    (sb.notify c (.start start) effect).standing id = sb.standing id :=
  standing_notify_of_ne sb id c (by simp) effect

@[simp] theorem standing_spawn (job : Job) : (sb.spawn job).standing id = sb.standing id := rfl

@[simp] theorem standing_wire (t : TransportId) (f : Transport → Transport) :
    (sb.wire t f).standing id = sb.standing id := rfl

@[simp] theorem standing_connect (t : Transport) :
    (sb.connect t).2.standing id = sb.standing id := rfl

end Hidden

/-! ## What shows -/

section Shown

variable (sb : Switchboard) (id : SessionId)

@[simp] theorem standing_notify_session (c : ControllerId) (effect : Effect) :
    (sb.notify c (.session id) effect).standing id =
      (sb.standing id).tell [⟨c, .session id, effect⟩] := by
  have htold : (sb.notify c (.session id) effect).told id =
      sb.told id ++ [⟨c, .session id, effect⟩] := by
    simp [told, notify]
  exact Standing.ext rfl rfl rfl rfl htold

theorem standing_live (id' : SessionId) (f : Life → Life) :
    (sb.live id' f).standing id =
      if id = id' then (sb.standing id).live f else sb.standing id := by
  have hsession := Registry.session?_live sb.registry id' id f
  have hreg := Registry.isRegistered_live sb.registry id' id f
  split
  · rename_i h
    rw [if_pos h] at hsession
    exact Standing.ext hsession hreg rfl rfl rfl
  · rename_i h
    rw [if_neg h] at hsession
    exact Standing.ext hsession hreg rfl rfl rfl

@[simp] theorem standing_live_self (f : Life → Life) :
    (sb.live id f).standing id = (sb.standing id).live f := by
  rw [standing_live, if_pos rfl]

theorem standing_live_of_ne {id' : SessionId} (h : id ≠ id') (f : Life → Life) :
    (sb.live id' f).standing id = sb.standing id := by
  rw [standing_live, if_neg h]

theorem standing_setAlarm (id' : SessionId) :
    (sb.setAlarm id').standing id =
      if id = id' then (sb.standing id).live fun l => l.setAlarm sb.alarms else sb.standing id :=
  standing_live sb id id' _

end Shown

theorem closeSession_of_none (hs : sb.session? id = none) : sb.closeSession id = sb := by
  simp only [closeSession, hs]

theorem closeSession_of_requested (hs : sb.session? id = some s) (h : s.closeRequested = true) :
    sb.closeSession id = sb := by
  simp only [closeSession, hs, h, if_true]

theorem closeSession_of_not_requested (hs : sb.session? id = some s)
    (h : s.closeRequested = false) :
    sb.closeSession id =
      { sb.live id Life.requestClose with closings := sb.closings ++ [s.transport] } := by
  simp only [closeSession, hs, h, Bool.false_eq_true, if_false]

/-- A request to close shows as such, whether it is the first one or not. -/
theorem standing_closeSession (sb : Switchboard) (id id' : SessionId) :
    (sb.closeSession id').standing id =
      if id = id' then (sb.standing id).live Life.requestClose else sb.standing id := by
  -- Where nothing is left to be done, the request has no effect on the life either.
  have hidle (h : (sb.standing id').live Life.requestClose = sb.standing id') :
      sb.standing id =
        if id = id' then (sb.standing id).live Life.requestClose else sb.standing id := by
    split
    · rename_i hid
      rw [hid, h]
    · rfl
  cases hs : sb.session? id' with
  | none =>
    rw [closeSession_of_none hs]
    exact hidle (Standing.ext (by simp [Standing.live, standing, hs]) rfl rfl rfl rfl)
  | some s =>
    cases hclose : s.closeRequested with
    | false =>
      rw [closeSession_of_not_requested hs hclose]
      exact standing_live sb id id' Life.requestClose
    | true =>
      have hsame : s.live Life.requestClose = s := by
        obtain ⟨w, l⟩ := s
        cases l
        simp_all [Session.live, Life.requestClose]
      rw [closeSession_of_requested hs hclose]
      exact hidle (Standing.ext (by simp [Standing.live, standing, hs, hsame]) rfl rfl rfl rfl)

section Shown

variable (sb : Switchboard) (id : SessionId)

/-- The removal of a session by its identity shows in its own standing only. -/
theorem standing_deleteSession (id' : SessionId) :
    { sb with registry := sb.registry.deleteSession id' }.standing id =
      if id = id' then (sb.standing id).register false else sb.standing id := by
  have hsession := Registry.session?_deleteSession sb.registry id' id
  have hreg := Registry.isRegistered_deleteSession sb.registry id' id
  split
  · rename_i h
    subst h
    exact Standing.ext hsession (hreg.trans (by simp [Standing.register])) rfl rfl rfl
  · rename_i h
    exact Standing.ext hsession (hreg.trans (by simp [h, standing])) rfl rfl rfl

theorem standing_stopSession (id' : SessionId) :
    (sb.stopSession id').standing id =
      if id = id' then (sb.standing id).quit else sb.standing id := by
  rw [stopSession, quit, standing_closeSession, standing_live, standing_deleteSession]
  split <;> rfl

theorem standing_foldl_stopSession (ids : List SessionId) :
    (ids.foldl stopSession sb).standing id =
      if id ∈ ids then (sb.standing id).quit else sb.standing id := by
  induction ids generalizing sb with
  | nil => rfl
  | cons id' ids ih =>
    rw [List.foldl_cons, ih, standing_stopSession]
    by_cases h : id = id'
    · simp [h, Standing.quit_quit]
    · simp [h]

theorem standing_foldl_closeSession (ids : List SessionId) :
    (ids.foldl closeSession sb).standing id =
      if id ∈ ids then (sb.standing id).live Life.requestClose else sb.standing id := by
  induction ids generalizing sb with
  | nil => rfl
  | cons id' ids ih =>
    rw [List.foldl_cons, ih, standing_closeSession]
    by_cases h : id = id'
    · simp [h, Standing.requestClose_requestClose]
    · simp [h]

/-- The cleanup of a session shows in its own standing only. -/
theorem standing_cleanUp (id' : SessionId) :
    (sb.cleanUp id').standing id =
      if id = id' then (sb.standing id).cleanUp else sb.standing id := by
  have hlive := standing_live { sb with registry := sb.registry.deleteSession id' } id id'
    Life.retire
  rw [standing_deleteSession] at hlive
  by_cases hid : id = id'
  · subst hid
    cases hs : sb.session? id with
    | none => simp [cleanUp, Standing.cleanUp, standing, hs]
    | some s =>
      cases hret : s.retired with
      | true => simp [cleanUp, Standing.cleanUp, standing, hs, hret]
      | false =>
        have hfirst : ((sb.standing id).session.any fun s => !s.retired) = true := by
          simp [standing, hs, hret]
        simpa [cleanUp, hs, hret, Standing.cleanUp, hfirst, live] using hlive
  · rw [if_neg hid] at hlive ⊢
    cases hs : sb.session? id' with
    | none => simp [cleanUp, hs]
    | some s =>
      cases hret : s.retired with
      | true => simp [cleanUp, hs, hret]
      | false => simpa [cleanUp, hs, hret, hid, live] using hlive

end Shown

/-! ## Queues -/

/-- The switchboard after the first waiting task of a controller was taken off its queue. -/
def popTask (sb : Switchboard) (c : ControllerId) : Switchboard :=
  sb.control c fun ctl =>
    { ctl with queue := { ctl.queue with waiting := ctl.queue.waiting.tail } }

theorem control_congr {f g : Controller → Controller}
    (h : ∀ ctl, sb.controllers[c]? = some ctl → f ctl = g ctl) :
    sb.control c f = sb.control c g := by
  have hmodify : sb.controllers.modify c f = sb.controllers.modify c g := by
    apply List.ext_getElem?
    intro i
    rw [List.getElem?_modify, List.getElem?_modify]
    split
    · rename_i hi
      subst hi
      cases hc : sb.controllers[c]? with
      | none => rfl
      | some ctl => simp [h ctl hc]
    · rfl
  simp only [control, hmodify]

theorem exists_controller_of_waiting {task : Task} {rest : List Task}
    (h : sb.waiting c = task :: rest) :
    ∃ ctl, sb.controllers[c]? = some ctl ∧ ctl.queue.waiting = task :: rest := by
  cases hc : sb.controllers[c]? with
  | none => simp [waiting, queue?, hc] at h
  | some ctl => exact ⟨ctl, rfl, by simpa [waiting, queue?, hc] using h⟩

theorem applyTask_of_nil (h : sb.waiting c = []) : sb.applyTask c = sb := by
  cases hc : sb.controllers[c]? with
  | none => simp [applyTask, hc]
  | some ctl =>
    have hq : ctl.queue.waiting = [] := by simpa [waiting, queue?, hc] using h
    simp [applyTask, hc, UiQueue.pop?, hq]

/-- Where a task waits, applying one takes it off the queue and does what it says. -/
theorem applyTask_of_cons {task : Task} {rest : List Task} (h : sb.waiting c = task :: rest) :
    sb.applyTask c = (sb.popTask c).perform c task := by
  obtain ⟨ctl, hc, hq⟩ := exists_controller_of_waiting h
  have hpop : sb.popTask c =
      sb.control c fun ctl' => { ctl' with queue := { ctl.queue with waiting := rest } } := by
    refine control_congr fun ctl' hc' => ?_
    have hsame : ctl = ctl' := Option.some.inj (hc.symm.trans hc')
    subst hsame
    simp [hq]
  simp [applyTask, hc, UiQueue.pop?, hq, hpop]

theorem waiting_popTask (sb : Switchboard) (c c' : ControllerId) :
    (sb.popTask c).waiting c' = if c' = c then (sb.waiting c).tail else sb.waiting c' := by
  simp only [waiting, popTask, queue?_control]
  split
  · cases hc : sb.controllers[c]? <;> simp [queue?, hc]
  · rfl

theorem hears_popTask (sb : Switchboard) (c : ControllerId) : (sb.popTask c).hears = sb.hears := by
  funext c'
  simp only [hears_eq, popTask, queue?_control]
  split
  · rename_i h
    subst h
    cases hc : sb.controllers[c']? <;> simp [queue?, hc]
  · rfl

/-- Taking a task about a session shows in its standing. -/
theorem standing_popTask_self {task : Task} {rest : List Task} (h : sb.waiting c = task :: rest)
    (hid : task.session? = some id) : (sb.popTask c).standing id = (sb.standing id).pop c := by
  refine Standing.ext rfl rfl (hears_popTask sb c) ?_ rfl
  funext c'
  by_cases hc : c' = c
  · subst hc
    simp [Standing.pop, standing, errands, waiting_popTask, h, hid]
  · simp [Standing.pop, standing, errands, waiting_popTask, hc]

/-- Taking a task about something else does not. -/
theorem standing_popTask_of_ne {task : Task} {rest : List Task} (h : sb.waiting c = task :: rest)
    (hid : task.session? ≠ some id) : (sb.popTask c).standing id = sb.standing id := by
  refine Standing.ext rfl rfl (hears_popTask sb c) ?_ rfl
  funext c'
  by_cases hc : c' = c
  · subst hc
    simp [standing, errands, waiting_popTask, h, hid]
  · simp [standing, errands, waiting_popTask, hc]

theorem hears_post (sb : Switchboard) (c : ControllerId) (task : Task) :
    (sb.post c task).hears = sb.hears := by
  funext c'
  simp only [hears_eq, post, queue?_control]
  split
  · rename_i h
    subst h
    cases hc : sb.controllers[c']? with
    | none => simp [queue?, hc]
    | some ctl => cases hopen : ctl.queue.isOpen <;>
        simp [queue?, hc, Controller.post, UiQueue.send, hopen]
  · rfl

/-- A task handed to an interface that takes tasks waits behind all others. -/
theorem waiting_post (sb : Switchboard) (c : ControllerId) (task : Task) (c' : ControllerId) :
    (sb.post c task).waiting c' =
      if c' = c ∧ sb.hears c = true then sb.waiting c ++ [task] else sb.waiting c' := by
  simp only [waiting, post, queue?_control]
  by_cases hc' : c' = c
  · subst hc'
    cases hc : sb.controllers[c']? with
    | none => simp [queue?, hears, hc]
    | some ctl => cases hopen : ctl.queue.isOpen <;>
        simp [queue?, hears, hc, Controller.post, UiQueue.send, hopen]
  · simp [hc']

theorem standing_post_self (hhears : sb.hears c = true) (task : Task)
    (hid : task.session? = some id) :
    (sb.post c task).standing id = (sb.standing id).queue c task := by
  refine Standing.ext rfl rfl (hears_post sb c task) ?_ rfl
  funext c'
  by_cases hc : c' = c
  · subst hc
    simp [Standing.queue, standing, errands, waiting_post, hhears, hid]
  · simp [Standing.queue, standing, errands, waiting_post, hc]

theorem standing_post_of_ne {task : Task} (hid : task.session? ≠ some id) :
    (sb.post c task).standing id = sb.standing id := by
  refine Standing.ext rfl rfl (hears_post sb c task) ?_ rfl
  funext c'
  by_cases hc : c' = c ∧ sb.hears c = true
  · obtain ⟨rfl, hh⟩ := hc
    simp [standing, errands, waiting_post, hh, hid]
  · simp [standing, errands, waiting_post, hc]

/-- The shutdown of an interface drops what waits for it, and is seen by every session. -/
theorem standing_closeInterface (sb : Switchboard) (c : ControllerId) (id : SessionId) :
    (sb.step (.closeInterface c)).standing id = (sb.standing id).shut c := by
  refine Standing.ext rfl rfl ?_ ?_ rfl
  · funext c'
    simp only [step, Standing.shut, standing, hears_eq, queue?_control]
    by_cases hc : c' = c
    · subst hc
      cases h : sb.controllers[c']? <;> simp [UiQueue.close]
    · simp [hc, hears_eq]
  · funext c'
    simp only [step, Standing.shut, standing, errands, waiting, queue?_control]
    by_cases hc : c' = c
    · subst hc
      cases h : sb.controllers[c']? <;> simp [UiQueue.close]
    · simp [hc, errands, waiting]

end Switchboard

end PodTunnels
