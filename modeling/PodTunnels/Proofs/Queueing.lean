import PodTunnels.UiQueue

/-!
# Tasks are applied in the order they were accepted

A queue is watched while events befall it: `UiCourse` notes each attempt to queue a task with its
answer, and each task that is applied, those that other tasks queue included. As long as the
receiving end exists, every attempt succeeds, and the accepted tasks are those that were applied
followed by those that wait (`InTurn`). Once it is gone, every attempt is refused and nothing is
applied any more (`Ended`).
-/

namespace PodTunnels

variable {σ : Type}

/-- The interface that some work leaves behind while its tasks are accepted. -/
def UiWork.result : UiWork σ → σ
  | .done s => s
  | .send _ goOn => (goOn true).result

/-- A queue and its interface, with what was tried and done so far. -/
structure UiCourse (σ : Type) where
  queue : UiQueue (UiTask σ) := {}
  app : σ
  /-- The tasks that were sent, with the answers. -/
  tried : List (UiTask σ × Bool) := []
  applied : List (UiTask σ) := []

/-- What befalls a queue. A task is sent by one of the handles. -/
inductive UiEvent (σ : Type) where
  | clone
  | send (handle : Nat) (task : UiTask σ)
  | next
  | drain
  | close

namespace UiCourse

variable {c c' : UiCourse σ} {task : UiTask σ} {rest : List (UiTask σ)}

def accepted (c : UiCourse σ) : List (UiTask σ) :=
  (c.tried.filter Prod.snd).map Prod.fst

def send (c : UiCourse σ) (task : UiTask σ) : Bool × UiCourse σ :=
  let (ok, queue) := c.queue.send task
  (ok, { c with queue, tried := c.tried ++ [(task, ok)] })

def perform (c : UiCourse σ) : UiWork σ → UiCourse σ
  | .done s => { c with app := s }
  | .send task goOn =>
    let (ok, c) := c.send task
    c.perform (goOn ok)

/-- The course with a task taken out of its queue. -/
def taken (c : UiCourse σ) (task : UiTask σ) (queue : UiQueue (UiTask σ)) : UiCourse σ :=
  { c with queue, applied := c.applied ++ [task] }

/-- Apply the first task that waits. -/
def next? (c : UiCourse σ) : Option (UiCourse σ) :=
  match c.queue.pop? with
  | none => none
  | some (task, queue) => some ((c.taken task queue).perform (task c.app))

theorem queue_perform (c : UiCourse σ) (w : UiWork σ) :
    (c.perform w).queue = (c.queue.perform w).1 := by
  induction w generalizing c with
  | done s => rfl
  | send task goOn ihTask ihGoOn => exact ihGoOn _ _

theorem app_perform (c : UiCourse σ) (w : UiWork σ) :
    (c.perform w).app = (c.queue.perform w).2 := by
  induction w generalizing c with
  | done s => rfl
  | send task goOn ihTask ihGoOn => exact ihGoOn _ _

theorem applied_perform (c : UiCourse σ) (w : UiWork σ) : (c.perform w).applied = c.applied := by
  induction w generalizing c with
  | done s => rfl
  | send task goOn ihTask ihGoOn => exact ihGoOn _ _

theorem send_of_open (hopen : c.queue.isOpen = true) (task : UiTask σ) :
    c.send task =
      (true,
        { c with
          queue := { c.queue with waiting := c.queue.waiting ++ [task] }
          tried := c.tried ++ [(task, true)] }) := by
  simp [send, UiQueue.send, hopen]

theorem send_of_closed (hclosed : c.queue.isOpen = false) (task : UiTask σ) :
    c.send task = (false, { c with tried := c.tried ++ [(task, false)] }) := by
  simp [send, UiQueue.send, hclosed]

/-- While tasks are accepted, some work puts its tasks behind all that wait. -/
theorem perform_of_open (hopen : c.queue.isOpen = true) (w : UiWork σ) :
    c.perform w =
      { c with
        queue := { c.queue with waiting := c.queue.waiting ++ w.queued }
        app := w.result
        tried := c.tried ++ w.queued.map (·, true) } := by
  induction w generalizing c with
  | done s => simp [perform, UiWork.queued, UiWork.result]
  | send task goOn ihTask ihGoOn =>
    rw [perform, send_of_open hopen]
    dsimp only
    rw [ihGoOn true]
    · simp [UiWork.queued, UiWork.result]
    · exact hopen

theorem next?_eq_some_iff :
    c.next? = some c' ↔ ∃ task rest, c.queue.waiting = task :: rest ∧
      (c.taken task { c.queue with waiting := rest }).perform (task c.app) = c' := by
  unfold next? UiQueue.pop?
  cases c.queue.waiting with
  | nil => simp
  | cons task rest =>
    constructor
    · exact fun h => ⟨task, rest, rfl, Option.some.inj h⟩
    · rintro ⟨_, _, hfirst, h⟩
      cases hfirst
      exact congrArg some h

theorem next?_eq_none_iff : c.next? = none ↔ c.queue.waiting = [] := by
  unfold next? UiQueue.pop?
  cases c.queue.waiting <;> simp

theorem follows_of_next? (h : c.next? = some c') :
    UiTask.Follows c'.queue.waiting c.queue.waiting := by
  unfold next? at h
  split at h
  · cases h
  · rename_i task queue hpop
    cases h
    rw [queue_perform]
    exact UiQueue.follows_of_pop? hpop c.app

def drain (c : UiCourse σ) : Nat × UiCourse σ :=
  match _ : c.next? with
  | none => (0, c)
  | some c' =>
    let (applied, c') := c'.drain
    (applied + 1, c')
termination_by c.queue.waiting
decreasing_by exact follows_of_next? ‹_›

theorem drain_of_none (h : c.next? = none) : c.drain = (0, c) := by
  rw [drain]
  split
  · rfl
  · rename_i hsome
    cases h.symm.trans hsome

theorem drain_of_some (h : c.next? = some c') : c.drain = (c'.drain.1 + 1, c'.drain.2) := by
  rw [drain]
  split
  · rename_i hnone
    cases h.symm.trans hnone
  · rename_i hsome
    cases h.symm.trans hsome
    rfl

/-- What each application of a task preserves, draining preserves. -/
theorem drain_induction {P : UiCourse σ → UiCourse σ → Nat → Prop}
    (stop : ∀ c, c.queue.waiting = [] → P c c 0)
    (turn : ∀ c c' after n, c.next? = some c' → P c' after n → P c after (n + 1))
    (c : UiCourse σ) : P c c.drain.2 c.drain.1 := by
  induction c using drain.induct with
  | case1 c h =>
    rw [drain_of_none h]
    exact stop c (next?_eq_none_iff.1 h)
  | case2 c c' h _ _ _ ih =>
    rw [drain_of_some h]
    exact turn c c' _ _ h ih

def step (c : UiCourse σ) : UiEvent σ → UiCourse σ
  | .clone => { c with queue := c.queue.clone }
  | .send handle task => if handle < c.queue.handles then (c.send task).2 else c
  | .next => c.next?.getD c
  | .drain => c.drain.2
  | .close => { c with queue := c.queue.close }

def run (c : UiCourse σ) (events : List (UiEvent σ)) : UiCourse σ :=
  events.foldl step c

/-! ## While the receiving end exists -/

/-- All tasks were accepted that were sent. They were applied in that order, as far as they do not
wait, and the interface is what they made of it. -/
structure InTurn (start : σ) (c : UiCourse σ) : Prop where
  isOpen : c.queue.isOpen = true
  tried : ∀ attempt ∈ c.tried, attempt.2 = true
  turns : c.accepted = c.applied ++ c.queue.waiting
  app : c.app = c.applied.foldl (fun s task => (task s).result) start

variable {start : σ} {g : UiCourse σ} {e : UiEvent σ}

theorem inTurn_of_new (start : σ) : InTurn start { app := start } where
  isOpen := rfl
  tried _ h := absurd h List.not_mem_nil
  turns := rfl
  app := rfl

theorem accepted_of_tried {tasks : List (UiTask σ)}
    (h : c'.tried = c.tried ++ tasks.map (·, true)) : c'.accepted = c.accepted ++ tasks := by
  have htasks : (tasks.map (·, true)).filter Prod.snd = tasks.map (·, true) :=
    List.filter_eq_self.2 (by simp)
  simp [accepted, h, htasks, Function.comp_def]

theorem InTurn.tried_append (h : InTurn start c) (tasks : List (UiTask σ)) :
    ∀ attempt ∈ c.tried ++ tasks.map (·, true), attempt.2 = true := by
  intro attempt hattempt
  obtain hattempt | hattempt := List.mem_append.1 hattempt
  · exact h.tried attempt hattempt
  · obtain ⟨_, _, rfl⟩ := List.mem_map.1 hattempt
    rfl

theorem InTurn.send (h : InTurn start c) (task : UiTask σ) : InTurn start (c.send task).2 := by
  rw [send_of_open h.isOpen]
  refine ⟨h.isOpen, h.tried_append [task], ?_, h.app⟩
  rw [← List.append_assoc, ← h.turns]
  exact accepted_of_tried rfl

/-- The task whose turn it is is applied, and its tasks come behind everything accepted before. -/
theorem InTurn.next (h : InTurn start c) (hnext : c.next? = some c') :
    InTurn start c' ∧ ∃ task rest, c.queue.waiting = task :: rest ∧
      c'.applied = c.applied ++ [task] ∧ c'.accepted = c.accepted ++ (task c.app).queued := by
  obtain ⟨task, rest, hwaiting, rfl⟩ := next?_eq_some_iff.1 hnext
  have hopen : (c.taken task { c.queue with waiting := rest }).queue.isOpen = true := h.isOpen
  rw [perform_of_open hopen]
  refine ⟨⟨h.isOpen, h.tried_append _, ?_, ?_⟩, task, rest, hwaiting, rfl, accepted_of_tried rfl⟩
  · refine (accepted_of_tried (c := c) rfl).trans ?_
    simp [h.turns, hwaiting, taken]
  · simp [taken, h.app]

theorem InTurn.drain (h : InTurn start c) : InTurn start c.drain.2 :=
  drain_induction (P := fun c after _ => InTurn start c → InTurn start after)
    (fun _ _ h => h) (fun _ _ _ _ hnext ih h => ih (h.next hnext).1) c h

theorem InTurn.step (h : InTurn start c) (he : e ≠ .close) : InTurn start (c.step e) := by
  cases e with
  | clone => exact ⟨h.isOpen, h.tried, h.turns, h.app⟩
  | send handle task =>
    simp only [UiCourse.step]
    split
    · exact h.send task
    · exact h
  | next =>
    simp only [UiCourse.step]
    cases hnext : c.next? with
    | none => exact h
    | some c' => exact (h.next hnext).1
  | drain => exact h.drain
  | close => exact absurd rfl he

theorem InTurn.run {events : List (UiEvent σ)} (h : InTurn start c) (hopen : .close ∉ events) :
    InTurn start (c.run events) := by
  induction events generalizing c with
  | nil => exact h
  | cons e events ih =>
    rw [List.mem_cons, not_or] at hopen
    exact ih (h.step (Ne.symm hopen.1)) hopen.2

/-! ## Draining -/

/-- Draining ends, and says how many tasks it has applied. -/
structure Drains (c : UiCourse σ) (applied : Nat) (after : UiCourse σ) : Prop where
  answer : c.queue.drain c.app = (applied, after.queue, after.app)
  empty : after.queue.waiting = []
  counted : ∃ batch, after.applied = c.applied ++ batch ∧ batch.length = applied

theorem drainFrom_of_next? (hnext : c.next? = some c') (counted : Nat) :
    c.queue.drainFrom counted c.app = c'.queue.drainFrom (counted + 1) c'.app := by
  unfold next? at hnext
  split at hnext
  · cases hnext
  · rename_i task queue hpop
    cases hnext
    rw [UiQueue.drainFrom, hpop, queue_perform, app_perform]
    rfl

theorem drains_drain (c : UiCourse σ) : c.Drains c.drain.1 c.drain.2 := by
  have hfrom : ∀ counted, c.queue.drainFrom counted c.app =
      (counted + c.drain.1, c.drain.2.queue, c.drain.2.app) := by
    refine drain_induction (P := fun c after n => ∀ counted,
      c.queue.drainFrom counted c.app = (counted + n, after.queue, after.app)) ?_ ?_ c
    · intro c hempty counted
      rw [UiQueue.drainFrom, UiQueue.pop?, hempty]
      rfl
    · intro c c' after n hnext ih counted
      rw [drainFrom_of_next? hnext, ih, Nat.add_right_comm, Nat.add_assoc]
  constructor
  · rw [UiQueue.drain, hfrom, Nat.zero_add]
  · exact drain_induction (P := fun _ after _ => after.queue.waiting = [])
      (fun _ h => h) (fun _ _ _ _ _ ih => ih) c
  · refine drain_induction (P := fun c after n => ∃ batch,
      after.applied = c.applied ++ batch ∧ batch.length = n) ?_ ?_ c
    · exact fun c _ => ⟨[], (List.append_nil _).symm, rfl⟩
    · rintro c c' after n hnext ⟨batch, hbatch, hlength⟩
      obtain ⟨task, rest, -, rfl⟩ := next?_eq_some_iff.1 hnext
      refine ⟨task :: batch, ?_, congrArg (· + 1) hlength⟩
      rw [hbatch, applied_perform, taken, List.append_assoc]
      rfl

/-! ## Once the receiving end is gone -/

/-- Nothing is accepted or applied any more. -/
structure Ended (c g : UiCourse σ) : Prop where
  isOpen : g.queue.isOpen = false
  waiting : g.queue.waiting = []
  applied : g.applied = c.applied
  app : g.app = c.app
  refused : ∃ attempts, g.tried = c.tried ++ attempts ∧ ∀ attempt ∈ attempts, attempt.2 = false

theorem Ended.accepted (h : Ended c g) : g.accepted = c.accepted := by
  obtain ⟨attempts, hattempts, hrefused⟩ := h.refused
  have hnone : attempts.filter Prod.snd = [] := by
    refine List.filter_eq_nil_iff.2 fun attempt hattempt => ?_
    simp [hrefused attempt hattempt]
  rw [UiCourse.accepted, hattempts, List.filter_append, hnone, List.append_nil]
  rfl

theorem Ended.step (h : Ended c g) (e : UiEvent σ) : Ended c (g.step e) := by
  have hnext : g.next? = none := next?_eq_none_iff.2 h.waiting
  cases e with
  | clone => exact ⟨h.isOpen, h.waiting, h.applied, h.app, h.refused⟩
  | send handle task =>
    simp only [UiCourse.step]
    split
    · rw [send_of_closed h.isOpen]
      obtain ⟨attempts, hattempts, hrefused⟩ := h.refused
      refine ⟨h.isOpen, h.waiting, h.applied, h.app, attempts ++ [(task, false)], ?_, ?_⟩
      · rw [← List.append_assoc, ← hattempts]
      · intro attempt hattempt
        obtain hattempt | hattempt := List.mem_append.1 hattempt
        · exact hrefused attempt hattempt
        · rw [List.mem_singleton.1 hattempt]
    · exact h
  | next =>
    rw [UiCourse.step, hnext]
    exact h
  | drain =>
    rw [UiCourse.step, drain_of_none hnext]
    exact h
  | close => exact ⟨rfl, rfl, h.applied, h.app, h.refused⟩

theorem ended_run (c : UiCourse σ) (later : List (UiEvent σ)) :
    Ended c (c.run (.close :: later)) := by
  have hstart : Ended c (c.step .close) := by
    refine ⟨rfl, rfl, rfl, rfl, [], (List.append_nil _).symm, ?_⟩
    exact fun _ h => absurd h List.not_mem_nil
  show Ended c ((c.step .close).run later)
  generalize c.step .close = g at hstart
  induction later generalizing g with
  | nil => exact hstart
  | cons e later ih => exact ih _ (hstart.step e)

/-! ## The whole course -/

theorem run_append (c : UiCourse σ) (before later : List (UiEvent σ)) :
    c.run (before ++ later) = (c.run before).run later :=
  List.foldl_append

/-- Whatever befalls a queue, tasks are applied in the order they were accepted. They are accepted
as long as the receiving end exists, and applied no longer. -/
theorem applied_in_turn (start : σ) (events : List (UiEvent σ)) :
    let c := UiCourse.run { app := start } events
    (∀ task, (c.send task).1 = true ↔ .close ∉ events) ∧
    c.applied <+: c.accepted ∧
    c.app = c.applied.foldl (fun s task => (task s).result) start ∧
    (.close ∉ events → InTurn start c ∧
      (∀ task rest, c.queue.waiting = task :: rest → ∃ c', c.next? = some c' ∧
        c'.applied = c.applied ++ [task] ∧ c'.accepted = c.accepted ++ (task c.app).queued) ∧
      c.Drains c.drain.1 c.drain.2 ∧ c.drain.2.applied = c.drain.2.accepted) ∧
    ∀ later, Ended c (c.run (.close :: later)) := by
  intro c
  by_cases hclose : .close ∈ events
  · obtain ⟨before, later, rfl, hbefore⟩ := List.eq_append_cons_of_mem hclose
    have hinTurn := (inTurn_of_new start).run hbefore
    have hended : Ended (UiCourse.run { app := start } before) c := by
      show Ended _ (UiCourse.run _ (before ++ .close :: later))
      rw [run_append]
      exact ended_run _ later
    refine ⟨fun task => ?_, ?_, ?_, fun hopen => absurd hclose hopen, ended_run c⟩
    · refine iff_of_false ?_ (not_not_intro hclose)
      rw [send_of_closed hended.isOpen]
      exact Bool.false_ne_true
    · rw [hended.applied, hended.accepted, hinTurn.turns]
      exact List.prefix_append _ _
    · rw [hended.applied, hended.app, hinTurn.app]
  · have hinTurn : InTurn start c := (inTurn_of_new start).run hclose
    refine ⟨fun task => ?_, ?_, hinTurn.app, fun _ => ⟨hinTurn, ?_, c.drains_drain, ?_⟩,
      ended_run c⟩
    · refine iff_of_true ?_ hclose
      rw [send_of_open hinTurn.isOpen]
    · rw [hinTurn.turns]
      exact List.prefix_append _ _
    · intro task rest hwaiting
      cases hnext : c.next? with
      | none => cases hwaiting.symm.trans (next?_eq_none_iff.1 hnext)
      | some c' =>
        obtain ⟨-, _, _, hfirst, happlied⟩ := hinTurn.next hnext
        cases hwaiting.symm.trans hfirst
        exact ⟨c', rfl, happlied⟩
    · rw [hinTurn.drain.turns, c.drains_drain.empty, List.append_nil]

/-- A task that another one queues is applied after those that waited then, and counted. -/
theorem nested_task_goes_last :
    let adding (n : Nat) : UiTask (List Nat) := fun s => .done (s ++ [n])
    let nesting : UiTask (List Nat) := fun s =>
      .send (adding 3) fun ok => .done (s ++ [if ok then 1 else 0])
    let c := UiCourse.run { app := [] } [.clone, .send 0 nesting, .send 1 (adding 2)]
    (c.queue.drain c.app).1 = 3 ∧ (c.queue.drain c.app).2.2 = [1, 2, 3] ∧
      (c.run [.close, .send 1 (adding 4), .next]).app = [] := by
  intro adding nesting c
  have hopen : UiEvent.close ∉ [.clone, .send 0 nesting, .send 1 (adding 2)] := by simp
  obtain ⟨-, -, -, hinTurn, hended⟩ :=
    applied_in_turn [] [.clone, .send 0 nesting, .send 1 (adding 2)]
  have hdrain : c.drain.1 = 3 ∧ c.drain.2.app = [1, 2, 3] := by
    rw [drain_of_some rfl, drain_of_some rfl, drain_of_some rfl, drain_of_none rfl]
    exact ⟨rfl, rfl⟩
  have hanswer := (hinTurn hopen).2.2.1.answer
  refine ⟨?_, ?_, (hended [.send 1 (adding 4), .next]).app⟩
  · exact (congrArg Prod.fst hanswer).trans hdrain.1
  · exact (congrArg (fun d => d.2.2) hanswer).trans hdrain.2

end UiCourse

end PodTunnels
