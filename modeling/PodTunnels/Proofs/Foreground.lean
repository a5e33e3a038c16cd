import PodTunnels.Command.Forward
import PodTunnels.Proofs.Cleanup
import PodTunnels.Proofs.SoleStart

/-!
# The end of a forward in the foreground

The loop of a forward in the foreground waits for its session, and then for the end of it. It looks
after every task, and only a task of its own makes a session or terminates one; what goes on in the
background does neither. So at any time the loop waits for its start, or has a session that is not
terminated, or has returned for one of three reasons (`Stands`): the session is over, no session was
made and no start is pending, or the user interrupted before there was a session. Each event keeps
that (`Stands.step`), and so does a whole run (`stands_run`).

It fails with the last failure that it was told of, unless it was interrupted (`run_returns`). What
the command does over a run of kubectl is made of such events (`exists_run_of_runForward`).
-/

namespace PodTunnels

namespace Foreground

open Switchboard

variable {surroundings : Surroundings} {controllers : List (String × Nat)} {sb : Switchboard}
  {f : Foreground} {selection : Selection} {id : SessionId} {m : Move}

/-! ## How a loop ends -/

/-- The session is over: it is terminated and inactive, and not registered any more. -/
def Ended (f : Foreground) : Prop :=
  ∃ id s, f.session = some id ∧ f.sb.session? id = some s ∧ s.key = f.key ∧
    s.state = .terminated ∧ s.active = false ∧ f.sb.registry.isRegistered id = false

/-- No session was made, and no start is pending any more. -/
def Barren (f : Foreground) : Prop :=
  f.session = none ∧ f.sb.registry.roster = [] ∧
    ∃ ctl, f.sb.controllers[controller]? = some ctl ∧ ctl.pendingStarts = 0

/-- The user interrupted before a session was made. -/
def CutShort (f : Foreground) : Prop :=
  f.interrupted = true ∧ f.session = none ∧ f.sb.registry.roster = []

/-- The last failure that the interface was told of. -/
def LastTold (f : Foreground) (e : Failure) : Prop :=
  ∃ before after, f.effects = before ++ .error e :: after ∧
    ∀ effect ∈ after, effect.failure? = none

theorem lastFailure?_eq_some_iff {e : Failure} : f.lastFailure? = some e ↔ f.LastTold e := by
  rw [lastFailure?, List.getLast?_filterMap, List.findSome?_eq_some_iff]
  constructor
  · rintro ⟨after, effect, before, hsplit, htells, hlater⟩
    cases effect with
    | error e' =>
      cases htells
      refine ⟨before.reverse, after.reverse, ?_, fun effect h => hlater effect (by simpa using h)⟩
      simpa using congrArg List.reverse hsplit
    | _ => cases htells
  · rintro ⟨before, after, hsplit, hlater⟩
    refine ⟨after.reverse, .error e, before.reverse, ?_, rfl, fun effect h =>
      hlater effect (by simpa using h)⟩
    simp [hsplit]

/-! ## The switchboard of a loop -/

/-- A switchboard that a loop tends: no session was registered by hand on it, and the interface is
there. -/
structure Tended (surroundings : Surroundings) (controllers : List (String × Nat))
    (sb : Switchboard) : Prop where
  reached : ∃ moves, sb = (initial surroundings controllers).run moves ∧ ∀ id, .add id ∉ moves
  hears : sb.hears controller = true

theorem Tended.sound (h : Tended surroundings controllers sb) : sb.Sound := by
  obtain ⟨moves, rfl, -⟩ := h.reached
  exact (sound_initial surroundings controllers).run moves

theorem Tended.step (h : Tended surroundings controllers sb) (hadd : ∀ id, m ≠ .add id)
    (hshut : ∀ c, m ≠ .closeInterface c) : Tended surroundings controllers (sb.step m) := by
  have hhears := hears_eq_of_turn (h.sound.turn m 0) hshut
  obtain ⟨moves, hmoves, hnone⟩ := h.reached
  constructor
  · refine ⟨moves ++ [m], by rw [run_concat, ← hmoves], ?_⟩
    intro id hmem
    rcases List.mem_append.1 hmem with hbefore | hlast
    · exact hnone id hbefore
    · exact hadd id (List.mem_singleton.1 hlast).symm
  · exact (congrFun hhears controller).trans h.hears

/-- A session that is terminated is over. -/
theorem Tended.over (h : Tended surroundings controllers sb) {s : Session}
    (hs : sb.session? id = some s) (hstate : s.state = .terminated) :
    s.active = false ∧ sb.registry.isRegistered id = false := by
  have hretired := ((h.sound.session id).life s hs).retired.2 hstate
  refine ⟨(h.sound.over_of_retired hs hretired).2, ?_⟩
  obtain ⟨moves, rfl, hnone⟩ := h.reached
  rw [← Bool.not_eq_true, Registry.isRegistered_of_session? hs]
  refine unregistered_of_retired hs hretired ?_
  rintro ⟨before, after, rfl, -⟩
  exact hnone id (List.mem_append_right _ List.mem_cons_self)

/-- An event brings the switchboard on by a move of the loop or of the background, or not at all. -/
theorem tended_step (h : Tended surroundings controllers f.sb) (e : Event) :
    Tended surroundings controllers (f.step e).sb := by
  unfold step
  split
  · exact h
  · cases e with
    | task =>
      dsimp only
      split
      · exact h.step (m := .applyTask controller) nofun nofun
      · exact h
    | interrupt =>
      dsimp only
      split
      · exact h
      · split
        · exact h
        · exact h.step (m := .stop f.key) nofun nofun
    | background move =>
      dsimp only
      split
      · rename_i hbackground
        refine h.step ?_ ?_
        · rintro id rfl
          cases hbackground
        · rintro c rfl
          cases hbackground
      · exact h

/-! ## From event to event -/

/-- Where a loop stands. -/
inductive Stands (f : Foreground) (selection : Selection) : Prop
  /-- The start is under way. -/
  | waiting {ctl : Controller} (hsession : f.session = none) (hreturned : f.returned = false)
      (hinterrupted : f.interrupted = false)
      (hunderway : f.sb.UnderWay controller 0 f.key selection ctl) : Stands f selection
  /-- There is a session, and it is not terminated. -/
  | forwarding {id : SessionId} (hsession : f.session = some id) (hreturned : f.returned = false)
      (hholds : f.sb.Holds controller f.key id) (hlasts : isTerminated f.sb id = false) :
      Stands f selection
  | returned (hreturned : f.returned = true) (hend : f.Ended ∨ f.Barren ∨ f.CutShort) :
      Stands f selection

/-- A look at a loop that has its session. -/
theorem stands_look (h : Tended surroundings controllers f.sb) (hsession : f.session = some id)
    (hholds : f.sb.Holds controller f.key id) : f.look.Stands selection := by
  have hlook : f.look = { f with session := some id, returned := isTerminated f.sb id } := by
    simp [look, hsession]
  rw [hlook]
  cases hlasts : isTerminated f.sb id with
  | false => exact .forwarding rfl rfl hholds hlasts
  | true =>
    obtain ⟨s, hs, hkey, -⟩ := hholds
    have hstate : s.state = .terminated := by simpa [isTerminated_eq hs] using hlasts
    obtain ⟨hactive, hgone⟩ := h.over hs hstate
    exact .returned rfl (.inl ⟨id, s, rfl, hs, hkey, hstate, hactive, hgone⟩)

/-- A look at a loop whose start was settled by the last task. -/
theorem stands_look_of_verdict {ctl : Controller} (h : Tended surroundings controllers sb)
    (hunderway : sb.UnderWay controller 0 f.key selection ctl)
    (htask : sb.hasTask controller = true) (hsession : f.session = none) :
    { f with sb := sb.applyTask controller }.look.Stands selection := by
  have hstep : sb.step (.applyTask controller) = sb.applyTask controller := rfl
  have hverdict := hunderway.verdict h.sound.wellFormed htask
  rw [hstep] at hverdict
  rcases hverdict with ⟨id, hlookup⟩ | ⟨hempty, ctl', hctl', hstage, hpending⟩
  · obtain ⟨hholds, hlasts⟩ := holds_of_lookup h.sound hunderway.roster hlookup
    rw [hstep] at hholds hlasts
    have hlook : { f with sb := sb.applyTask controller }.look =
        { f with sb := sb.applyTask controller, session := some id, returned := false } := by
      simp [look, hsession, hlookup, hlasts]
    rw [hlook]
    exact .forwarding rfl rfl hholds hlasts
  · have hlookup : (sb.applyTask controller).registry.lookup f.key = none := by
      rw [Registry.lookup_eq_none_iff]
      intro id _
      simp [Registry.isLive, Registry.session?, hempty]
    have hidle : isIdle (sb.applyTask controller) = true := by
      have hnone : ctl'.starts.isEmpty = true := List.isEmpty_iff.2 (List.length_eq_zero_iff.1 hpending)
      simp [isIdle, hctl', Controller.flowState, hstage, hnone]
    have hlook : { f with sb := sb.applyTask controller }.look =
        { f with sb := sb.applyTask controller, session := none, returned := true } := by
      simp [look, hsession, hlookup, hidle]
    rw [hlook]
    exact .returned rfl (.inr (.inl ⟨rfl, hempty, ctl', hctl', hpending⟩))

theorem step_of_returned (h : f.returned = true) (e : Event) : f.step e = f := by
  simp [step, h]

theorem step_task (h : f.returned = false) :
    f.step .task =
      if f.sb.hasTask controller then { f with sb := f.sb.applyTask controller }.look else f := by
  simp [step, h]

theorem step_interrupt (h : f.returned = false) :
    f.step .interrupt =
      if f.interrupted then f
      else if f.session.isNone then { f with interrupted := true, returned := true }
      else { f with interrupted := true, sb := f.sb.step (.stop f.key) }.look := by
  simp [step, h]

theorem step_background (h : f.returned = false) (move : Move) :
    f.step (.background move) =
      if move.isBackground then { f with sb := f.sb.step move } else f := by
  simp [step, h]

/-- While its start is under way, a loop applies what came of the check, or is cut short. -/
theorem stands_step_of_waiting {ctl : Controller} (ht : Tended surroundings controllers f.sb)
    (hsession : f.session = none) (hreturned : f.returned = false)
    (hinterrupted : f.interrupted = false)
    (hunderway : f.sb.UnderWay controller 0 f.key selection ctl) (e : Event) :
    (f.step e).Stands selection := by
  have hstays : f.Stands selection := .waiting hsession hreturned hinterrupted hunderway
  cases e with
  | task =>
    rw [step_task hreturned]
    split
    · rename_i htask
      exact stands_look_of_verdict ht hunderway htask hsession
    · exact hstays
  | interrupt =>
    have hcut : f.step .interrupt = { f with interrupted := true, returned := true } := by
      simp [step_interrupt hreturned, hinterrupted, hsession]
    rw [hcut]
    exact .returned rfl (.inr (.inr ⟨rfl, hsession, hunderway.roster⟩))
  | background move =>
    rw [step_background hreturned]
    split
    · rename_i hbackground
      obtain ⟨ctl', hunderway'⟩ := hunderway.background hbackground
      exact .waiting hsession hreturned hinterrupted hunderway'
    · exact hstays

/-- A loop that has its session looks after it. -/
theorem stands_step_of_forwarding (ht : Tended surroundings controllers f.sb)
    (hsession : f.session = some id) (hreturned : f.returned = false)
    (hholds : f.sb.Holds controller f.key id) (hlasts : isTerminated f.sb id = false) (e : Event) :
    (f.step e).Stands selection := by
  have hstays : f.Stands selection := .forwarding hsession hreturned hholds hlasts
  cases e with
  | task =>
    rw [step_task hreturned]
    split
    · have htended : Tended surroundings controllers (f.sb.step (.applyTask controller)) :=
        ht.step nofun nofun
      exact stands_look (f := { f with sb := f.sb.step (.applyTask controller) }) htended hsession
        (hholds.step ht.sound nofun)
    · exact hstays
  | interrupt =>
    rw [step_interrupt hreturned]
    split
    · exact hstays
    · rw [if_neg (by simp [hsession])]
      have htended : Tended surroundings controllers (f.sb.step (.stop f.key)) :=
        ht.step nofun nofun
      exact stands_look (f := { f with interrupted := true, sb := f.sb.step (.stop f.key) }) htended
        hsession (hholds.step ht.sound nofun)
  | background move =>
    rw [step_background hreturned]
    split
    · rename_i hbackground
      have hkept : ∀ c id, move ≠ .launch c id := by
        rintro c id rfl
        cases hbackground
      exact .forwarding hsession hreturned (hholds.step ht.sound hkept)
        (hholds.background ht.sound ht.hears hbackground hlasts)
    · exact hstays

/-- Every event keeps it. -/
theorem Stands.step (h : f.Stands selection) (ht : Tended surroundings controllers f.sb)
    (e : Event) : (f.step e).Stands selection := by
  cases h with
  | waiting hsession hreturned hinterrupted hunderway =>
    exact stands_step_of_waiting ht hsession hreturned hinterrupted hunderway e
  | forwarding hsession hreturned hholds hlasts =>
    exact stands_step_of_forwarding ht hsession hreturned hholds hlasts e
  | returned hreturned hend =>
    rw [step_of_returned hreturned]
    exact .returned hreturned hend

theorem stands_run (h : f.Stands selection) (ht : Tended surroundings controllers f.sb)
    (events : List Event) : (f.run events).Stands selection := by
  induction events generalizing f with
  | nil => exact h
  | cons e events ih => exact ih (h.step ht e) (tended_step ht e)

/-- Where a loop stands tells whether it has returned. -/
theorem Stands.returned_iff (h : f.Stands selection) :
    f.returned = true ↔ f.Ended ∨ f.Barren ∨ f.CutShort := by
  cases h with
  | @waiting ctl hsession hreturned hinterrupted hunderway =>
    refine iff_of_false (by simp [hreturned]) ?_
    rintro (⟨id, s, hsome, -⟩ | ⟨-, -, ctl', hctl', hpending⟩ | ⟨hcut, -⟩)
    · cases hsession.symm.trans hsome
    · cases hunderway.controller.symm.trans hctl'
      cases hpending.symm.trans hunderway.pendingStarts
    · cases hinterrupted.symm.trans hcut
  | @forwarding id hsession hreturned hholds hlasts =>
    refine iff_of_false (by simp [hreturned]) ?_
    rintro (⟨id', s, hsome, hs, -, hstate, -⟩ | ⟨hnone, -⟩ | ⟨-, hnone, -⟩)
    · cases hsession.symm.trans hsome
      rw [isTerminated_eq hs, decide_eq_false_iff_not] at hlasts
      exact hlasts hstate
    · cases hsession.symm.trans hnone
    · cases hsession.symm.trans hnone
  | returned hreturned hend => exact iff_of_true hreturned hend

/-! ## Interrupts -/

theorem interrupted_step_iff (f : Foreground) (e : Event) :
    (f.step e).interrupted = true ↔
      f.interrupted = true ∨ f.returned = false ∧ e = .interrupt := by
  cases hreturned : f.returned with
  | true => simp [step_of_returned hreturned]
  | false =>
    cases e with
    | task =>
      rw [step_task hreturned]
      split <;> simp [look]
    | interrupt =>
      rw [step_interrupt hreturned]
      cases hinterrupted : f.interrupted with
      | true => simp [hinterrupted]
      | false =>
        rw [if_neg Bool.false_ne_true]
        split <;> simp [look]
    | background move =>
      rw [step_background hreturned]
      split <;> simp

/-- A loop was interrupted when an interrupt came before it had returned. -/
theorem interrupted_run_iff (f : Foreground) (events : List Event) :
    (f.run events).interrupted = true ↔
      f.interrupted = true ∨ ∃ before after, events = before ++ .interrupt :: after ∧
        (f.run before).returned = false := by
  induction events generalizing f with
  | nil => simp [run]
  | cons e events ih =>
    have hfirst : f.run (e :: events) = (f.step e).run events := rfl
    rw [hfirst, ih, interrupted_step_iff]
    constructor
    · rintro ((hbefore | ⟨hruns, rfl⟩) | ⟨before, after, rfl, hruns⟩)
      · exact .inl hbefore
      · exact .inr ⟨[], events, rfl, hruns⟩
      · exact .inr ⟨e :: before, after, rfl, hruns⟩
    · rintro (hbefore | ⟨before, after, hsplit, hruns⟩)
      · exact .inl (.inl hbefore)
      · cases before with
        | nil =>
          cases hsplit
          exact .inl (.inr ⟨hruns, rfl⟩)
        | cons e' before =>
          cases hsplit
          exact .inr ⟨before, after, rfl, hruns⟩

/-! ## The course of a command -/

theorem run_append (f : Foreground) (events events' : List Event) :
    f.run (events ++ events') = (f.run events).run events' :=
  List.foldl_append

/-- What a loop has become when it has met with some more events. -/
def Later (f g : Foreground) : Prop :=
  ∃ events, g = f.run events

namespace Later

variable {g g' : Foreground}

theorem refl (f : Foreground) : f.Later f :=
  ⟨[], rfl⟩

theorem step (h : f.Later g) (e : Event) : f.Later (g.step e) := by
  obtain ⟨events, rfl⟩ := h
  exact ⟨events ++ [e], (run_append f events [e]).symm⟩

theorem trans (h : f.Later g) (h' : g.Later g') : f.Later g' := by
  obtain ⟨events, rfl⟩ := h
  obtain ⟨events', rfl⟩ := h'
  exact ⟨events ++ events', (run_append f events events').symm⟩

end Later

/-- What a switchboard has become when nothing but the background went on. -/
def Unattended (sb sb' : Switchboard) : Prop :=
  ∃ moves, (∀ m ∈ moves, m.isBackground = true) ∧ sb' = sb.run moves

namespace Unattended

variable {sb' : Switchboard}

theorem refl (sb : Switchboard) : Unattended sb sb :=
  ⟨[], List.forall_mem_nil _, rfl⟩

theorem cons (hm : m.isBackground = true) (h : Unattended (sb.step m) sb') : Unattended sb sb' := by
  obtain ⟨moves, hall, rfl⟩ := h
  exact ⟨m :: moves, List.forall_mem_cons.2 ⟨hm, hall⟩, rfl⟩

theorem trans {sb'' : Switchboard} (h : Unattended sb sb') (h' : Unattended sb' sb'') :
    Unattended sb sb'' := by
  obtain ⟨moves, hall, rfl⟩ := h
  obtain ⟨moves', hall', rfl⟩ := h'
  exact ⟨moves ++ moves', List.forall_mem_append.2 ⟨hall, hall'⟩,
    (Switchboard.run_append sb moves moves').symm⟩

theorem settleFor (n : Nat) (sb : Switchboard) : Unattended sb (settleFor n sb) := by
  induction n generalizing sb with
  | zero => exact refl sb
  | succ n ih =>
    rw [Switchboard.settleFor]
    cases hnext : sb.nextMove? with
    | none => exact refl sb
    | some move =>
      refine cons ?_ (ih (sb.step move))
      unfold nextMove? at hnext
      split at hnext
      · cases hnext
        rfl
      · obtain ⟨id, -, rfl⟩ := Option.map_eq_some_iff.1 hnext
        rfl

theorem advanceFor (n limit : Nat) (sb : Switchboard) : Unattended sb (advanceFor n limit sb) := by
  induction n generalizing sb with
  | zero => exact cons rfl (refl _)
  | succ n ih =>
    rw [Switchboard.advanceFor]
    cases sb.nextDeadline? limit with
    | none => exact cons rfl (refl _)
    | some time => exact cons rfl ((settleFor _ _).trans (ih _))

/-- A loop meets with it as events. By induction on the moves. -/
theorem later (h : Unattended f.sb sb') (hreturned : f.returned = false) :
    f.Later { f with sb := sb' } := by
  obtain ⟨moves, hall, rfl⟩ := h
  induction moves generalizing f with
  | nil => exact .refl f
  | cons m moves ih =>
    obtain ⟨hm, hmoves⟩ := List.forall_mem_cons.1 hall
    have hstep : f.step (.background m) = { f with sb := f.sb.step m } := by
      rw [step_background hreturned, if_pos hm]
    have hrest := @ih (f.step (.background m)) (hstep ▸ hreturned) hmoves
    rw [hstep] at hrest
    exact ((Later.refl f).step (.background m)).trans (hstep ▸ hrest)

end Unattended

namespace Later

open PodTunnels.Kubectl

variable {g : Foreground}

theorem settle (h : f.Later g) : f.Later g.settle := by
  unfold Foreground.settle
  split
  · exact h
  · rename_i hreturned
    exact h.trans ((Unattended.settleFor _ g.sb).later (Bool.eq_false_iff.2 hreturned))

theorem pass (h : f.Later g) (duration : Nat) : f.Later (g.pass duration) := by
  unfold Foreground.pass
  split
  · exact h
  · rename_i hreturned
    exact h.trans ((Unattended.advanceFor _ _ g.sb).later (Bool.eq_false_iff.2 hreturned))

theorem relay (h : f.Later g) (run : PortForward) : f.Later (g.relay run) := by
  unfold Foreground.relay
  obtain ⟨readiness, ending⟩ := run.reports
  cases readiness <;> cases ending
  · exact h
  · exact h.step _
  · exact h.step _
  · exact (h.step _).step _

theorem calm (h : f.Later g) (run : PortForward) : f.Later (g.calm run) := by
  unfold Foreground.calm
  dsimp only
  split
  · exact (h.settle.relay run.close).settle
  · exact h.settle

theorem react (h : f.Later g) (run : PortForward) (n : Nat) : f.Later (Foreground.react run n g) := by
  induction n generalizing g with
  | zero => exact h.calm run
  | succ n ih => exact ih ((h.calm run).step .task)

/-- The course of a forward is made of events that its loop meets with. -/
theorem course (f : Foreground) (readySeconds : Nat) (run : PortForward) :
    f.Later (f.course readySeconds run) := by
  have hready := (((refl f).react run.alive tasksOfStart).relay run.alive).react run.alive tasksOfStart
  have hdelayed := (hready.pass run.run.delay).react run.alive tasksOfStart
  unfold Foreground.course
  dsimp only
  generalize Foreground.react run.alive tasksOfStart (Foreground.pass _ run.run.delay) = g
    at hdelayed ⊢
  have hinterrupted : f.Later (if run.run.interrupts = true then
      Foreground.react run.alive tasksOfStart (g.step .interrupt) else g) := by
    split
    · exact (hdelayed.step .interrupt).react run.alive tasksOfStart
    · exact hdelayed
  refine react (pass ?_ _) run.alive tasksOfStart
  split
  · exact hinterrupted
  · exact (hinterrupted.relay run).react run.alive tasksOfStart

end Later

/-- The command reports what a loop with some plan for its transport does after some events. -/
theorem exists_run_of_runForward (config : Config) (client : Kubectl.Client) (pod : ResourcePath)
    (selection : Selection) (h : Host) :
    ∃ plan events, (Command.runForward config client pod selection h).1 =
      ((enter (initial { cluster := .empty, plans := [plan] }
        [(config.defaultAddress, config.readySeconds)]) pod selection).run events).report := by
  refine ⟨Command.planOf (client.openForward pod selection.tunnels h).1, ?_⟩
  exact (Later.course _ _ _).imp fun events hcourse => congrArg report hcourse

/-! ## The theorem -/

theorem tended_enter (surroundings : Surroundings) (address : String) (seconds : Nat)
    (pod : ResourcePath) (selection : Selection) :
    Tended surroundings [(address, seconds)]
      (enter (initial surroundings [(address, seconds)]) pod selection).sb := by
  have hinitial : Tended surroundings [(address, seconds)]
      (initial surroundings [(address, seconds)]) := ⟨⟨[], rfl, nofun⟩, rfl⟩
  exact hinitial.step (m := .start controller pod selection) nofun nofun

/-- A start on a fresh switchboard claims its key and is under way. -/
theorem stands_enter (surroundings : Surroundings) (address : String) (seconds : Nat)
    (pod : ResourcePath) (selection : Selection) :
    (enter (initial surroundings [(address, seconds)]) pod selection).returned = false ∧
      (enter (initial surroundings [(address, seconds)]) pod selection).Stands selection :=
  ⟨rfl, .waiting rfl rfl rfl ⟨rfl, rfl, rfl, rfl, rfl, .inl ⟨rfl, rfl⟩⟩⟩

/-- A loop on a switchboard of its own enters. It has returned once it has ended, or no session can
come any more, or it was cut short, and at no other time. It fails with the text of the last failure
that it was told of, unless an interrupt came before it had returned. -/
theorem run_returns (surroundings : Surroundings) (address : String) (seconds : Nat)
    (pod : ResourcePath) (selection : Selection) (events : List Event) :
    let entered := enter (initial surroundings [(address, seconds)]) pod selection
    let f := entered.run events
    entered.returned = false ∧
      (f.returned = true ↔ f.Ended ∨ f.Barren ∨ f.CutShort) ∧
      (f.interrupted = true ↔ ∃ before after, events = before ++ .interrupt :: after ∧
        (entered.run before).returned = false) ∧
      ∀ text, f.report.failure.map CommandFailure.message = some text ↔
        f.interrupted = false ∧ ∃ e, f.LastTold e ∧ e.message = text := by
  intro entered f
  obtain ⟨hclaimed, hstands⟩ := stands_enter surroundings address seconds pod selection
  have htended := tended_enter surroundings address seconds pod selection
  refine ⟨hclaimed, (stands_run hstands htended events).returned_iff, ?_, ?_⟩
  · exact (interrupted_run_iff entered events).trans (by simp [entered, enter])
  · intro text
    rw [report, failure?]
    cases f.interrupted <;> simp [Function.comp_def, lastFailure?_eq_some_iff, CommandFailure.message]

/-- A forward that is activated and whose transport then breaks down. -/
def lostConnection : List Event :=
  [.background (.finishJob 0), .task, .background (.stepRunner 0), .task,
    .background (.signalFinish 0 (.failed (.transport "lost connection"))),
    .background (.stepRunner 0), .task]

/-- A loop whose transport breaks down ends, and fails with what it was told last. -/
theorem returns_of_lost_connection :
    let entered := enter (initial { cluster := .empty, plans := [{}] } [("127.0.0.1", 30)]) webPod
      webSelection
    let f := entered.run lostConnection
    f.Ended ∧ ∃ e, f.LastTold e ∧ e.message = "port-forward failed: lost connection" := by
  intro entered f
  obtain ⟨-, hreturned, -, hfails⟩ := run_returns { cluster := .empty, plans := [{}] } "127.0.0.1" 30
    webPod webSelection lostConnection
  have hsession : f.session = some 0 := by decide +kernel
  constructor
  · rcases hreturned.1 (by decide +kernel) with hended | ⟨hnone, -⟩ | ⟨-, hnone, -⟩
    · exact hended
    · cases hsession.symm.trans hnone
    · cases hsession.symm.trans hnone
  · exact ((hfails _).1 (by decide +kernel)).2

end Foreground

end PodTunnels
