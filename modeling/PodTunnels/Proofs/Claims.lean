import PodTunnels.Proofs.Affair
import Mathlib.Data.List.Perm.Basic

/-!
# Claims

A controller claims the key of a start when the start is asked for, and releases it when the
interface has applied what came of the check of its ports. In between the start is in flight: its
check is under way, or what came of it waits. As long as the interface is there, the claims of a
controller are at any time those of its starts in flight, no more and no fewer (`claimed_run`).
-/

namespace PodTunnels

namespace OrderedMap

variable {α β : Type} [Ord α] [Std.LawfulEqOrd α]

theorem nodup_entries (m : OrderedMap α β) : m.entries.Nodup :=
  m.increasing.imp fun hlt heq => by simp [heq] at hlt

variable [Std.TransOrd α] [DecidableEq α] {m : OrderedMap α β} {k : α} {v : β}

/-- An entry under a new key comes on top of the others. -/
theorem perm_entries_insert (h : m.get? k = none) :
    (m.insert k v).entries.Perm ((k, v) :: m.entries) := by
  have hnew : (k, v) ∉ m.entries := by simp [mem_entries_iff, h]
  refine (List.perm_ext_iff_of_nodup (nodup_entries _)
    (List.nodup_cons.2 ⟨hnew, m.nodup_entries⟩)).2 ?_
  rintro ⟨k', v'⟩
  rw [mem_entries_iff, get?_insert_eq, List.mem_cons, mem_entries_iff, Prod.mk.injEq]
  by_cases hk : k' = k
  · subst hk
    simp [h, eq_comm]
  · simp [hk]

/-- An entry that is erased is one less. -/
theorem perm_entries_erase (h : m.get? k = some v) :
    m.entries.Perm ((k, v) :: (m.erase k).entries) := by
  have hgone : (k, v) ∉ (m.erase k).entries := by simp [mem_entries_iff, get?_erase_eq]
  refine (List.perm_ext_iff_of_nodup m.nodup_entries
    (List.nodup_cons.2 ⟨hgone, nodup_entries _⟩)).2 ?_
  rintro ⟨k', v'⟩
  rw [mem_entries_iff, List.mem_cons, mem_entries_iff, get?_erase_eq, Prod.mk.injEq]
  by_cases hk : k' = k
  · subst hk
    simp [h, eq_comm]
  · simp [hk]

end OrderedMap

/-- The claim that a check of ports for a controller stands for. -/
def Job.claim? (c : ControllerId) : Job → Option (SessionKey × StartId)
  | .checkPorts c' start key _ => if c' = c then some (key, start) else none
  | .resolve .. | .readPorts .. => none

def Task.claim? : Task → Option (SessionKey × StartId)
  | .checked start key _ _ => some (key, start)
  | .resolved .. | .portsRead .. | .activate _ | .retire .. => none

namespace Switchboard

variable {sb sb' : Switchboard} {c c' : ControllerId} {k : StartId} {key : SessionKey} {m : Move}

/-- The starts of a controller that are in flight, with their keys. -/
def inFlight (sb : Switchboard) (c : ControllerId) : List (SessionKey × StartId) :=
  sb.checks.filterMap (Job.claim? c) ++ (sb.verdicts c).filterMap Task.claim?

def starts? (sb : Switchboard) (c : ControllerId) : Option (OrderedMap SessionKey StartId) :=
  sb.controllers[c]?.map Controller.starts

/-- The claims of a controller are those of its starts in flight, while its interface is there. -/
def Claimed (sb : Switchboard) (c : ControllerId) : Prop :=
  ∀ starts, sb.starts? c = some starts → sb.hears c = true → (sb.inFlight c).Perm starts.entries

theorem Claimed.congr (h : sb.Claimed c) (hstarts : sb'.starts? c = sb.starts? c)
    (hhears : sb'.hears c = true → sb.hears c = true)
    (hflight : (sb'.inFlight c).Perm (sb.inFlight c)) : sb'.Claimed c :=
  fun starts hs hh => hflight.trans (h starts (hstarts ▸ hs) (hhears hh))

theorem Aside.starts? (h : sb.Aside sb') (c : ControllerId) : sb'.starts? c = sb.starts? c := by
  rcases h.controller_cases c with ⟨ctl, ctl', hctl, hctl', haside⟩ | ⟨hctl, hctl'⟩
  · simp [Switchboard.starts?, hctl, hctl', haside.starts]
  · simp [Switchboard.starts?, hctl, hctl']

theorem Aside.inFlight (h : sb.Aside sb') (c : ControllerId) : sb'.inFlight c = sb.inFlight c := by
  rw [Switchboard.inFlight, Switchboard.inFlight, h.checks, h.verdicts]

theorem Aside.claimed (haside : sb.Aside sb') (h : sb.Claimed c) : sb'.Claimed c :=
  h.congr (haside.starts? c) (haside.hears ▸ id) (.of_eq (haside.inFlight c))

namespace Within

variable {k : StartId}

theorem starts? (h : Within k sb sb') (c : ControllerId) : sb'.starts? c = sb.starts? c := by
  rw [Switchboard.starts?, Switchboard.starts?, h.controllers]

theorem hears (h : Within k sb sb') : sb'.hears = sb.hears := by
  funext c
  rw [Switchboard.hears, Switchboard.hears, h.controllers]

theorem inFlight (h : Within k sb sb') (c : ControllerId) : sb'.inFlight c = sb.inFlight c := by
  simp only [Switchboard.inFlight, checks, verdicts, waiting, queue?, h.controllers, h.jobs]

end Within

/-! ## Changes of what is in flight -/

theorem starts?_control (sb : Switchboard) (c : ControllerId) (f : Controller → Controller)
    (c' : ControllerId) :
    (sb.control c f).starts? c' =
      if c' = c then sb.controllers[c]?.map fun ctl => (f ctl).starts else sb.starts? c' := by
  simp only [starts?, control, List.getElem?_modify]
  by_cases h : c' = c
  · subst h
    simp [Function.comp_def]
  · simp [h, Ne.symm h]

/-- A change of a controller that leaves its claims alone. -/
theorem starts?_control_of {f : Controller → Controller}
    (hf : ∀ ctl, (f ctl).starts = ctl.starts) (c' : ControllerId) :
    (sb.control c f).starts? c' = sb.starts? c' := by
  rw [starts?_control]
  split
  · rename_i hc
    subst hc
    simp only [starts?, hf]
  · rfl

theorem hears_control {f : Controller → Controller} (hf : ∀ ctl, (f ctl).queue = ctl.queue) :
    (sb.control c f).hears = sb.hears := by
  funext c'
  rw [hears_eq, hears_eq, queue?_control_of hf]

theorem inFlight_control {f : Controller → Controller} (hf : ∀ ctl, (f ctl).queue = ctl.queue)
    (c' : ControllerId) : (sb.control c f).inFlight c' = sb.inFlight c' := by
  simp only [inFlight, verdicts, waiting, queue?_control_of hf]
  rfl

/-- A check that is begun puts its start into flight. -/
theorem inFlight_spawn (sb : Switchboard) {job : Job} (hjob : job.isCheck = true) (c' : ControllerId) :
    ((sb.spawn job).inFlight c').Perm ((job.claim? c').toList ++ sb.inFlight c') := by
  have hchecks : (sb.spawn job).checks = sb.checks ++ [job] := by simp [checks, spawn, hjob]
  have hverdicts : (sb.spawn job).verdicts = sb.verdicts := rfl
  have hone : [job].filterMap (Job.claim? c') = (job.claim? c').toList := by
    cases hclaim : job.claim? c' <;> simp [hclaim]
  rw [inFlight, hchecks, hverdicts, List.filterMap_append, hone, List.append_assoc]
  exact List.perm_append_comm_assoc ..

/-- A check that is over is not in flight on its own account. -/
theorem inFlight_eraseIdx {place : Nat} {job : Job} (hplace : sb.jobs[place]? = some job)
    (hjob : job.isCheck = true) (c' : ControllerId) :
    (sb.inFlight c').Perm
      ((job.claim? c').toList ++ { sb with jobs := sb.jobs.eraseIdx place }.inFlight c') := by
  obtain ⟨as, bs, hjobs, herased⟩ := exists_eraseIdx hplace
  have hchecks : sb.checks = as.filter Job.isCheck ++ job :: bs.filter Job.isCheck := by
    simp [checks, hjobs, hjob]
  have hchecks' : { sb with jobs := sb.jobs.eraseIdx place }.checks =
      as.filter Job.isCheck ++ bs.filter Job.isCheck := by
    rw [checks, herased, List.filter_append]
  have hverdicts : { sb with jobs := sb.jobs.eraseIdx place }.verdicts = sb.verdicts := rfl
  rw [inFlight, inFlight, hchecks, hchecks', hverdicts]
  cases hclaim : job.claim? c' with
  | none => simp [hclaim]
  | some claim => simp [hclaim, List.perm_middle]

/-- What came of a check is in flight for the interface that takes it. -/
theorem inFlight_post (sb : Switchboard) (c c' : ControllerId) (task : Task)
    (htask : task.isVerdict = true) (hhears : c' = c → sb.hears c = true) :
    ((sb.post c task).inFlight c').Perm
      ((if c' = c then task.claim?.toList else []) ++ sb.inFlight c') := by
  have hchecks : (sb.post c task).checks = sb.checks := rfl
  rw [inFlight, hchecks, verdicts_post sb c task htask, inFlight]
  by_cases hc : c' = c
  · subst hc
    have hone : [task].filterMap Task.claim? = task.claim?.toList := by
      cases hclaim : task.claim? <;> simp [hclaim]
    rw [if_pos ⟨rfl, hhears rfl⟩, if_pos rfl, List.filterMap_append, hone, ← List.append_assoc]
    exact List.perm_append_comm
  · rw [if_neg fun h => hc h.1, if_neg hc]
    exact .refl _

/-- What an interface takes off its queue to apply it is not in flight any more. -/
theorem inFlight_popTask {task : Task} {rest : List Task} (hwaiting : sb.waiting c = task :: rest)
    (htask : task.isVerdict = true) (c' : ControllerId) :
    (sb.inFlight c').Perm
      ((if c' = c then task.claim?.toList else []) ++ (sb.popTask c).inFlight c') := by
  have hchecks : (sb.popTask c).checks = sb.checks := rfl
  rw [inFlight, inFlight, hchecks, verdicts_popTask hwaiting htask]
  by_cases hc : c' = c
  · subst hc
    rw [if_pos rfl, if_pos rfl, verdicts_of_waiting hwaiting htask, List.tail_cons]
    cases hclaim : task.claim? with
    | none => simp [hclaim]
    | some claim => simp [hclaim, List.perm_middle]
  · rw [if_neg hc, if_neg hc]
    exact .refl _

/-! ## What a start does to the claims -/

/-- A start that is asked for is claimed, unless it is turned down. -/
theorem claimed_start (h : sb.Claimed c') (c : ControllerId) (pod : ResourcePath)
    (selection : Selection) : (sb.start c pod selection).Claimed c' := by
  cases hctl : sb.controllers[c]? with
  | none => rwa [start_of_none hctl]
  | some ctl =>
    cases htaken : sb.isTaken ctl ⟨pod, selection.container⟩ with
    | true =>
      rw [start_of_taken hctl htaken]
      exact h.congr rfl id (.refl _)
    | false =>
      let key : SessionKey := ⟨pod, selection.container⟩
      let counted := { sb with startCount := sb.startCount + 1 }
      have hnew : ctl.starts.get? key = none := by
        have hfree := (Bool.or_eq_false_iff.1 htaken).1
        simpa using hfree
      rw [start_of_free hctl htaken]
      have hhears : (counted.control c fun ctl => ctl.claim key sb.startCount).hears = sb.hears :=
        hears_control fun _ => rfl
      have hcheck : (Job.checkPorts c sb.startCount key selection).isCheck = true := rfl
      have hflight := inFlight_spawn
        (counted.control c fun ctl => ctl.claim key sb.startCount) hcheck c'
      have hcounted : counted.inFlight c' = sb.inFlight c' := rfl
      rw [inFlight_control (f := fun ctl => ctl.claim key sb.startCount) (fun _ => rfl) c',
        hcounted] at hflight
      intro starts hstarts hh
      have hstarts' := (starts?_control counted c (·.claim key sb.startCount) c').symm.trans hstarts
      refine hflight.trans ?_
      by_cases hc : c' = c
      · subst hc
        rw [if_pos rfl, show counted.controllers[c']? = some ctl from hctl] at hstarts'
        cases hstarts'
        have hold := h ctl.starts (by simp [starts?, hctl]) (hhears ▸ hh)
        have hclaim : Job.claim? c' (.checkPorts c' sb.startCount key selection) =
            some (key, sb.startCount) := by simp [Job.claim?]
        rw [hclaim]
        exact (hold.cons _).trans (OrderedMap.perm_entries_insert hnew).symm
      · have hclaim : Job.claim? c' (.checkPorts c sb.startCount key selection) = none := by
          simp [Job.claim?, Ne.symm hc]
        rw [if_neg hc] at hstarts'
        rw [hclaim]
        exact h starts hstarts' (hhears ▸ hh)

/-- The end of a check claims and releases nothing. -/
theorem claimed_finishJob (h : sb.Claimed c') {place : Nat} {selection : Selection}
    (hplace : sb.jobs[place]? = some (.checkPorts c k key selection)) :
    (sb.finishJob place).Claimed c' := by
  rw [finishJob_of_check hplace]
  let erased := { sb with jobs := sb.jobs.eraseIdx place }
  let task : Task :=
    .checked k key selection (checkTunnels sb.surroundings.held selection.tunnels)
  have hstarts : (erased.post c task).starts? c' = sb.starts? c' :=
    starts?_control_of (f := fun ctl => ctl.post task) (fun _ => rfl) c'
  have hhears : (erased.post c task).hears = sb.hears := hears_post erased c task
  intro starts hs hh
  have hold := h starts (hstarts ▸ hs) (hhears ▸ hh)
  have hposted := inFlight_post erased c c' task rfl fun hc => hc ▸ hhears ▸ hh
  have hgone := inFlight_eraseIdx hplace rfl c'
  refine hposted.trans (.trans (.trans (.of_eq ?_) hgone.symm) hold)
  by_cases hc : c' = c
  · subst hc
    simp [task, Task.claim?, Job.claim?, erased]
  · simp [Job.claim?, hc, Ne.symm hc, erased]

/-- What the interface applies is released. -/
theorem claimed_verdict (h : sb.Claimed c') {selection : Selection}
    {result : Except Failure Unit} {rest : List Task}
    (hwaiting : sb.waiting c = .checked k key selection result :: rest) :
    (sb.step (.applyTask c)).Claimed c' := by
  obtain ⟨sb', hstep, hwithin⟩ := verdict_within hwaiting
  have hpopped : (sb.popTask c).starts? c' = sb.starts? c' := by
    rw [popTask]
    refine starts?_control_of ?_ c'
    exact fun _ => rfl
  have hstart : sb'.starts? c' = sb.starts? c' := (hwithin.starts? c').trans hpopped
  have htaken := inFlight_popTask hwaiting rfl c'
  have hreleased : (sb'.control c fun ctl => ctl.release key).Claimed c' := by
    intro starts hs hh
    rw [hears_control (f := fun ctl => ctl.release key) fun _ => rfl, hwithin.hears,
      hears_popTask] at hh
    rw [inFlight_control (f := fun ctl => ctl.release key) fun _ => rfl, hwithin.inFlight]
    rw [starts?_control] at hs
    by_cases hc : c' = c
    · subst hc
      rw [if_pos rfl] at hs htaken
      obtain ⟨ctl, hctl, rfl⟩ := Option.map_eq_some_iff.1 hs
      have hold := h ctl.starts (hstart ▸ by simp [starts?, hctl]) hh
      have hmem : (key, k) ∈ ctl.starts.entries :=
        hold.subset (htaken.symm.subset (by simp [Task.claim?]))
      have hentry := OrderedMap.mem_entries_iff.1 hmem
      exact (htaken.symm.trans (hold.trans (OrderedMap.perm_entries_erase hentry))).cons_inv
    · rw [if_neg hc] at hs htaken
      exact htaken.symm.trans (h starts (hstart ▸ hs) hh)
  rw [hstep]
  cases sb.outcome c k key selection result with
  | error e => exact hreleased.congr rfl id (.refl _)
  | ok _ => exact hreleased

/-- The claims of an interface that shuts down are of no interest any more. -/
theorem claimed_closeInterface (h : sb.Claimed c') (c : ControllerId) :
    (sb.step (.closeInterface c)).Claimed c' := by
  intro starts hs hh
  by_cases hc : c' = c
  · subst hc
    cases (hears_closeInterface sb c').symm.trans hh
  · have hother : (sb.step (.closeInterface c)).controllers[c']? = sb.controllers[c']? := by
      simp [step, control, Ne.symm hc]
    have hstarts : (sb.step (.closeInterface c)).starts? c' = sb.starts? c' := by
      rw [starts?, hother, starts?]
    have hhears : (sb.step (.closeInterface c)).hears c' = sb.hears c' := by
      rw [hears, hother, hears]
    have hflight : (sb.step (.closeInterface c)).inFlight c' = sb.inFlight c' := by
      simp only [inFlight, verdicts, waiting, queue?, hother]
      rfl
    rw [hflight]
    exact h starts (hstarts ▸ hs) (hhears ▸ hh)

/-! ## Runs -/

/-- No move brings claims and starts in flight apart. -/
theorem claimed_step (h : sb.Claimed c) (wf : sb.registry.WellFormed) (m : Move) :
    (sb.step m).Claimed c := by
  rcases aside_step wf m with haside | hconcerns
  · exact haside.claimed h
  · cases hconcerns with
    | start haside hstep =>
      rw [hstep]
      exact claimed_start (haside.claimed h) _ _ _
    | check hplace => exact claimed_finishJob h hplace
    | verdict hwaiting => exact claimed_verdict h hwaiting
    | shut => exact claimed_closeInterface h _

theorem claimed_initial (surroundings : Surroundings) (controllers : List (String × Nat))
    (c : ControllerId) : (initial surroundings controllers).Claimed c := by
  intro starts hstarts hhears
  obtain ⟨ctl, hctl, rfl⟩ := Option.map_eq_some_iff.1 hstarts
  obtain ⟨config, -, rfl⟩ := Option.map_eq_some_iff.1 ((List.getElem?_map ..).symm.trans hctl)
  have hnone : (initial surroundings controllers).verdicts c = [] := verdicts_of_controller hctl
  rw [inFlight, hnone]
  exact .refl _

theorem Claimed.run (h : sb.Claimed c) (hsound : sb.Sound) (moves : List Move) :
    (sb.run moves).Claimed c :=
  hsound.run_induction h (fun _ hsound h m => claimed_step h hsound.wellFormed m) moves

theorem claimed_run {surroundings : Surroundings} (controllers : List (String × Nat))
    (hrefuses : surroundings.refusesEmpty = true) (moves : List Move) (c : ControllerId) :
    ((initial surroundings controllers).run moves).Claimed c :=
  strict_run (P := (·.Claimed c)) controllers hrefuses (claimed_initial surroundings controllers c)
    (fun _ hsound _ h m => claimed_step h hsound.wellFormed m) moves

/-- The pending starts of a controller are counted by its starts in flight, and its claims are
theirs. -/
theorem Claimed.pendingStarts {ctl : Controller} (h : sb.Claimed c)
    (hctl : sb.controllers[c]? = some ctl) (hhears : sb.hears c = true) :
    ctl.pendingStarts = (sb.inFlight c).length ∧
      ∀ key k, ctl.starts.get? key = some k ↔ (key, k) ∈ sb.inFlight c := by
  have hperm := h ctl.starts (by simp [starts?, hctl]) hhears
  exact ⟨hperm.length_eq.symm, fun key k => OrderedMap.mem_entries_iff.symm.trans
    hperm.mem_iff.symm⟩

end Switchboard

end PodTunnels
