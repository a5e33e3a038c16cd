/-!
# The queue in front of a user interface

Background work never touches the interface; it queues tasks, and the interface applies them one
at a time in the order they were accepted. Any number of handles feed one queue. A task is accepted
exactly while the receiving end exists; when that end is dropped, the tasks still waiting are
dropped with it.

A task that is applied may queue further tasks, which take their place behind everything accepted
before them. Which ones it queues may depend on the interface, and on whether those before were
accepted.
-/

namespace PodTunnels

/-- A queue of tasks with the number of its handles. -/
structure UiQueue (τ : Type) where
  handles : Nat := 1
  isOpen : Bool := true
  waiting : List τ := []

namespace UiQueue

variable {τ : Type}

def clone (q : UiQueue τ) : UiQueue τ :=
  { q with handles := q.handles + 1 }

/-- Queue a task, and say whether it was accepted. -/
def send (q : UiQueue τ) (task : τ) : Bool × UiQueue τ :=
  if q.isOpen then (true, { q with waiting := q.waiting ++ [task] }) else (false, q)

def pop? (q : UiQueue τ) : Option (τ × UiQueue τ) :=
  match q.waiting with
  | [] => none
  | task :: rest => some (task, { q with waiting := rest })

/-- Drop the receiving end and what waits there. -/
def close (q : UiQueue τ) : UiQueue τ :=
  { q with isOpen := false, waiting := [] }

end UiQueue

/-- What an applied task does. It ends and leaves an interface behind, or it queues a further task
and goes on with whether that was accepted. -/
inductive UiWork (σ : Type) where
  | done (s : σ)
  | send (task : σ → UiWork σ) (goOn : Bool → UiWork σ)

/-- What can be applied to an interface. -/
abbrev UiTask (σ : Type) : Type := σ → UiWork σ

variable {σ : Type}

/-- The tasks that some work queues while they are accepted. -/
def UiWork.queued : UiWork σ → List (UiTask σ)
  | .done _ => []
  | .send task goOn => task :: (goOn true).queued

namespace UiTask

/-! ### Tasks that wait are used up -/

/-- Whether a task is queued by another one, for some interface. -/
def QueuedBy (later earlier : UiTask σ) : Prop :=
  ∃ s, later ∈ (earlier s).queued

/-- What waits after the first task of a list was applied. -/
inductive Follows : List (UiTask σ) → List (UiTask σ) → Prop where
  | apply {task : UiTask σ} {rest added : List (UiTask σ)}
      (hadded : ∀ later ∈ added, QueuedBy later task) : Follows (rest ++ added) (task :: rest)

theorem acc_of_mem_queued {w : UiWork σ} {task : UiTask σ} (h : task ∈ w.queued) :
    Acc QueuedBy task := by
  induction w generalizing task with
  | done s => cases h
  | send first goOn ihFirst ihGoOn =>
    obtain rfl | h := List.mem_cons.1 h
    · exact Acc.intro _ fun later ⟨s, hlater⟩ => ihFirst s hlater
    · exact ihGoOn true h

theorem acc_queuedBy (task : UiTask σ) : Acc QueuedBy task :=
  Acc.intro _ fun _ ⟨_, hlater⟩ => acc_of_mem_queued hlater

theorem acc_append {added waiting : List (UiTask σ)}
    (hadded : ∀ later ∈ added, ∀ waiting, Acc Follows waiting → Acc Follows (waiting ++ [later]))
    (h : Acc Follows waiting) : Acc Follows (waiting ++ added) := by
  induction added generalizing waiting with
  | nil => exact (List.append_nil waiting).symm ▸ h
  | cons later added ih =>
    obtain ⟨hlater, hadded⟩ := List.forall_mem_cons.1 hadded
    simpa using ih hadded (hlater waiting h)

/-- One more task that waits somewhere is used up as well. What it queues comes to stand at the end
of the list, and is used up by induction on the task. -/
theorem acc_insert {task : UiTask σ} (htask : Acc QueuedBy task) {front back : List (UiTask σ)}
    (h : Acc Follows (front ++ back)) : Acc Follows (front ++ task :: back) := by
  induction htask generalizing front back with
  | intro task _ ih =>
    generalize hwaiting : front ++ back = waiting at h
    induction h generalizing front back with
    | intro waiting hfollows ihWaiting =>
      subst hwaiting
      refine Acc.intro _ fun after hafter => ?_
      cases front with
      | nil =>
        cases hafter with | apply hadded =>
        refine acc_append (fun later hlater waiting h => ?_) (Acc.intro _ hfollows)
        exact ih later (hadded later hlater) ((List.append_nil waiting).symm ▸ h)
      | cons first front =>
        cases hafter with | @apply _ _ added hadded =>
        have hrest : Follows (front ++ back ++ added) (first :: (front ++ back)) := .apply hadded
        have hacc := ihWaiting _ hrest (List.append_assoc front back added).symm
        simpa using hacc

theorem acc_follows (waiting : List (UiTask σ)) : Acc Follows waiting := by
  induction waiting with
  | nil => exact Acc.intro _ fun _ h => by cases h
  | cons task waiting ih =>
    have hwaiting : Acc Follows ([] ++ waiting) := ih
    exact acc_insert (acc_queuedBy task) hwaiting

instance : WellFoundedRelation (List (UiTask σ)) :=
  ⟨Follows, ⟨acc_follows⟩⟩

end UiTask

namespace UiQueue

variable {q rest : UiQueue (UiTask σ)} {task : UiTask σ}

/-- Do the work of an applied task. -/
def perform (q : UiQueue (UiTask σ)) : UiWork σ → UiQueue (UiTask σ) × σ
  | .done s => (q, s)
  | .send task goOn =>
    let (accepted, q) := q.send task
    q.perform (goOn accepted)

/-- Some work puts its tasks behind all that wait if they are accepted. -/
theorem perform_fst (q : UiQueue (UiTask σ)) (w : UiWork σ) :
    (q.perform w).1 =
      if q.isOpen then { q with waiting := q.waiting ++ w.queued } else q := by
  induction w generalizing q with
  | done s => simp [perform, UiWork.queued]
  | send task goOn _ ih =>
    cases hopen : q.isOpen with
    | true => simp [perform, send, hopen, ih, UiWork.queued]
    | false => simp [perform, send, hopen, ih]

theorem follows_of_pop? (h : q.pop? = some (task, rest)) (s : σ) :
    UiTask.Follows (rest.perform (task s)).1.waiting q.waiting := by
  unfold pop? at h
  split at h
  · cases h
  · rename_i first waiting hwaiting
    cases h
    rw [hwaiting, perform_fst]
    split
    · exact .apply fun later hlater => ⟨s, hlater⟩
    · have hnone : UiTask.Follows (waiting ++ []) (task :: waiting) :=
        .apply fun later hlater => absurd hlater List.not_mem_nil
      rwa [List.append_nil] at hnone

/-- Apply tasks until none waits, and count them on from a number. -/
def drainFrom (applied : Nat) (q : UiQueue (UiTask σ)) (s : σ) : Nat × UiQueue (UiTask σ) × σ :=
  match h : q.pop? with
  | none => (applied, q, s)
  | some (task, rest) =>
    let done := rest.perform (task s)
    drainFrom (applied + 1) done.1 done.2
termination_by q.waiting
decreasing_by exact follows_of_pop? h s

/-- Apply everything that waits, tasks queued meanwhile included, and count it. -/
def drain (q : UiQueue (UiTask σ)) (s : σ) : Nat × UiQueue (UiTask σ) × σ :=
  drainFrom 0 q s

end UiQueue

end PodTunnels
