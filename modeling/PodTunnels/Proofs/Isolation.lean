import PodTunnels.Proofs.Flows

/-!
# Sessions do not interfere

A move acts for the sessions that it is about: the session of a runner or of a task, the one that
is registered under a key, or those that a question listed. Every other session stays what it is,
and stays registered. There is one exception: a session that is registered but no longer live gives
way when another one registers under its key.

So a session leaves the registry in few ways (`leaves_step`). In none of them it matters which other
sessions had the key before: a runner that ends late removes its own session or none, and a question
lists no session that is younger than itself.
-/

namespace PodTunnels

namespace Registry

variable {r : Registry} {id id' : SessionId} {s : Session} {key : SessionKey}

/-- Whatever is registered and live for a pod exists. -/
theorem session?_ne_none_of_mem_allForPod {pod : ResourcePath} (h : id ∈ r.allForPod pod) :
    r.session? id ≠ none := by
  intro hnone
  obtain ⟨entry, hentry, rfl⟩ := List.mem_map.1 h
  have hlive : r.isLive entry.2 = true := (of_decide_eq_true (List.mem_filter.1 hentry).2).2
  simp [isLive, hnone] at hlive

end Registry

namespace Switchboard

variable {sb : Switchboard} {id : SessionId} {s : Session} {c : ControllerId} {m : Move}
  {key : SessionKey}

/-- A move acts for a session: it is a step of its runner, its activation or its retirement, a stop
of the session, or something done to the session by hand. -/
inductive ActsFor (sb : Switchboard) (id : SessionId) : Move → Prop
  | runner : ActsFor sb id (.stepRunner id)
  | activation {c : ControllerId} {rest : List Task}
      (hwaiting : sb.waiting c = .activate id :: rest) : ActsFor sb id (.applyTask c)
  | retirement {c : ControllerId} {outcome : Outcome} {rest : List Task}
      (hwaiting : sb.waiting c = .retire id outcome :: rest) : ActsFor sb id (.applyTask c)
  | stop {m : Move} (hstops : sb.Stops id m) : ActsFor sb id m
  | stopAll (hreg : id ∈ sb.registry.sessions) : ActsFor sb id .stopAll
  | close : ActsFor sb id (.close id)
  | launch {c : ControllerId} : ActsFor sb id (.launch c id)
  | add : ActsFor sb id (.add id)
  | delete {key : SessionKey} (hentry : sb.registry.entries.get? key = some id) :
      ActsFor sb id (.delete key)
  | deleteSession : ActsFor sb id (.deleteSession id)

/-- A move registers a session under a key, if the key is free. -/
inductive Registers (sb : Switchboard) (key : SessionKey) : Move → Prop
  /-- A start comes to put its session there, or comes after another one that does. -/
  | start {c : ControllerId} {start : StartId} {selection : Selection}
      {result : Except Failure Unit} {rest : List Task}
      (hwaiting : sb.waiting c = .checked start key selection result :: rest) :
      Registers sb key (.applyTask c)
  | add {id : SessionId} {s : Session} (hs : sb.session? id = some s) (hkey : s.key = key) :
      Registers sb key (.add id)

/-- A session that is no longer live gives way to another one that is registered under its key. -/
structure GivesWay (sb : Switchboard) (id : SessionId) (s : Session) (m : Move) : Prop where
  dead : s.isLive = false
  registers : sb.Registers s.key m
  taken : ∃ id', id' ≠ id ∧ (sb.step m).registry.entries.get? s.key = some id'

/-- The ways in which a session leaves the registry. -/
inductive Leaves (sb : Switchboard) (id : SessionId) (s : Session) : Move → Prop
  /-- It is stopped, by the key that it holds or by a question that listed it. -/
  | stopped {m : Move} (hstops : sb.Stops id m) : Leaves sb id s m
  /-- An interface comes to its retirement. -/
  | retired {c : ControllerId} {outcome : Outcome} {rest : List Task}
      (hwaiting : sb.waiting c = .retire id outcome :: rest) : Leaves sb id s (.applyTask c)
  /-- Its runner ends and finds no interface. -/
  | retiredAlone {r : Runner} {outcome : Outcome} (hrunner : s.runner = some r)
      (hends : sb.Ends s r outcome) (hdeaf : sb.hears r.controller = false) :
      Leaves sb id s (.stepRunner id)
  | gaveWay {m : Move} (h : sb.GivesWay id s m) : Leaves sb id s m
  /-- Somebody removes the entry of its key, or the session, from the registry by hand. -/
  | deleted (hentry : sb.registry.entries.get? s.key = some id) : Leaves sb id s (.delete s.key)
  | deletedSession : Leaves sb id s (.deleteSession id)

/-- A session that a move does not act for stays what it is, and is not registered by it. -/
theorem session_step_of_not_actsFor (wf : sb.registry.WellFormed) (hs : sb.session? id = some s)
    (h : ¬ sb.ActsFor id m) :
    (sb.step m).session? id = some s ∧
      ((sb.step m).registry.isRegistered id = true → sb.registry.isRegistered id = true) := by
  have hturn := turn_step wf m id
  change ((sb.step m).standing id).session = some s ∧
    (((sb.step m).standing id).registered = true → (sb.standing id).registered = true)
  generalize (sb.step m).standing id = st at hturn
  cases hturn with
  | rest | shut => exact ⟨hs, fun hreg => hreg⟩
  | displaced | deleted => exact ⟨hs, nofun⟩
  | created hnone => cases hs.symm.trans hnone
  | added => exact absurd .add h
  | deletedSession => exact absurd .deleteSession h
  | closed => exact absurd .close h
  | closedAll hreg => exact absurd (.stopAll hreg) h
  | stopped hstops => exact absurd (.stop hstops) h
  | launched => exact absurd .launch h
  | activated hwaiting | outlived hwaiting => exact absurd (.activation hwaiting) h
  | retired hwaiting | missed hwaiting => exact absurd (.retirement hwaiting) h
  | ready | readyAlone | aborted | ended | endedAlone => exact absurd .runner h

/-- A task acts for no session but its own. -/
theorem not_actsFor_of_task {task : Task} {rest : List Task}
    (hwaiting : sb.waiting c = task :: rest) (htask : task.session? ≠ some id) :
    ¬ sb.ActsFor id (.applyTask c) := by
  intro h
  cases h with
  | activation hwaiting' | retirement hwaiting' =>
    cases hwaiting.symm.trans hwaiting'
    exact htask rfl
  | stop hstops => cases hstops

/-! ## Leaving the registry -/

section Entries

variable (sb : Switchboard) (id : SessionId)

@[simp] theorem entries_closeSession :
    (sb.closeSession id).registry.entries = sb.registry.entries := by
  unfold closeSession
  split
  · split <;> rfl
  · rfl

@[simp] theorem entries_launchRunner (c : ControllerId) :
    (sb.launchRunner c id).registry.entries = sb.registry.entries := by
  unfold launchRunner
  split <;> rfl

/-- A close leaves the registry as it is. -/
theorem isRegistered_closeSession (id' : SessionId) :
    (sb.closeSession id').registry.isRegistered id = sb.registry.isRegistered id := by
  have hclosed := congrArg Standing.registered (standing_closeSession sb id id')
  split at hclosed <;> exact hclosed

variable {id}

/-- A cleanup leaves every other session where it is. -/
theorem isRegistered_cleanUp_of_ne {id' : SessionId} (h : id ≠ id') :
    (sb.cleanUp id').registry.isRegistered id = sb.registry.isRegistered id :=
  congrArg Standing.registered ((standing_cleanUp sb id id').trans (if_neg h))

end Entries

variable {sb₀ : Switchboard}

theorem entries_register_of_lookup_some (wf : sb₀.registry.WellFormed)
    (hreg : sb.registry = sb₀.registry) (c : ControllerId) {w : Wiring} {id' : SessionId}
    (htaken : sb₀.registry.lookup w.key = some id') :
    (sb.register c w).2.registry.entries = sb₀.registry.entries := by
  rw [register_of_lookup_some (hreg ▸ wf) c (hreg ▸ htaken), ← hreg]
  exact entries_closeSession _ _

theorem entries_register_of_lookup_none (wf : sb₀.registry.WellFormed)
    (hreg : sb.registry = sb₀.registry) (c : ControllerId) {w : Wiring}
    (hfree : sb₀.registry.lookup w.key = none) :
    (sb.register c w).2.registry.entries =
      sb₀.registry.entries.insert w.key sb₀.registry.roster.length := by
  rw [register_of_lookup_none (hreg ▸ wf) c (hreg ▸ hfree), ← hreg]
  exact entries_launchRunner _ _ c

/-- At the opening of a transport, a rival may take the free key. -/
theorem entries_atOpening (wf : sb.registry.WellFormed) (hfree : sb.registry.lookup key = none) :
    (sb.atOpening key).registry = sb.registry ∨
      (∃ id', (sb.atOpening key).registry.lookup key = some id') ∧
        (sb.atOpening key).registry.entries =
          sb.registry.entries.insert key sb.registry.roster.length := by
  have wf' : sb.attempt.registry.WellFormed := wf
  have hfree' : sb.attempt.registry.lookup key = none := hfree
  unfold atOpening
  split
  · obtain ⟨t, ht⟩ := registerRival_of_lookup_none wf' hfree'
    exact .inr ⟨⟨_, lookup_registerRival wf' hfree'⟩, ht ▸ rfl⟩
  · exact .inl rfl

/-- A start changes the entries by at most one, which is for a new session under its own free
key. -/
theorem entries_openSession (wf : sb.registry.WellFormed) (c : ControllerId) (start : StartId)
    (key : SessionKey) (tunnels : List Tunnel) :
    (sb.openSession c start key tunnels).2.registry.entries = sb.registry.entries ∨
      sb.registry.lookup key = none ∧
        (sb.openSession c start key tunnels).2.registry.entries =
          sb.registry.entries.insert key sb.registry.roster.length := by
  cases hfree : sb.registry.lookup key with
  | some id' =>
    simp only [openSession, hfree]
    exact .inl trivial
  | none =>
    have wfOpened := wellFormed_atOpening wf hfree
    have hopened := entries_atOpening wf hfree
    simp only [openSession, hfree]
    rcases openTransport_cases sb key tunnels with ⟨e, he⟩ | hok
    · rw [he]
      exact .inl rfl
    · rw [hok]
      generalize sb.atOpening key = opened at wfOpened hopened
      dsimp only
      split
      · rcases hopened with hsame | ⟨-, hinserted⟩
        · exact .inl (congrArg Registry.entries hsame)
        · exact .inr ⟨trivial, hinserted⟩
      · rename_i hne
        refine .inr ⟨trivial, ?_⟩
        rcases hopened with hsame | ⟨⟨id', hheld⟩, hinserted⟩
        · exact entries_register_of_lookup_none (w := ⟨key, tunnels, hne, _, some start⟩) wf
            ((connect_registry ..).trans hsame) c hfree
        · exact (entries_register_of_lookup_some (w := ⟨key, tunnels, hne, _, some start⟩) wfOpened
            (connect_registry ..) c hheld).trans hinserted

/-- Where at most one entry changed, a session that stays what it is stays registered or gives
way. -/
theorem stays_or_gives_way {id' : SessionId} (hs : sb.session? id = some s)
    (hkept : (sb.step m).session? id = some s ∧
      ((sb.step m).registry.isRegistered id = true → sb.registry.isRegistered id = true))
    (hregisters : sb.Registers key m) (hother : id' ≠ id) (hfree : sb.registry.lookup key = none)
    (hentries : (sb.step m).registry.entries = sb.registry.entries.insert key id') :
    (sb.step m).registry.isRegistered id = sb.registry.isRegistered id ∨ sb.Leaves id s m := by
  obtain ⟨hs', hnotNew⟩ := hkept
  have hget (key' : SessionKey) : (sb.step m).registry.entries.get? key' =
      if key' = key then some id' else sb.registry.entries.get? key' :=
    hentries ▸ OrderedMap.get?_insert_eq ..
  by_cases hkey : s.key = key
  · subst hkey
    cases hreg : sb.registry.isRegistered id with
    | false => exact .inl (by simpa [hreg] using hnotNew)
    | true =>
      have hentry := (Registry.isRegistered_of_session? hs).1 hreg
      have hdead := Registry.lookup_eq_none_iff.1 hfree id hentry
      rw [Registry.isLive_of_session? hs] at hdead
      exact .inr (.gaveWay ⟨hdead, hregisters, id', hother, (hget _).trans (if_pos rfl)⟩)
  · left
    rw [Bool.eq_iff_iff, Registry.isRegistered_of_session? hs',
      Registry.isRegistered_of_session? hs, hget, if_neg hkey]

/-- A step of a runner takes its own session out of the registry, or none. -/
theorem leaves_stepRunner {id' : SessionId} (hs : sb.session? id = some s) :
    (sb.stepRunner id').registry.isRegistered id = sb.registry.isRegistered id ∨
      sb.Leaves id s (.stepRunner id') := by
  rcases stepRunner_cases sb id' with hidle | ⟨s', r, hs', hrunner, hready | hfails | hends⟩
  · exact .inl (by rw [hidle])
  · rw [hready.2.2, runnerReady]
    split
    · exact .inl (Registry.isRegistered_live ..)
    · exact .inl ((Registry.isRegistered_live ..).trans (Registry.isRegistered_live ..))
  · obtain ⟨outcome, sb', -, -, hsb', heq⟩ := hfails
    have hreg : sb'.registry = sb.registry := by
      rcases hsb' with rfl | rfl <;> rfl
    have hkept : (sb'.closeSession id').registry.isRegistered id = sb.registry.isRegistered id :=
      (isRegistered_closeSession sb' id id').trans (by rw [hreg])
    rw [heq, runnerAbort]
    exact .inl ((Registry.isRegistered_live ..).trans
      ((Registry.isRegistered_live ..).trans hkept))
  · obtain ⟨outcome, hends, heq⟩ := hends
    let done := (sb.live id' fun l => (l.enter .ended).terminate).wire s'.transport Transport.drop
    have hdone : done.registry.isRegistered id = sb.registry.isRegistered id :=
      Registry.isRegistered_live ..
    rw [heq, runnerEnd]
    split
    · exact .inl hdone
    · rename_i hdeaf
      by_cases hid : id = id'
      · subst hid
        cases hs.symm.trans hs'
        have hdeaf' : sb.hears r.controller = false := Bool.eq_false_iff.2 hdeaf
        exact .inr (.retiredAlone hrunner hends hdeaf')
      · exact .inl ((isRegistered_cleanUp_of_ne done hid).trans hdone)

/-- A task takes its own session out of the registry, or the one that gives way to a new one. -/
theorem leaves_applyTask (wf : sb.registry.WellFormed) (hs : sb.session? id = some s) :
    (sb.step (.applyTask c)).registry.isRegistered id = sb.registry.isRegistered id ∨
      sb.Leaves id s (.applyTask c) := by
  cases hwaiting : sb.waiting c with
  | nil => exact .inl (by rw [step, applyTask_of_nil hwaiting])
  | cons task rest =>
    have happly : sb.step (.applyTask c) = (sb.popTask c).perform c task :=
      applyTask_of_cons hwaiting
    cases task with
    | resolved generation result =>
      rw [happly, perform, (quiet_resolved ..).registry]
      exact .inl rfl
    | portsRead generation pod result =>
      rw [happly, perform, (quiet_portsRead ..).registry]
      exact .inl rfl
    | activate id' =>
      rw [happly, perform, activate]
      split
      · split
        · exact .inl (Registry.isRegistered_live ..)
        · exact .inl rfl
      · exact .inl rfl
    | retire id' outcome =>
      by_cases hid : id = id'
      · exact .inr (.retired (hid ▸ hwaiting))
      · rw [happly, perform, retire]
        split
        · dsimp only
          split <;> exact .inl (isRegistered_cleanUp_of_ne (sb.popTask c) hid)
        · exact .inl rfl
    | checked start key selection result =>
      have hentries : (sb.step (.applyTask c)).registry.entries = sb.registry.entries ∨
          sb.registry.lookup key = none ∧ (sb.step (.applyTask c)).registry.entries =
            sb.registry.entries.insert key sb.registry.roster.length := by
        rw [happly]
        simp only [perform, checked]
        rw [(quiet_reportStart ..).registry]
        cases result with
        | error e => exact .inl rfl
        | ok _ => exact entries_openSession (show (sb.popTask c).registry.WellFormed from wf) ..
      have hkept := session_step_of_not_actsFor wf hs
        (not_actsFor_of_task hwaiting (by simp [Task.session?]))
      rcases hentries with hsame | ⟨hfree, hinserted⟩
      · left
        rw [Bool.eq_iff_iff, Registry.isRegistered_of_session? hkept.1,
          Registry.isRegistered_of_session? hs]
        exact iff_of_eq (congrArg (·.get? s.key = some id) hsame)
      · have hnew : sb.session? sb.registry.roster.length = none := Registry.session?_length
        refine stays_or_gives_way hs hkept (.start hwaiting) ?_ hfree hinserted
        rintro rfl
        cases hs.symm.trans hnew

/-- A session stays registered in each move in which it does not leave the registry. -/
theorem leaves_step (wf : sb.registry.WellFormed) (hs : sb.session? id = some s) (m : Move)
    (hreg : sb.registry.isRegistered id = true) :
    (sb.step m).registry.isRegistered id = true ∨ sb.Leaves id s m := by
  rw [← hreg]
  have hquiet (h : sb.Quiet (sb.step m)) :
      (sb.step m).registry.isRegistered id = sb.registry.isRegistered id ∨ sb.Leaves id s m :=
    .inl (by rw [h.registry])
  cases m with
  | trigger c target => exact hquiet (quiet_trigger ..)
  | start c pod selection => exact hquiet (quiet_start ..)
  | confirmSelection c dialog selection => exact hquiet (quiet_confirmSelection ..)
  | cancelSelection c dialog => exact hquiet (quiet_cancelSelection ..)
  | confirmDeletion c dialog =>
    cases hopen : sb.controllers[c]?.bind fun ctl => ctl.openDeletion? dialog with
    | none =>
      simp only [step, confirmDeletion, hopen]
      exact .inl trivial
    | some d =>
      obtain ⟨ctl, hctl, hd⟩ := Option.bind_eq_some_iff.1 hopen
      by_cases hlisted : id ∈ d.sessions
      · exact .inr (.stopped (.deletion hctl hd hlisted))
      · have hspared : (sb.confirmDeletion c dialog).standing id = sb.standing id :=
          (standing_confirmDeletion hopen).trans (if_neg hlisted)
        exact .inl (congrArg Standing.registered hspared)
  | cancelDeletion c dialog => exact hquiet (quiet_cancelDeletion ..)
  | stop key =>
    cases hentry : sb.registry.entries.get? key with
    | none =>
      simp only [step, stop_of_none hentry]
      exact .inl rfl
    | some id' =>
      have hstopped := standing_stopSession sb id id'
      rw [step_stop_of_entry wf hentry]
      by_cases hid : id = id'
      · exact .inr (.stopped (.key (hid ▸ hentry)))
      · rw [if_neg hid] at hstopped
        exact .inl (congrArg Standing.registered hstopped)
  | stopAll =>
    have hclosed := congrArg Standing.registered
      (standing_foldl_closeSession sb id sb.registry.sessions)
    left
    split at hclosed <;> exact hclosed
  | applyTask c => exact leaves_applyTask wf hs
  | finishJob place => exact hquiet (quiet_finishJob ..)
  | stepRunner id' => exact leaves_stepRunner hs
  | makeSession key tunnels plan =>
    left
    simp only [step, makeSession]
    split
    · rfl
    · exact wf.isRegistered_enroll ..
  | add id' =>
    cases hs' : sb.session? id' with
    | none =>
      simp only [step, Registry.add_of_none hs']
      exact .inl rfl
    | some s' =>
      cases hlookup : sb.registry.lookup s'.key with
      | some id'' =>
        simp only [step, Registry.add_of_lookup_some hs' hlookup]
        exact .inl rfl
      | none =>
        have hstep : (sb.step (.add id')).registry =
            { sb.registry with entries := sb.registry.entries.insert s'.key id' } := by
          simp only [step, Registry.add_of_lookup_none hs' hlookup]
          rfl
        by_cases hid : id = id'
        · left
          rw [hstep, Registry.isRegistered_insert hs', if_pos hid, hreg]
        · refine stays_or_gives_way hs ?_ (.add hs' rfl) (Ne.symm hid) hlookup (hstep ▸ rfl)
          exact session_step_of_not_actsFor wf hs fun h => by cases h <;> contradiction
  | delete key =>
    cases hentry : sb.registry.entries.get? key with
    | none =>
      simp only [step, Registry.delete_of_none hentry]
      exact .inl rfl
    | some id' =>
      by_cases hid : id = id'
      · subst hid
        obtain ⟨s', hs', rfl⟩ := wf hentry
        cases hs.symm.trans hs'
        exact .inr (.deleted hentry)
      · simp only [step, wf.delete_eq hentry]
        left
        exact (Registry.isRegistered_deleteSession ..).trans (by simp [hid])
  | deleteSession id' =>
    by_cases hid : id = id'
    · subst hid
      exact .inr .deletedSession
    · exact .inl ((Registry.isRegistered_deleteSession ..).trans (by simp [hid]))
  | close id' => exact .inl (isRegistered_closeSession sb id id')
  | launch c id' =>
    left
    simp only [step]
    split
    · unfold launchRunner
      split
      · exact Registry.isRegistered_live ..
      · rfl
    · rfl
  | closeInterface | signalReady | signalFinish | elapse | hold | unhold | setCluster =>
    exact .inl rfl

/-! ## Old questions -/

section Questions

open Dialogue

variable {d d' : Dialogue}

/-- A question lists what one before it listed, or what is registered. -/
inductive Arises (registry : Registry) (d : Dialogue) (dialog : DeletionDialog) : Prop
  | before {dialog' : DeletionDialog} (hdialog' : dialog' ∈ d.deletions)
      (hsame : dialog'.sessions = dialog.sessions) : Arises registry d dialog
  | asked {pod : ResourcePath} (hsessions : dialog.sessions = registry.allForPod pod) :
      Arises registry d dialog

variable {registry : Registry} {dialog : DeletionDialog}

theorem Arises.of_mem (h : dialog ∈ d.deletions) : Arises registry d dialog :=
  .before h rfl

theorem Arises.leads {begun : Dialogue} {result : Except Failure ResourcePath}
    (hleads : Leads registry c begun result d') (hbegun : begun.deletions = d.deletions)
    (hdialog : dialog ∈ d'.deletions) : Arises registry d dialog := by
  cases hleads with
  | failed | reading => exact .of_mem (hbegun ▸ hdialog)
  | asked =>
    rcases List.mem_append.1 hdialog with hold | hnew
    · exact .of_mem (hbegun ▸ hold)
    · cases List.mem_singleton.1 hnew
      exact .asked rfl

theorem Arises.answered (n : Nat) (h : dialog ∈ (d.answerDeletion n).deletions) :
    Arises registry d dialog := by
  obtain ⟨dialog', hdialog', rfl | rfl⟩ := exists_of_mem_modify h
  · exact .of_mem hdialog'
  · exact .before hdialog' rfl

theorem arises_turn (hturn : sb.FlowTurn c d m d') (hdialog : dialog ∈ d'.deletions) :
    Arises sb.registry d dialog := by
  cases hturn with
  | known hknown h => exact .leads h rfl hdialog
  | resolved hwaiting herrands h => exact .leads h rfl hdialog
  | portsRead hwaiting herrands h =>
    cases h with
    | failed | undeclared | offered => exact .of_mem hdialog
  | finished =>
    rw [deletions_post] at hdialog
    exact .of_mem hdialog
  | confirmedSelection | cancelledSelection =>
    rw [deletions_advance] at hdialog
    exact .of_mem hdialog
  | confirmedDeletion | cancelledDeletion =>
    exact .answered _ ((deletions_advance ..) ▸ hdialog)
  | _ => exact .of_mem hdialog

/-- The sessions that a question lists exist. -/
theorem listed_run {surroundings : Surroundings} {controllers : List (String × Nat)}
    {moves : List Move} (hd : ((initial surroundings controllers).run moves).dialogue c = some d)
    (hdialog : dialog ∈ d.deletions) (hlisted : id ∈ dialog.sessions) :
    ((initial surroundings controllers).run moves).session? id ≠ none := by
  induction moves using List.reverseRecOn generalizing d dialog with
  | nil =>
    obtain ⟨_, -, rfl⟩ := eq_of_dialogue_initial hd
    cases hdialog
  | append_singleton moves m ih =>
    have hsound := (sound_initial surroundings controllers).run moves
    rw [run_concat] at hd ⊢
    obtain ⟨d₀, hd₀, hturn⟩ := exists_flowTurn hsound.wellFormed hd
    have hbefore : ((initial surroundings controllers).run moves).session? id ≠ none := by
      cases arises_turn hturn hdialog with
      | before hdialog' hsame => exact ih hd₀ hdialog' (hsame ▸ hlisted)
      | asked hsessions => exact Registry.session?_ne_none_of_mem_allForPod (hsessions ▸ hlisted)
    obtain ⟨s, hs⟩ := Option.ne_none_iff_exists'.1 hbefore
    obtain ⟨s', hs', -⟩ := hsound.follows_step m id s hs
    exact Option.ne_none_iff_exists'.2 ⟨s', hs'⟩

/-- A question does not stop a session that did not exist yet when the question was there. -/
theorem not_stops_of_younger {surroundings : Surroundings} {controllers : List (String × Nat)}
    (before after : List Move) {n : Nat} {dialog : DeletionDialog} {ctl : Controller}
    (hctl : ((initial surroundings controllers).run before).controllers[c]? = some ctl)
    (hdialog : ctl.deletions[n]? = some dialog)
    (hyounger : ((initial surroundings controllers).run before).session? id = none) :
    ¬ (((initial surroundings controllers).run before).run after).Stops id
      (.confirmDeletion c n) := by
  intro hstops
  cases hstops with
  | @deletion _ _ ctl' dialog' hctl' hopen hlisted =>
    have hd : ((initial surroundings controllers).run before).dialogue c =
        some (dialogueOf ((initial surroundings controllers).run before) c ctl) :=
      congrArg (Option.map _) hctl
    have hd' : (((initial surroundings controllers).run before).run after).dialogue c =
        some (dialogueOf (((initial surroundings controllers).run before).run after) c ctl') :=
      congrArg (Option.map _) hctl'
    have hkeeps := keeps_run ((sound_initial surroundings controllers).run before) hd after hd'
    obtain ⟨answered, hkept⟩ := hkeeps.deletion n dialog hdialog
    cases hkept.symm.trans (Option.filter_eq_some_iff.1 hopen).1
    exact listed_run hd (List.mem_of_getElem? hdialog) hlisted hyounger

end Questions

/-! ## Others are spared -/

/-- A move spares a session: it stays what it is, and registered or not as it was. -/
def Spares (sb : Switchboard) (id : SessionId) (m : Move) : Prop :=
  (sb.step m).session? id = sb.session? id ∧
    (sb.step m).registry.isRegistered id = sb.registry.isRegistered id

/-- A move spares whatever it does not act for, or the session gives way. -/
theorem spares_or_gives_way (wf : sb.registry.WellFormed) (hs : sb.session? id = some s)
    (h : ¬ sb.ActsFor id m) :
    sb.Spares id m ∨ (sb.step m).session? id = some s ∧ sb.GivesWay id s m := by
  obtain ⟨hs', hnotNew⟩ := session_step_of_not_actsFor wf hs h
  cases hreg : sb.registry.isRegistered id with
  | false =>
    refine .inl ⟨hs'.trans hs.symm, ?_⟩
    simpa [hreg] using hnotNew
  | true =>
    rcases leaves_step wf hs m hreg with hstays | hleaves
    · exact .inl ⟨hs'.trans hs.symm, hstays.trans hreg.symm⟩
    · cases hleaves with
      | gaveWay hgives => exact .inr ⟨hs', hgives⟩
      | stopped hstops => exact absurd (.stop hstops) h
      | retired hwaiting => exact absurd (.retirement hwaiting) h
      | retiredAlone => exact absurd .runner h
      | deleted hentry => exact absurd (.delete hentry) h
      | deletedSession => exact absurd .deleteSession h

theorem spares_of_not_registers (wf : sb.registry.WellFormed) (hs : sb.session? id = some s)
    (h : ¬ sb.ActsFor id m) (hm : ∀ key, ¬ sb.Registers key m) : sb.Spares id m :=
  (spares_or_gives_way wf hs h).resolve_right fun hgives => hm s.key hgives.2.registers

/-- Sessions do not interfere. Whatever a move does not act for stays as it is, in its own state and
in the registry, unless it is no longer live and gives way to a session that is registered under
its key. A session leaves the registry only if it is stopped or retired or gives way, or is removed
by hand. The runner of another session, the retirement of another session, and a question that is
older than the session spare it, even if they once had the key. -/
theorem sessions_apart (surroundings : Surroundings) (controllers : List (String × Nat))
    (before after : List Move) (id : SessionId) (s : Session)
    (hs : (((initial surroundings controllers).run before).run after).session? id = some s) :
    let earlier := (initial surroundings controllers).run before
    let sb := earlier.run after
    (∀ m, ¬ sb.ActsFor id m →
      sb.Spares id m ∨ (sb.step m).session? id = some s ∧ sb.GivesWay id s m) ∧
    (sb.registry.isRegistered id = true →
      ∀ m, (sb.step m).registry.isRegistered id = true ∨ sb.Leaves id s m) ∧
    (∀ id', id' ≠ id → sb.Spares id (.stepRunner id')) ∧
    (∀ c id' outcome rest, sb.waiting c = .retire id' outcome :: rest → id' ≠ id →
      sb.Spares id (.applyTask c)) ∧
    (earlier.session? id = none → ∀ (c : ControllerId) (ctl : Controller) n dialog,
      earlier.controllers[c]? = some ctl → ctl.deletions[n]? = some dialog →
      sb.Spares id (.confirmDeletion c n)) := by
  intro earlier sb
  have wf : sb.registry.WellFormed :=
    (((sound_initial surroundings controllers).run before).run after).wellFormed
  refine ⟨fun m h => spares_or_gives_way wf hs h, fun hreg m => leaves_step wf hs m hreg,
    fun id' hother => ?_, fun c id' outcome rest hwaiting hother => ?_,
    fun hyounger c ctl n dialog hctl hdialog => ?_⟩
  · refine spares_of_not_registers wf hs (fun h => ?_) (fun _ h => by cases h)
    cases h with
    | runner => exact hother rfl
    | stop hstops => cases hstops
  · refine spares_of_not_registers wf hs (not_actsFor_of_task hwaiting ?_) fun key hregisters => ?_
    · simpa [Task.session?] using hother
    · cases hregisters with
      | start hwaiting' => cases hwaiting.symm.trans hwaiting'
  · refine spares_of_not_registers wf hs (fun h => ?_) (fun _ h => by cases h)
    cases h with
    | stop hstops => exact not_stops_of_younger before after hctl hdialog hyounger hstops

/-- A session is active when it is asked about. -/
def askedAbout : List Move :=
  webStart 0 0 ++ [.applyTask 0, .trigger 0 ⟨.pod, webPod⟩]

/-- It is stopped, and another one is started under its key. -/
def replaced : List Move :=
  .stop webKey :: webStart 0 1

theorem spares_of_replaced :
    (((initial { cluster := .empty } [("127.0.0.1", 30)]).run askedAbout).run
        replaced).registry.lookup webKey = some 1 ∧
      (((initial { cluster := .empty } [("127.0.0.1", 30)]).run askedAbout).run replaced).Spares 1
        (.confirmDeletion 0 0) ∧
      (((initial { cluster := .empty } [("127.0.0.1", 30)]).run askedAbout).run replaced).Spares 1
        (.stepRunner 0) := by
  obtain ⟨s, hs⟩ : ∃ s, (((initial { cluster := .empty } [("127.0.0.1", 30)]).run askedAbout).run
      replaced).session? 1 = some s :=
    Option.isSome_iff_exists.1 (by decide +kernel)
  obtain ⟨-, -, hrunner, -, hquestion⟩ :=
    sessions_apart { cluster := .empty } [("127.0.0.1", 30)] askedAbout replaced 1 s hs
  exact ⟨by decide +kernel, hquestion (Option.isNone_iff_eq_none.1 (by decide +kernel)) 0 _ 0 _ rfl
    rfl, hrunner 0 (by decide)⟩

end Switchboard

end PodTunnels
