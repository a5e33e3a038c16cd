import PodTunnels.Proofs.Sound
import Mathlib.Data.List.Induction

/-!
# Closes of transports

Every session has a transport of its own, and a transport is closed only on behalf of its session,
whose request to close is remembered. So no transport is closed twice (`accounted_run`).
-/

namespace PodTunnels

/-- The books on transports: each session of a roster owns one of the transports that were opened,
no two own the same one, and those that were closed are all different, each with a request to close
by its owner. -/
structure Ledger (roster : List Session) (closings : List TransportId) (opened : Nat) : Prop where
  distinct : ∀ (id id' : SessionId) (s s' : Session), roster[id]? = some s →
    roster[id']? = some s' → s.transport = s'.transport → id = id'
  bounded : ∀ (id : SessionId) (s : Session), roster[id]? = some s → s.transport < opened
  nodup : closings.Nodup
  requested : ∀ t ∈ closings, ∃ (id : SessionId) (s : Session),
    roster[id]? = some s ∧ s.transport = t ∧ s.closeRequested = true

namespace Ledger

variable {roster : List Session} {closings : List TransportId} {opened opened' : Nat}
  {id : SessionId} {s : Session}

theorem mono (h : Ledger roster closings opened) (hopened : opened ≤ opened') :
    Ledger roster closings opened' :=
  ⟨h.distinct, fun id s hs => Nat.lt_of_lt_of_le (h.bounded id s hs) hopened, h.nodup, h.requested⟩

theorem getElem?_live (roster : List Session) (id id' : SessionId) (f : Life → Life) :
    (roster.modify id fun s => s.live f)[id']? =
      if id' = id then roster[id']?.map (·.live f) else roster[id']? :=
  Registry.session?_live ⟨roster, {}⟩ id id' f

/-- The transport of a session that lives on. -/
theorem exists_of_live {f : Life → Life} {id' : SessionId} {s' : Session}
    (hs' : (roster.modify id fun s => s.live f)[id']? = some s') :
    ∃ s, roster[id']? = some s ∧ s'.transport = s.transport := by
  rw [getElem?_live] at hs'
  split at hs'
  · obtain ⟨s, hs, rfl⟩ := Option.map_eq_some_iff.1 hs'
    exact ⟨s, hs, rfl⟩
  · exact ⟨s', hs', rfl⟩

/-- A life that goes on without losing its request to close. -/
theorem live (h : Ledger roster closings opened) (id : SessionId) {f : Life → Life}
    (hf : ∀ l, l.closeRequested = true → (f l).closeRequested = true) :
    Ledger (roster.modify id fun s => s.live f) closings opened := by
  refine ⟨fun i i' s s' hs hs' heq => ?_, fun i s hs => ?_, h.nodup, fun t ht => ?_⟩
  · obtain ⟨s₀, hs₀, hts⟩ := exists_of_live hs
    obtain ⟨s₁, hs₁, hts'⟩ := exists_of_live hs'
    exact h.distinct i i' s₀ s₁ hs₀ hs₁ (hts.symm.trans (heq.trans hts'))
  · obtain ⟨s₀, hs₀, hts⟩ := exists_of_live hs
    exact hts ▸ h.bounded i s₀ hs₀
  · obtain ⟨i, s, hs, rfl, hreq⟩ := h.requested t ht
    by_cases hi : i = id
    · exact ⟨i, s.live f, by rw [getElem?_live, if_pos hi, hs]; rfl, rfl, hf _ hreq⟩
    · exact ⟨i, s, by rw [getElem?_live, if_neg hi, hs], rfl, hreq⟩

/-- A first request to close is entered. -/
theorem requestClose (h : Ledger roster closings opened) (hs : roster[id]? = some s)
    (hnot : s.closeRequested = false) :
    Ledger (roster.modify id fun s => s.live Life.requestClose) (closings ++ [s.transport])
      opened := by
  have hlive := h.live id (f := Life.requestClose) fun _ _ => rfl
  refine ⟨hlive.distinct, hlive.bounded, ?_, fun t ht => ?_⟩
  · refine List.nodup_append.2 ⟨h.nodup, by simp, ?_⟩
    rintro t ht t' ht' rfl
    rw [List.mem_singleton] at ht'
    obtain ⟨i, s', hs', htransport, hreq⟩ := h.requested t ht
    obtain rfl := h.distinct i id s' s hs' hs (htransport.trans ht')
    cases hs.symm.trans hs'
    simp [hreq] at hnot
  · rcases List.mem_append.1 ht with hold | hnew
    · exact hlive.requested t hold
    · rw [List.mem_singleton] at hnew
      refine ⟨id, s.live Life.requestClose, ?_, hnew.symm, rfl⟩
      rw [getElem?_live, if_pos rfl, hs]
      rfl

/-- A new session comes with a new transport. -/
theorem enroll (h : Ledger roster closings opened) {w : Wiring} (hnew : opened ≤ w.transport)
    (hopened : w.transport < opened') : Ledger (roster ++ [.ofWiring w]) closings opened' := by
  have hfresh (i : SessionId) (s : Session) (hs : roster[i]? = some s) :
      s.transport ≠ w.transport :=
    Nat.ne_of_lt (Nat.lt_of_lt_of_le (h.bounded i s hs) hnew)
  have hcases {i : SessionId} {s : Session} (hs : (roster ++ [.ofWiring w])[i]? = some s) :
      roster[i]? = some s ∨ i = roster.length ∧ s = .ofWiring w := by
    have hs' := (Registry.session?_enroll ⟨roster, {}⟩ w i).symm.trans hs
    split at hs'
    · rename_i hi
      exact .inr ⟨hi, (Option.some.inj hs').symm⟩
    · exact .inl hs'
  refine ⟨fun i i' s s' hs hs' heq => ?_, fun i s hs => ?_, h.nodup, fun t ht => ?_⟩
  · rcases hcases hs with hold | ⟨rfl, rfl⟩ <;> rcases hcases hs' with hold' | ⟨rfl, rfl⟩
    · exact h.distinct i i' s s' hold hold' heq
    · exact absurd heq (hfresh i s hold)
    · exact absurd heq.symm (hfresh i' s' hold')
    · rfl
  · rcases hcases hs with hold | ⟨rfl, rfl⟩
    · exact Nat.lt_trans (Nat.lt_of_lt_of_le (h.bounded i s hold) hnew) hopened
    · exact hopened
  · obtain ⟨i, s, hs, htransport, hreq⟩ := h.requested t ht
    refine ⟨i, s, ?_, htransport, hreq⟩
    rw [List.getElem?_append_left (List.getElem?_eq_some_iff.1 hs).1]
    exact hs

end Ledger

namespace Switchboard

variable {sb : Switchboard} {id : SessionId} {c : ControllerId} {key : SessionKey}

/-- The books of a switchboard are in order. -/
def Accounted (sb : Switchboard) : Prop :=
  Ledger sb.registry.roster sb.closings sb.transports.length

theorem accounted_live (h : sb.Accounted) (id : SessionId) {f : Life → Life}
    (hf : ∀ l, l.closeRequested = true → (f l).closeRequested = true) :
    (sb.live id f).Accounted :=
  Ledger.live h id hf

theorem accounted_closeSession (h : sb.Accounted) (id : SessionId) :
    (sb.closeSession id).Accounted := by
  cases hs : sb.session? id with
  | none => rwa [closeSession_of_none hs]
  | some s =>
    cases hreq : s.closeRequested with
    | true => rwa [closeSession_of_requested hs hreq]
    | false =>
      rw [closeSession_of_not_requested hs hreq]
      exact Ledger.requestClose h hs hreq

theorem accounted_deleteSession (h : sb.Accounted) (id : SessionId) :
    { sb with registry := sb.registry.deleteSession id }.Accounted := by
  unfold Accounted
  rw [Registry.roster_deleteSession]
  exact h

theorem accounted_stopSession (h : sb.Accounted) (id : SessionId) :
    (sb.stopSession id).Accounted :=
  have hdown := accounted_live (accounted_deleteSession h id) id (f := Life.deactivate)
    fun _ hreq => hreq
  accounted_closeSession hdown id

theorem accounted_cleanUp (h : sb.Accounted) (id : SessionId) : (sb.cleanUp id).Accounted := by
  unfold cleanUp
  split
  · split
    · exact h
    · refine accounted_live (accounted_deleteSession h id) id fun l hreq => ?_
      exact l.onward_retire.closeRequested hreq
  · exact h

theorem accounted_wire (h : sb.Accounted) (t : TransportId) (f : Transport → Transport) :
    (sb.wire t f).Accounted := by
  unfold Accounted
  simp only [wire, List.length_modify]
  exact h

theorem accounted_connect (h : sb.Accounted) (t : Transport) : (sb.connect t).2.Accounted :=
  Ledger.mono h (by simp [connect])

/-- A session may be made on the transport that was opened for it just now. -/
theorem accounted_enroll (h : sb.Accounted) (t : Transport) {w : Wiring}
    (hw : w.transport = sb.transports.length) : ((sb.connect t).2.enroll w).2.Accounted :=
  Ledger.enroll h (Nat.le_of_eq hw.symm) (by simp [connect, enroll, hw])

theorem accounted_launchRunner (h : sb.Accounted) (c : ControllerId) (id : SessionId) :
    (sb.launchRunner c id).Accounted := by
  unfold launchRunner
  split
  · exact accounted_live h id fun _ hreq => hreq
  · exact h

theorem accounted_register (h : sb.Accounted) (wf : sb.registry.WellFormed) (t : Transport)
    (c : ControllerId) {w : Wiring} (hw : w.transport = sb.transports.length) :
    ((sb.connect t).2.register c w).2.Accounted := by
  have henrolled := accounted_enroll h t hw
  have wf' : (sb.connect t).2.registry.WellFormed := wf
  cases hlookup : sb.registry.lookup w.key with
  | none =>
    rw [register_of_lookup_none wf' c hlookup]
    have hinstalled : ((sb.connect t).2.install w).Accounted := henrolled
    exact accounted_launchRunner hinstalled c _
  | some id =>
    rw [register_of_lookup_some wf' c hlookup]
    exact accounted_wire (accounted_closeSession henrolled _) _ _

theorem accounted_registerRival (h : sb.Accounted) (wf : sb.registry.WellFormed)
    (hfree : sb.registry.lookup key = none) : (sb.registerRival key).Accounted := by
  obtain ⟨t, ht⟩ := registerRival_of_lookup_none wf hfree
  rw [ht]
  exact accounted_enroll h t rfl

theorem accounted_atOpening (h : sb.Accounted) (wf : sb.registry.WellFormed)
    (hfree : sb.registry.lookup key = none) : (sb.atOpening key).Accounted := by
  unfold atOpening
  split
  · exact accounted_registerRival h wf hfree
  · exact h

theorem accounted_openSession (h : sb.Accounted) (wf : sb.registry.WellFormed) (c : ControllerId)
    (start : StartId) (key : SessionKey) (tunnels : List Tunnel) :
    (sb.openSession c start key tunnels).2.Accounted := by
  cases hfree : sb.registry.lookup key with
  | some id =>
    simp only [openSession, hfree]
    exact h
  | none =>
    simp only [openSession, hfree]
    rcases openTransport_cases sb key tunnels with ⟨e, he⟩ | hok
    · rw [he]
      exact h
    · rw [hok]
      have h' := accounted_atOpening h wf hfree
      dsimp only
      split
      · exact accounted_wire (accounted_connect h' _) _ _
      · exact accounted_register h' (wellFormed_atOpening wf hfree) _ c rfl

theorem Quiet.accounted {sb' : Switchboard} (hquiet : sb.Quiet sb') (h : sb.Accounted) :
    sb'.Accounted := by
  unfold Accounted
  rw [hquiet.registry, hquiet.closings, hquiet.transports]
  exact h

theorem accounted_applyTask (h : sb.Accounted) (wf : sb.registry.WellFormed) (c : ControllerId) :
    (sb.applyTask c).Accounted := by
  cases hwaiting : sb.waiting c with
  | nil => rwa [applyTask_of_nil hwaiting]
  | cons task rest =>
    have hpop : (sb.popTask c).Accounted := h
    rw [applyTask_of_cons hwaiting]
    cases task with
    | resolved generation result => exact (quiet_resolved ..).accounted hpop
    | portsRead generation pod result => exact (quiet_portsRead ..).accounted hpop
    | checked start key selection result =>
      refine (quiet_reportStart ..).accounted ?_
      cases result with
      | error e => exact hpop
      | ok _ => exact accounted_openSession hpop wf c start key _
    | activate id =>
      simp only [perform, activate]
      split
      · split
        · exact accounted_live hpop id fun _ hreq => hreq
        · exact hpop
      · exact hpop
    | retire id outcome =>
      have hclean := accounted_cleanUp hpop id
      simp only [perform, retire]
      split
      · split <;> exact hclean
      · exact hpop

theorem accounted_stepRunner (h : sb.Accounted) (id : SessionId) :
    (sb.stepRunner id).Accounted := by
  rcases stepRunner_cases sb id with hidle | ⟨s, r, -, -, hready | hfails | hends⟩
  · rwa [hidle]
  · have hentered := accounted_live h id (f := fun l => l.enter .forwarding) fun _ hreq => hreq
    rw [hready.2.2, runnerReady]
    split
    · exact hentered
    · refine accounted_live hentered id fun l hreq => ?_
      split <;> exact hreq
  · obtain ⟨outcome, sb', -, -, hsb', heq⟩ := hfails
    have h' : sb'.Accounted := by
      rcases hsb' with rfl | rfl
      · exact h
      · exact accounted_wire h _ _
    have hclosed := accounted_closeSession h' id
    rw [heq]
    exact accounted_live (f := fun l => l.setAlarm _) (accounted_live hclosed id
      (f := fun l => l.enter (.aborting outcome sb'.clock)) fun _ hreq => hreq) id
      fun _ hreq => hreq
  · obtain ⟨outcome, -, heq⟩ := hends
    have hended := accounted_wire (accounted_live h id
      (f := fun l => (l.enter .ended).terminate) fun _ hreq => hreq) s.transport Transport.drop
    rw [heq, runnerEnd]
    split
    · exact hended
    · exact accounted_cleanUp hended id

/-- No move brings the books into disorder. -/
theorem accounted_step (h : sb.Accounted) (wf : sb.registry.WellFormed) (m : Move) :
    (sb.step m).Accounted := by
  cases m with
  | trigger c target => exact (quiet_trigger ..).accounted h
  | start c pod selection => exact (quiet_start ..).accounted h
  | confirmSelection c dialog selection => exact (quiet_confirmSelection ..).accounted h
  | cancelSelection c dialog => exact (quiet_cancelSelection ..).accounted h
  | confirmDeletion c dialog =>
    rw [step, confirmDeletion]
    split
    · exact h
    · rename_i d _
      have hstopped : (d.sessions.foldl stopSession
          (sb.control c fun ctl => ctl.answerDeletion dialog)).Accounted :=
        List.foldlRecOn (motive := Accounted) _ _ h fun _ h id _ => accounted_stopSession h id
      dsimp only
      split <;> exact hstopped
  | cancelDeletion c dialog => exact (quiet_cancelDeletion ..).accounted h
  | stop key =>
    cases hentry : sb.registry.entries.get? key with
    | none =>
      simp only [step, stop_of_none hentry]
      exact h
    | some id =>
      rw [step_stop_of_entry wf hentry]
      exact accounted_stopSession h id
  | stopAll =>
    exact List.foldlRecOn (motive := Accounted) _ closeSession h
      fun _ h id _ => accounted_closeSession h id
  | applyTask c => exact accounted_applyTask h wf c
  | closeInterface c => exact h
  | finishJob place => exact (quiet_finishJob ..).accounted h
  | stepRunner id => exact accounted_stepRunner h id
  | signalReady t outcome => exact accounted_wire h t _
  | signalFinish t outcome => exact accounted_wire h t _
  | elapse duration => exact h
  | hold place => exact h
  | unhold place => exact h
  | setCluster cluster => exact h
  | makeSession key tunnels plan =>
    simp only [step, makeSession]
    split
    · exact accounted_wire (accounted_connect h _) _ _
    · exact accounted_enroll h _ rfl
  | add id =>
    simp only [step]
    cases hadd : sb.registry.add id with
    | error e => exact h
    | ok registry =>
      change Ledger registry.roster _ _
      rw [Registry.roster_add hadd]
      exact h
  | delete key =>
    cases hentry : sb.registry.entries.get? key with
    | none =>
      simp only [step, Registry.delete_of_none hentry]
      exact h
    | some id =>
      simp only [step, wf.delete_eq hentry]
      exact accounted_deleteSession h id
  | deleteSession id => exact accounted_deleteSession h id
  | close id => exact accounted_closeSession h id
  | launch c id =>
    simp only [step]
    split
    · exact accounted_launchRunner h c id
    · exact h

theorem accounted_run (surroundings : Surroundings) (controllers : List (String × Nat))
    (moves : List Move) : ((initial surroundings controllers).run moves).Accounted := by
  refine (sound_initial surroundings controllers).run_induction ?_ (fun sb hsound h m =>
    accounted_step h hsound.wellFormed m) moves
  refine ⟨?_, ?_, List.nodup_nil, ?_⟩ <;> simp [initial]

end Switchboard

end PodTunnels
