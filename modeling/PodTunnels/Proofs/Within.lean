import PodTunnels.Proofs.Aside

/-!
# Opening a session for a start

To open a session for a start is within that start. Transports may be opened, a session may be made
for it, and somebody else's session besides; but controllers and jobs are what they were, and so is
everything that is kept about the other starts (`Within.openSession`). Unlike for a change that is
aside, nothing is said here about transports. So it does not matter whether a transport without
tunnels is refused.
-/

namespace PodTunnels

namespace Switchboard

/-- A change that no controller sees, and no start but one. -/
structure Within (k : StartId) (sb sb' : Switchboard) : Prop where
  controllers : sb'.controllers = sb.controllers
  jobs : sb'.jobs = sb.jobs
  startCount : sb'.startCount = sb.startCount
  told : sb'.toldStart = sb.toldStart
  made : ∀ k', k' ≠ k → sb'.made k' = sb.made k'

namespace Within

variable {k : StartId} {sb sb₁ sb₂ sb₃ : Switchboard}

theorem trans (h : Within k sb₁ sb₂) (h' : Within k sb₂ sb₃) : Within k sb₁ sb₃ where
  controllers := h'.controllers.trans h.controllers
  jobs := h'.jobs.trans h.jobs
  startCount := h'.startCount.trans h.startCount
  told := h'.told.trans h.told
  made k' hk := (h'.made k' hk).trans (h.made k' hk)

theorem of_apart (h : sb₁.Apart sb₂) : Within k sb₁ sb₂ where
  controllers := h.controllers
  jobs := h.jobs
  startCount := h.startCount
  told := h.told
  made k' _ := by rw [Switchboard.made, Switchboard.made, h.wirings]

theorem refl (sb : Switchboard) : Within k sb sb :=
  of_apart (.refl sb)

theorem connect (sb : Switchboard) (t : Transport) : Within k sb (sb.connect t).2 :=
  ⟨rfl, rfl, rfl, rfl, fun _ _ => rfl⟩

/-- A session is made for the start, or for none. -/
theorem enroll (sb : Switchboard) {w : Wiring} (hw : ∀ k', k' ≠ k → w.start ≠ some k') :
    Within k sb (sb.enroll w).2 := by
  refine { refl (k := k) sb with made := fun k' hk => ?_ }
  simp [Switchboard.made, wirings, Switchboard.enroll, Registry.enroll, Session.ofWiring,
    List.zipIdx_append, hw k' hk]

/-- A session of the roster may be registered. -/
theorem add {id : SessionId} {r : Registry} (hadd : sb.registry.add id = .ok r) :
    Within k sb { sb with registry := r } :=
  of_apart (Apart.registry sb (congrArg (List.map Session.toWiring) (Registry.roster_add hadd)))

theorem registerRival (sb : Switchboard) (key : SessionKey) :
    Within k sb (sb.registerRival key) := by
  have hmade (t : Transport) (w : Wiring) (hw : w.start = none) :
      Within k sb ((sb.connect t).2.enroll w).2 :=
    (connect sb t).trans (enroll _ (by simp [hw]))
  simp only [Switchboard.registerRival]
  split
  · rename_i hadd
    exact (hmade _ _ rfl).trans (add hadd)
  · exact hmade _ _ rfl

theorem atOpening (sb : Switchboard) (key : SessionKey) : Within k sb (sb.atOpening key) := by
  have hattempt : Within k sb sb.attempt := of_apart (.attempt sb)
  unfold Switchboard.atOpening
  split
  · exact hattempt.trans (registerRival _ key)
  · exact hattempt

theorem register (sb : Switchboard) (c : ControllerId) {w : Wiring} (hw : w.start = some k) :
    Within k sb (sb.register c w).2 := by
  have henroll : Within k sb (sb.enroll w).2 := enroll sb (by simp [hw, eq_comm])
  simp only [Switchboard.register]
  split
  · rename_i hadd
    exact henroll.trans ((add hadd).trans (of_apart (.launchRunner _ c _)))
  · exact henroll.trans (of_apart ((Apart.closeSession ..).trans (.wire_drop ..)))

theorem openSession (sb : Switchboard) (c : ControllerId) (k : StartId) (key : SessionKey)
    (tunnels : List Tunnel) : Within k sb (sb.openSession c k key tunnels).2 := by
  simp only [Switchboard.openSession]
  split
  · exact refl sb
  · rcases openTransport_cases sb key tunnels with ⟨e, he⟩ | hok
    · rw [he]
      exact of_apart (.attempt sb)
    · rw [hok]
      dsimp only
      split
      · exact (atOpening sb key).trans ((connect _ _).trans (of_apart (.wire_drop ..)))
      · exact (atOpening sb key).trans ((connect _ _).trans (register _ c rfl))

end Within

end Switchboard

end PodTunnels
