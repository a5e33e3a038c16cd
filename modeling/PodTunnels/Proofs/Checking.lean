import PodTunnels.Proofs.Drive
import PodTunnels.Proofs.Settling
import Mathlib.Data.List.Induction

/-!
# The check of ports

The ports of a start are checked in order, and the first tunnel whose local end is held fails the
check (`checkTunnels_eq`).

While it is under way, a start is followed by its affair: its ports are being checked, or the check
is over and what came of it waits, has gone with the interface, or was applied (`checking_run`). What
the check finds and what becomes of the start are left open here. That a transport without tunnels
may not be refused makes no difference.
-/

namespace PodTunnels

/-! ## The check -/

/-- The failure that the local end of a tunnel is in use. -/
def Tunnel.inUse (t : Tunnel) : Failure :=
  .portUnavailable t.address t.localPort addressInUse

section Check

variable {held : List LocalEnd} {tunnels : List Tunnel}

/-- The check fails at the first tunnel whose local end is held, and passes if there is none. -/
theorem checkTunnels_eq (held : List LocalEnd) (tunnels : List Tunnel) :
    checkTunnels held tunnels =
      match tunnels.find? fun t => t.localEnd ∈ held with
      | some t => .error t.inUse
      | none => .ok () := by
  induction tunnels with
  | nil => rfl
  | cons t ts ih =>
    by_cases ht : t.localEnd ∈ held
    · simp [checkTunnels, Tunnel.check, ht, Tunnel.inUse]
    · simp [checkTunnels, Tunnel.check, ht, ih]

theorem checkTunnels_of_held {t : Tunnel}
    (hfirst : tunnels.find? (fun t => t.localEnd ∈ held) = some t) :
    checkTunnels held tunnels = .error t.inUse := by
  rw [checkTunnels_eq, hfirst]

theorem checkTunnels_of_free (hfree : ∀ t ∈ tunnels, t.localEnd ∉ held) :
    checkTunnels held tunnels = .ok () := by
  have hnone : tunnels.find? (fun t => t.localEnd ∈ held) = none := by
    simpa [List.find?_eq_none] using hfree
  rw [checkTunnels_eq, hnone]

/-- The check has nothing to do with keys. -/
theorem checkTunnels_ne_duplicate (held : List LocalEnd) (tunnels : List Tunnel)
    (key : SessionKey) : checkTunnels held tunnels ≠ .error (.duplicateSession key) := by
  rw [checkTunnels_eq]
  split <;> simp [Tunnel.inUse]

end Check

namespace Switchboard

variable {sb : Switchboard} {c : ControllerId} {k : StartId} {key : SessionKey}
  {selection : Selection} {m : Move} {moves : List Move}

/-! ## After the check -/

/-- The check of a start is over. What came of it, some `F`, waits for the interface, has gone with
it, or was applied, with an end like `E`. -/
inductive Past (sb : Switchboard) (c : ControllerId) (k : StartId) (key : SessionKey)
    (selection : Selection) (F : Except Failure Unit → Prop)
    (E : Except Failure Unit → List (Wiring × SessionId) → Prop) : Prop
  | waiting {result : Except Failure Unit}
      (haffair : sb.affair k = .checked c k key selection result) (hfound : F result) :
      Past sb c k key selection F E
  | lost (hdeaf : sb.hears c = false) (haffair : sb.affair k = .untouched) :
      Past sb c k key selection F E
  | settled {result : Except Failure Unit} {made : List (Wiring × SessionId)}
      (haffair : sb.affair k = .settled c k result made) (hended : E result made) :
      Past sb c k key selection F E

variable {F : Except Failure Unit → Prop}
  {E : Except Failure Unit → List (Wiring × SessionId) → Prop}

theorem Past.checks (h : sb.Past c k key selection F E) : (sb.affair k).checks = [] := by
  cases h with
  | waiting haffair | lost _ haffair | settled haffair =>
    rw [haffair]
    rfl

/-- A start that is under way is not asked for again. -/
theorem not_asked {sb₁ : Switchboard} (hk : k < sb.startCount) (haside : sb.Aside sb₁) :
    sb₁.startCount ≠ k := by
  rw [haside.startCount]
  exact Nat.ne_of_gt hk

/-- What waits for an interface that shuts down is lost, and nothing else is. -/
theorem Past.closeInterface (h : sb.Past c k key selection F E) (hsound : sb.Sound)
    (c' : ControllerId) : (sb.step (.closeInterface c')).Past c k key selection F E := by
  cases h with
  | @waiting result haffair hfound =>
    by_cases hc : c' = c
    · subst hc
      refine .lost (hears_closeInterface sb c') ?_
      rw [affair_shut, haffair]
      simp [Affair.checked, Affair.untouched]
    · refine .waiting ((affair_closeInterface ?_).trans haffair) hfound
      rw [haffair]
      exact Function.update_of_ne hc _ _
  | lost hdeaf haffair =>
    refine .lost (hsound.deaf_step hdeaf _) ((affair_closeInterface ?_).trans haffair)
    rw [haffair]
    rfl
  | settled haffair hended =>
    refine .settled ((affair_closeInterface ?_).trans haffair) hended
    rw [haffair]
    rfl

/-- Each move leaves what came of a check where it is or brings it on. -/
theorem Past.step (h : sb.Past c k key selection F E) (hsound : sb.Sound)
    (hk : k < sb.startCount)
    (happly : ∀ result rest made, m = .applyTask c →
      sb.waiting c = .checked k key selection result :: rest →
      sb.affair k = .checked c k key selection result → F result →
      (sb.step m).affair k = .settled c k (sb.outcome c k key selection result) made →
      E (sb.outcome c k key selection result) made) :
    (sb.step m).Past c k key selection F E := by
  have hnone := h.checks
  rcases affair_step hsound.wellFormed m k with hsame | hadvances
  · cases h with
    | waiting haffair hfound => exact .waiting (hsame.trans haffair) hfound
    | lost hdeaf haffair => exact .lost (hsound.deaf_step hdeaf m) (hsame.trans haffair)
    | settled haffair hended => exact .settled (hsame.trans haffair) hended
  · cases hadvances with
    | asked haside _ hcount => exact absurd hcount (not_asked hk haside)
    | check hplace =>
      have hmem := mem_checks hplace
      rw [hnone] at hmem
      cases hmem
    | @verdict c' key' selection' result' rest hwaiting =>
      have hmem := mem_verdicts hwaiting
      cases h with
      | waiting haffair hfound =>
        -- Nothing about the start waits but what came of its check.
        rw [haffair] at hmem
        obtain ⟨rfl, hone⟩ := Affair.mem_verdicts_checked.1 hmem
        cases hone
        obtain ⟨made, hsettled⟩ := affair_verdict_settled hwaiting haffair
        exact .settled hsettled (happly _ _ _ rfl hwaiting haffair hfound hsettled)
      | lost _ haffair | settled haffair =>
        rw [haffair] at hmem
        cases hmem
    | shut => exact h.closeInterface hsound _

theorem Past.run (h : sb.Past c k key selection F E) (hsound : sb.Sound)
    (hk : k < sb.startCount)
    (happly : ∀ (sb : Switchboard) result rest made,
      sb.waiting c = .checked k key selection result :: rest →
      sb.affair k = .checked c k key selection result → F result →
      (sb.step (.applyTask c)).affair k = .settled c k (sb.outcome c k key selection result) made →
      E (sb.outcome c k key selection result) made) (moves : List Move) :
    (sb.run moves).Past c k key selection F E := by
  refine (hsound.run_induction (P := fun sb => k < sb.startCount ∧
    sb.Past c k key selection F E) ⟨hk, h⟩ (fun sb hsound ⟨hk, h⟩ m => ?_) moves).2
  refine ⟨Nat.lt_of_lt_of_le hk (startCount_step hsound.wellFormed m), h.step hsound hk ?_⟩
  rintro result rest made rfl hwaiting haffair hfound hsettled
  exact happly sb result rest made hwaiting haffair hfound hsettled

/-! ## While the ports are being checked -/

/-- The check ends, and what came of it goes to the interface if that is still there. -/
theorem past_finishJob (hsound : sb.Sound) {place : Nat}
    (hplace : sb.jobs[place]? = some (.checkPorts c k key selection))
    (haffair : sb.affair k = .checking c k key selection)
    (hfound : F (checkTunnels sb.surroundings.held selection.tunnels)) :
    (sb.step (.finishJob place)).Past c k key selection F E := by
  cases hhears : sb.hears c with
  | true => exact .waiting (affair_finishJob hplace haffair hhears) hfound
  | false =>
    exact .lost (hsound.deaf_step hhears _) (affair_finishJob_of_deaf hplace haffair hhears)

/-- A move leaves the check of a start under way or ends it. -/
theorem checking_step (hsound : sb.Sound) (hk : k < sb.startCount)
    (haffair : sb.affair k = .checking c k key selection)
    (hfound : F (checkTunnels sb.surroundings.held selection.tunnels)) (m : Move) :
    (sb.step m).affair k = .checking c k key selection ∨
      (sb.step m).Past c k key selection F E := by
  rcases affair_step hsound.wellFormed m k with hsame | hadvances
  · exact .inl (hsame.trans haffair)
  · cases hadvances with
    | asked haside _ hcount => exact absurd hcount (not_asked hk haside)
    | check hplace =>
      have hmem := mem_checks hplace
      rw [haffair] at hmem
      cases List.mem_singleton.1 hmem
      exact .inr (past_finishJob hsound hplace haffair hfound)
    | verdict hwaiting =>
      have hmem := mem_verdicts hwaiting
      rw [haffair] at hmem
      cases hmem
    | shut =>
      refine .inl ((affair_closeInterface ?_).trans haffair)
      rw [haffair]
      rfl

theorem startCount_run (h : sb.Sound) (moves : List Move) :
    sb.startCount ≤ (sb.run moves).startCount :=
  h.run_induction (P := fun sb' => sb.startCount ≤ sb'.startCount) (Nat.le_refl _)
    (fun _ hsound hle m => Nat.le_trans hle (startCount_step hsound.wellFormed m)) moves

/-- Along a run the check of a start is under way, or it is over. -/
theorem checking_run (hsound : sb.Sound) (hk : k < sb.startCount)
    (haffair : sb.affair k = .checking c k key selection)
    (hfound : ∀ held, F (checkTunnels held selection.tunnels)) (moves : List Move)
    (happly : ∀ earlier result rest made, earlier ++ [.applyTask c] <+: moves →
      (sb.run earlier).waiting c = .checked k key selection result :: rest → F result →
      E ((sb.run earlier).outcome c k key selection result) made) :
    (sb.run moves).affair k = .checking c k key selection ∨
      (sb.run moves).Past c k key selection F E := by
  induction moves using List.reverseRecOn with
  | nil => exact .inl haffair
  | append_singleton moves m ih =>
    have hsound' := hsound.run moves
    have hk' := Nat.lt_of_lt_of_le hk (startCount_run hsound moves)
    rw [run_concat]
    rcases ih fun earlier result rest made hbegins =>
      happly earlier result rest made (hbegins.trans (List.prefix_append ..)) with hchecking | hpast
    · exact checking_step hsound' hk' hchecking (hfound _) m
    · refine .inr (hpast.step hsound' hk' ?_)
      rintro result rest made rfl hwaiting - hresult -
      exact happly moves result rest made (List.prefix_refl _) hwaiting hresult

/-- As long as there is a check of a start to be ended, it is the one that was begun. -/
theorem checking_of_job (hsound : sb.Sound) (hk : k < sb.startCount)
    (haffair : sb.affair k = .checking c k key selection) {place : Nat}
    (hplace : (sb.run moves).jobs[place]? = some (.checkPorts c k key selection)) :
    ∀ earlier, earlier <+: moves →
      (sb.run earlier).affair k = .checking c k key selection := by
  rintro earlier ⟨later, rfl⟩
  rcases checking_run (F := fun _ => True) (E := fun _ _ => True) hsound hk haffair
    (fun _ => trivial) earlier (fun _ _ _ _ _ _ _ => trivial) with hchecking | hpast
  · exact hchecking
  · have hlater := hpast.run (hsound.run earlier)
      (Nat.lt_of_lt_of_le hk (startCount_run hsound earlier))
      (fun _ _ _ _ _ _ _ _ => trivial) later
    have hmem := mem_checks hplace
    rw [run_append, hlater.checks] at hmem
    cases hmem

end Switchboard

end PodTunnels
