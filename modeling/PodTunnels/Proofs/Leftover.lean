import PodTunnels.Proofs.Affair
import PodTunnels.Proofs.Drive

/-!
# What starts leave behind

Every transport that was opened for a start belongs to a session that was made for a start, and the
other way round (`traced_run`), so nothing that a start has opened gets lost. A session of a start
that was given up stays where it is: it is never launched, and it is not registered unless somebody
does so by hand (`GivenUp.concat`).
-/

namespace PodTunnels

namespace Switchboard

open Standing

variable {sb sb' : Switchboard} {id : SessionId} {c : ControllerId} {k : StartId} {m : Move}
  {w : Wiring} {s : Session} {t : TransportId}

/-! ## Sessions and transports of starts -/

theorem mem_made_iff :
    (w, id) ∈ sb.made k ↔ (∃ s, sb.session? id = some s ∧ s.toWiring = w) ∧ w.start = some k := by
  simp [made, wirings, List.mk_mem_zipIdx_iff_getElem?, session?, Registry.session?]

theorem mem_opened_iff :
    t ∈ sb.opened ↔ ∃ transport, sb.transports[t]? = some transport ∧
      transport.occasion = .start := by
  simp [opened, occasions, List.mk_mem_zipIdx_iff_getElem?]

/-- A session that is made in a move is new. -/
theorem new_of_made (h : sb.Sound) (hmade : sb.made k = [])
    (hmade' : (w, id) ∈ (sb.step m).made k) : sb.session? id = none := by
  by_contra hsome
  obtain ⟨s, hs⟩ := Option.ne_none_iff_exists'.1 hsome
  obtain ⟨⟨s', hs', rfl⟩, hstart⟩ := mem_made_iff.1 hmade'
  obtain ⟨s'', hs'', hwiring, -⟩ := h.follows_step m id s hs
  cases hs'.symm.trans hs''
  have hbefore : (s'.toWiring, id) ∈ sb.made k := mem_made_iff.2 ⟨⟨s, hs, hwiring.symm⟩, hstart⟩
  simp [hmade] at hbefore

theorem Quiet.made (h : sb.Quiet sb') : sb'.made = sb.made := by
  funext k
  rw [Switchboard.made, Switchboard.made, wirings, wirings, h.registry]

theorem Quiet.opened (h : sb.Quiet sb') : sb'.opened = sb.opened := by
  rw [Switchboard.opened, Switchboard.opened, occasions, occasions, h.transports]

/-- The transports that were opened for starts are those of the sessions that were made for
starts. -/
def Traced (sb : Switchboard) : Prop :=
  ∀ t, t ∈ sb.opened ↔ ∃ k w id, (w, id) ∈ sb.made k ∧ w.transport = t

theorem Traced.congr (h : sb.Traced) (hmade : sb'.made = sb.made) (hopened : sb'.opened = sb.opened) :
    sb'.Traced := by
  intro t
  rw [hopened, hmade]
  exact h t

theorem Aside.traced (haside : sb.Aside sb') (h : sb.Traced) : sb'.Traced :=
  h.congr haside.made haside.opened

theorem Quiet.traced (hquiet : sb.Quiet sb') (h : sb.Traced) : sb'.Traced :=
  h.congr hquiet.made hquiet.opened

theorem Makes.traced (hmakes : sb.Makes sb' w id) (hw : w.start = some k) (h : sb.Traced) :
    sb'.Traced := by
  intro t
  rw [hmakes.opened, List.mem_append, List.mem_singleton, h t]
  constructor
  · rintro (⟨k', w', id', hmade, rfl⟩ | rfl)
    · exact ⟨k', w', id', by simp [hmakes.made, hmade], rfl⟩
    · exact ⟨k, w, id, by simp [hmakes.made, hw], rfl⟩
  · rintro ⟨k', w', id', hmade, rfl⟩
    rw [hmakes.made, List.mem_append] at hmade
    rcases hmade with hold | hnew
    · exact .inl ⟨k', w', id', hold, rfl⟩
    · split at hnew
      · cases List.mem_singleton.1 hnew
        exact .inr rfl
      · cases hnew

theorem traced_step (h : sb.Traced) (wf : sb.registry.WellFormed)
    (hrefuses : sb.surroundings.refusesEmpty = true) (m : Move) : (sb.step m).Traced := by
  rcases aside_step wf m with haside | hconcerns
  · exact haside.traced h
  · cases hconcerns with
    | start haside hstep =>
      rw [hstep]
      exact (quiet_start ..).traced (haside.traced h)
    | check hplace => exact (quiet_finishJob ..).traced h
    | @verdict c k key selection result rest hwaiting =>
      obtain ⟨result', sb', hstep, hcases⟩ := verdict_cases wf hrefuses hwaiting
      have hpop : (sb.popTask c).Traced := h.congr rfl rfl
      have hopen : sb'.Traced := by
        rcases hcases with ⟨e, -, haside, -⟩ | ⟨w, id, hw, -, -, hmakes, -⟩
        · exact haside.traced hpop
        · exact hmakes.traced hw hpop
      rw [hstep]
      exact (quiet_reportStart ..).traced (hopen.congr rfl rfl)
    | shut => exact h.congr rfl rfl

theorem traced_run {surroundings : Surroundings} (controllers : List (String × Nat))
    (hrefuses : surroundings.refusesEmpty = true) (moves : List Move) :
    ((initial surroundings controllers).run moves).Traced := by
  refine strict_run controllers hrefuses ?_ (fun sb hsound hrefuses h m =>
    traced_step h hsound.wellFormed hrefuses m) moves
  intro t
  simp [opened, occasions, made, wirings, initial]

/-- The session of a start is not launched by hand. -/
theorem Traced.step_launch (h : sb.Traced) (hmade : (w, id) ∈ sb.made k) (c : ControllerId) :
    sb.step (.launch c id) = sb := by
  obtain ⟨transport, htransport, hoccasion⟩ := mem_opened_iff.1 ((h _).2 ⟨k, w, id, hmade, rfl⟩)
  obtain ⟨⟨s, hs, rfl⟩, -⟩ := mem_made_iff.1 hmade
  simp [step, isUnlaunched, hs, htransport, hoccasion]

/-! ## Sessions that were given up -/

/-- Only by hand is a session registered that is there already. -/
theorem registered_turn_of_session {st : Standing} (hturn : sb.Turn id m st)
    (hs : sb.session? id = some s) (hreg : st.registered = true) :
    sb.registry.isRegistered id = true ∨ m = .add id := by
  cases hturn with
  | rest | shut | closed | closedAll | launched | activated | outlived | missed | ready
  | readyAlone | aborted | ended => exact .inl hreg
  | created hnone => cases hs.symm.trans hnone
  | displaced | deleted | deletedSession | stopped => cases hreg
  | added => exact .inr rfl
  | retired | endedAlone => exact .inl (registered_of_cleanUp hreg)

/-- A session was not registered at any time of a run, but maybe by hand. -/
def NeverRegistered (sb : Switchboard) (id : SessionId) (moves : List Move) : Prop :=
  ∀ earlier, earlier <+: moves → .add id ∉ earlier →
    (sb.run earlier).registry.isRegistered id = false

variable {moves : List Move}

theorem NeverRegistered.of_none (h : sb.Sound) (hnone : (sb.run moves).session? id = none) :
    sb.NeverRegistered id moves := by
  rintro earlier ⟨later, rfl⟩ -
  cases hs : (sb.run earlier).session? id with
  | none => exact Registry.isRegistered_eq_false_of_none hs
  | some s =>
    obtain ⟨s', hs', -⟩ := (h.run earlier).follows_run later id s hs
    rw [← run_append] at hs'
    cases hnone.symm.trans hs'

theorem NeverRegistered.concat (h : sb.NeverRegistered id moves)
    (hlast : .add id ∉ moves ++ [m] →
      ((sb.run moves).step m).registry.isRegistered id = false) :
    sb.NeverRegistered id (moves ++ [m]) := by
  intro earlier hprefix hhand
  rcases List.prefix_concat_iff.1 hprefix with rfl | hearlier
  · rw [run_concat]
    exact hlast hhand
  · exact h earlier hearlier hhand

/-- At the end of a run a session of a start is given up: it was never registered, nobody runs it,
and its transport was closed. -/
structure GivenUp (sb : Switchboard) (moves : List Move) (w : Wiring) (id : SessionId) : Prop where
  unregistered : sb.NeverRegistered id moves
  idle : ∃ s, (sb.run moves).session? id = some s ∧ s.toWiring = w ∧ s.runner = none
  closed : w.transport ∈ (sb.run moves).closings

/-- A session that was given up stays so. -/
theorem GivenUp.concat (h : sb.GivenUp moves w id) (hsound : (sb.run moves).Sound)
    (htraced : (sb.run moves).Traced) (hlasts : (sb.run moves).Lasts ((sb.run moves).step m))
    (hmade : (w, id) ∈ (sb.run moves).made k) : sb.GivenUp (moves ++ [m]) w id := by
  obtain ⟨s, hs, rfl, hidle⟩ := h.idle
  have hturn := hsound.turn m id
  obtain ⟨s', hs', hwiring, -⟩ := hsound.follows_step m id s hs
  refine ⟨h.unregistered.concat fun hhand => ?_, ⟨s', by rwa [run_concat], hwiring, ?_⟩, ?_⟩
  · rw [← Bool.not_eq_true]
    intro hreg
    rcases registered_turn_of_session hturn hs hreg with hbefore | rfl
    · have hnot := h.unregistered moves (List.prefix_refl _) fun hmem =>
        hhand (List.mem_append_left _ hmem)
      cases hnot.symm.trans hbefore
    · simp at hhand
  · have hbefore : ((sb.run moves).standing id).runner? = none :=
      (runner?_of_session (session_standing hs)).trans hidle
    have hafter : (((sb.run moves).step m).standing id).runner? = s'.runner :=
      runner?_of_session (session_standing hs')
    cases drives_turn hturn with
    | rest hsame => exact hafter.symm.trans (hsame.trans hbefore)
    | launched _ _ _ hcause =>
      rcases hcause with hnone | ⟨c, rfl⟩
      · cases hs.symm.trans hnone
      · rw [htraced.step_launch hmade c] at hafter
        exact hafter.symm.trans hbefore
    | ready hs₀ hrunner | failed hs₀ hrunner | ended hs₀ hrunner =>
      cases hs.symm.trans hs₀
      cases hidle.symm.trans hrunner
  · rw [run_concat]
    exact hlasts.closings.subset h.closed

end Switchboard

end PodTunnels
