import PodTunnels.Proofs.Turn

/-!
# New sessions

A start that comes to open its session finds its key held, fails to open a transport, or opens one.
In the last case it puts its session on the roster, after that of a rival if there is one. The first
session that it puts there is registered, since the key was free; a second one is closed again.

So at most two sessions are new, at most one of them is registered, and the session whose key that
one takes was not live any more. Every other session sees nothing of it (`turn_openSession`).
-/

namespace PodTunnels

namespace Switchboard

variable {sb : Switchboard} {id : SessionId} {c : ControllerId}

@[simp] theorem connect_registry (sb : Switchboard) (t : Transport) :
    (sb.connect t).2.registry = sb.registry := rfl

theorem rivalTunnel_ne_nil : [rivalTunnel] ≠ [] := List.cons_ne_nil _ _

/-- The wiring of the session that a rival registers. -/
def rivalWiring (key : SessionKey) (t : TransportId) : Wiring where
  key := key
  tunnels := [rivalTunnel]
  tunnels_ne_nil := rivalTunnel_ne_nil
  transport := t

/-- A new session under the key that it takes. -/
def install (sb : Switchboard) (w : Wiring) : Switchboard :=
  { sb with registry :=
    { (sb.registry.enroll w).2 with
      entries := sb.registry.entries.insert w.key sb.registry.roster.length } }

theorem add_enroll_of_lookup_none (wf : sb.registry.WellFormed) {w : Wiring}
    (hfree : sb.registry.lookup w.key = none) :
    (sb.enroll w).2.registry.add sb.registry.roster.length = .ok (sb.install w).registry := by
  have hs : (sb.enroll w).2.registry.session? sb.registry.roster.length = some (.ofWiring w) := by
    simp [enroll, Registry.session?_enroll]
  exact Registry.add_of_lookup_none hs ((wf.lookup_enroll w w.key).trans hfree)

theorem add_enroll_of_lookup_some (wf : sb.registry.WellFormed) {w : Wiring} {id' : SessionId}
    (htaken : sb.registry.lookup w.key = some id') :
    (sb.enroll w).2.registry.add sb.registry.roster.length =
      .error (.duplicateSession w.key) := by
  have hs : (sb.enroll w).2.registry.session? sb.registry.roster.length = some (.ofWiring w) := by
    simp [enroll, Registry.session?_enroll]
  exact Registry.add_of_lookup_some hs ((wf.lookup_enroll w w.key).trans htaken)

/-- Under a free key, a session is registered and launched. -/
theorem register_of_lookup_none (wf : sb.registry.WellFormed) (c : ControllerId) {w : Wiring}
    (hfree : sb.registry.lookup w.key = none) :
    sb.register c w = (.ok (), (sb.install w).launchRunner c sb.registry.roster.length) := by
  have hadd := add_enroll_of_lookup_none wf hfree
  simp only [register, enroll] at hadd ⊢
  rw [hadd]
  rfl

/-- Under a taken key, the transport of a session is closed again. -/
theorem register_of_lookup_some (wf : sb.registry.WellFormed) (c : ControllerId) {w : Wiring}
    {id' : SessionId} (htaken : sb.registry.lookup w.key = some id') :
    sb.register c w =
      (.error (.duplicateSession w.key),
        ((sb.enroll w).2.closeSession sb.registry.roster.length).wire w.transport
          Transport.drop) := by
  have hadd := add_enroll_of_lookup_some wf htaken
  simp only [register, enroll] at hadd ⊢
  rw [hadd]

theorem registerRival_of_lookup_none (wf : sb.registry.WellFormed) {key : SessionKey}
    (hfree : sb.registry.lookup key = none) :
    ∃ t, sb.registerRival key =
      (sb.connect t).2.install (rivalWiring key sb.transports.length) := by
  let t : Transport :=
    { key, tunnels := [rivalTunnel], occasion := .rival, plan := {}, hearsReady := false,
      hearsFinish := false }
  have hadd := add_enroll_of_lookup_none (w := rivalWiring key sb.transports.length) wf hfree
  refine ⟨t, ?_⟩
  simp only [registerRival, enroll, connect, rivalWiring, t] at hadd ⊢
  rw [hadd]
  rfl

theorem standing_enroll (wf : sb.registry.WellFormed) (w : Wiring) (id : SessionId) :
    (sb.enroll w).2.standing id =
      if id = sb.registry.roster.length then
        { sb.standing id with session := some (.ofWiring w) }
      else sb.standing id := by
  have hsession := Registry.session?_enroll sb.registry w id
  have hreg := wf.isRegistered_enroll w id
  split
  · rename_i h
    rw [if_pos h] at hsession
    exact Standing.ext hsession hreg rfl rfl rfl
  · rename_i h
    rw [if_neg h] at hsession
    exact Standing.ext hsession hreg rfl rfl rfl

/-- Registering a session shows in its own standing, and in that of the session whose key it
takes. -/
theorem standing_insert {id₀ : SessionId} {s₀ : Session} (hs₀ : sb.session? id₀ = some s₀)
    (id : SessionId) :
    { sb with registry :=
        { sb.registry with entries := sb.registry.entries.insert s₀.key id₀ } }.standing id =
      if id = id₀ then (sb.standing id).register true
      else (sb.standing id).register
        (sb.registry.isRegistered id && (sb.session? id).all fun s => s.key ≠ s₀.key) := by
  have hreg := Registry.isRegistered_insert hs₀ id
  split
  · rename_i h
    rw [if_pos h] at hreg
    exact Standing.ext rfl hreg rfl rfl rfl
  · rename_i h
    rw [if_neg h] at hreg
    exact Standing.ext rfl hreg rfl rfl rfl

/-- A session that is registered under a free key is not live, so losing that key displaces it. -/
theorem turn_of_key_taken {key : SessionKey} (hfree : sb.registry.lookup key = none) (m : Move)
    (id : SessionId) :
    sb.Turn id m ((sb.standing id).register
      (sb.registry.isRegistered id && (sb.session? id).all fun s => s.key ≠ key)) := by
  cases hreg : sb.registry.isRegistered id with
  | false =>
    have hsame : (sb.standing id).register false = sb.standing id :=
      Standing.ext rfl hreg.symm rfl rfl rfl
    rw [Bool.false_and, hsame]
    exact .rest
  | true =>
    cases hs : sb.session? id with
    | none => simp [Registry.isRegistered_eq_false_of_none hs] at hreg
    | some s =>
      by_cases hkey : s.key = key
      · subst hkey
        have hentry := (Registry.isRegistered_of_session? hs).1 hreg
        have hdead := Registry.lookup_eq_none_iff.1 hfree id hentry
        rw [Registry.isLive_of_session? hs] at hdead
        simpa using Turn.displaced hs hdead
      · have hsame : (sb.standing id).register true = sb.standing id :=
          Standing.ext rfl hreg.symm rfl rfl rfl
        simpa [hkey, hsame] using Turn.rest

theorem standing_install (wf : sb.registry.WellFormed) (w : Wiring) (id : SessionId) :
    (sb.install w).standing id =
      if id = sb.registry.roster.length then
        { sb.standing id with session := some (.ofWiring w), registered := true }
      else (sb.standing id).register
        (sb.registry.isRegistered id && (sb.session? id).all fun s => s.key ≠ w.key) := by
  have hs : (sb.enroll w).2.session? sb.registry.roster.length = some (.ofWiring w) := by
    simp [enroll, session?, Registry.session?_enroll]
  refine (standing_insert hs id).trans ?_
  rw [standing_enroll wf]
  split
  · rfl
  · rename_i hid
    have hreg := wf.isRegistered_enroll w id
    have hsession : (sb.enroll w).2.session? id = sb.session? id := by
      simp [enroll, session?, Registry.session?_enroll, hid]
    rw [hsession]
    exact congrArg _ (congrArg (· && _) hreg)

theorem standing_launchRunner {ctl : Controller} (hctl : sb.controllers[c]? = some ctl)
    (id id' : SessionId) :
    (sb.launchRunner c id').standing id =
      if id = id' then
        (sb.standing id).live fun l =>
          l.launch
            { controller := c, readySeconds := ctl.readySeconds, launchedAt := sb.clock,
              alarm := sb.alarms }
      else sb.standing id := by
  simp only [launchRunner, hctl]
  exact standing_live sb id id' _

variable {sb₀ : Switchboard} {ctl : Controller} {key : SessionKey} {m : Move}

/-- A session that comes onto the roster without being registered. -/
theorem turn_created (hnone : sb.session? id = none) {w : Wiring} {l : Life}
    (hbirth : sb.Birth w.key m l false) :
    sb.Turn id m
      { sb.standing id with session := some { toWiring := w, toLife := l } } := by
  have hturn := Turn.created hnone hbirth
  have hunregistered : (sb.standing id).registered = false :=
    Registry.isRegistered_eq_false_of_none hnone
  have hsame : { sb.standing id with
      session := some { toWiring := w, toLife := l }, registered := false } =
      { sb.standing id with session := some { toWiring := w, toLife := l } } :=
    Standing.ext rfl hunregistered.symm rfl rfl rfl
  rwa [hsame] at hturn

/-- Only a new session and the one whose key it takes see that a session is installed. -/
theorem turn_install (wf : sb₀.registry.WellFormed) (hreg : sb.registry = sb₀.registry)
    (hst : sb.standing id = sb₀.standing id) {w : Wiring}
    (hfree : sb₀.registry.lookup w.key = none) (hid : id ≠ sb₀.registry.roster.length) :
    sb₀.Turn id m ((sb.install w).standing id) := by
  rw [standing_install (hreg ▸ wf), hreg, if_neg hid, hst, session?, hreg]
  exact turn_of_key_taken hfree m id

theorem turn_register (wf : sb₀.registry.WellFormed) (hreg : sb.registry = sb₀.registry)
    (hst : sb.standing id = sb₀.standing id) (hctl : sb.controllers[c]? = some ctl) {w : Wiring}
    (hfree : sb₀.registry.lookup w.key = none) :
    sb₀.Turn id (.applyTask c) ((sb.register c w).2.standing id) := by
  rw [register_of_lookup_none (hreg ▸ wf) c (hreg ▸ hfree)]
  change sb₀.Turn id _ (((sb.install w).launchRunner c _).standing id)
  have hctl' : (sb.install w).controllers[c]? = some ctl := hctl
  rw [standing_launchRunner hctl', hreg]
  split
  · rename_i hid
    subst hid
    rw [standing_install (hreg ▸ wf), hreg, if_pos rfl, hst]
    exact .created Registry.session?_length (.started hfree rfl rfl)
  · rename_i hid
    exact turn_install wf hreg hst hfree hid

theorem turn_registerRival (wf : sb₀.registry.WellFormed) (hreg : sb.registry = sb₀.registry)
    (hst : sb.standing id = sb₀.standing id) (hfree : sb₀.registry.lookup key = none) :
    sb₀.Turn id m ((sb.registerRival key).standing id) := by
  obtain ⟨t, ht⟩ := registerRival_of_lookup_none (hreg ▸ wf) (hreg ▸ hfree)
  rw [ht]
  by_cases hid : id = sb₀.registry.roster.length
  · subst hid
    rw [standing_install (hreg ▸ wf)]
    change sb₀.Turn _ m (if _ = sb.registry.roster.length then _ else _)
    rw [hreg, if_pos rfl, standing_connect, hst]
    exact .created Registry.session?_length (.rival hfree)
  · exact turn_install wf hreg hst hfree hid

/-- After a rival registered its session, the key is held by it. -/
theorem lookup_registerRival (wf : sb.registry.WellFormed)
    (hfree : sb.registry.lookup key = none) :
    (sb.registerRival key).registry.lookup key = some sb.registry.roster.length := by
  obtain ⟨t, ht⟩ := registerRival_of_lookup_none wf hfree
  rw [ht, Registry.lookup_eq_some_iff]
  refine ⟨?_, ?_⟩
  · exact (OrderedMap.get?_insert_eq _ _ _ _).trans (if_pos rfl)
  · refine Registry.isLive_of_session? (s := .ofWiring (rivalWiring key sb.transports.length)) ?_
    exact (Registry.session?_enroll _ _ _).trans (if_pos rfl)

theorem wellFormed_install (wf : sb.registry.WellFormed) (w : Wiring) :
    (sb.install w).registry.WellFormed := by
  have hs : (sb.registry.enroll w).2.session? sb.registry.roster.length = some (.ofWiring w) := by
    simp [Registry.session?_enroll]
  exact (wf.enroll w).insert hs

theorem wellFormed_registerRival (wf : sb.registry.WellFormed)
    (hfree : sb.registry.lookup key = none) : (sb.registerRival key).registry.WellFormed := by
  obtain ⟨t, ht⟩ := registerRival_of_lookup_none wf hfree
  rw [ht]
  exact wellFormed_install wf _

def attempt (sb : Switchboard) : Switchboard :=
  { sb with attempts := sb.attempts + 1 }

@[simp] theorem standing_attempt (sb : Switchboard) (id : SessionId) :
    sb.attempt.standing id = sb.standing id := rfl

/-- Somebody else may register a session while a transport is being opened. -/
def atOpening (sb : Switchboard) (key : SessionKey) : Switchboard :=
  if sb.nextPlan.rival then sb.attempt.registerRival key else sb.attempt

theorem atOpening_of_rival (h : sb.nextPlan.rival = true) :
    sb.atOpening key = sb.attempt.registerRival key := if_pos h

theorem atOpening_of_not_rival (h : ¬ sb.nextPlan.rival = true) :
    sb.atOpening key = sb.attempt := if_neg h

/-- Opening a transport fails without a trace, or it comes after whatever a rival did. -/
theorem openTransport_cases (sb : Switchboard) (key : SessionKey) (tunnels : List Tunnel) :
    (∃ e, sb.openTransport key tunnels = (.error e, sb.attempt)) ∨
      sb.openTransport key tunnels =
        (.ok (sb.atOpening key).transports.length,
          ((sb.atOpening key).connect
            { key, tunnels, occasion := .start, plan := sb.nextPlan }).2) := by
  simp only [openTransport]
  split
  · exact .inl ⟨_, rfl⟩
  · split
    · exact .inl ⟨_, rfl⟩
    · exact .inr rfl

theorem wellFormed_atOpening (wf : sb.registry.WellFormed)
    (hfree : sb.registry.lookup key = none) : (sb.atOpening key).registry.WellFormed := by
  unfold atOpening
  split
  · exact wellFormed_registerRival wf hfree
  · exact wf

theorem turn_atOpening (wf : sb₀.registry.WellFormed) (hreg : sb.registry = sb₀.registry)
    (hst : sb.standing id = sb₀.standing id) (hfree : sb₀.registry.lookup key = none) :
    sb₀.Turn id m ((sb.atOpening key).standing id) := by
  unfold atOpening
  split
  · exact turn_registerRival wf hreg hst hfree
  · rw [standing_attempt, hst]
    exact .rest

/-- A session that came too late is closed, and nobody else sees it. -/
theorem standing_register_of_lookup_some (wf : sb.registry.WellFormed) (c : ControllerId)
    {w : Wiring} {id' : SessionId} (htaken : sb.registry.lookup w.key = some id')
    (id : SessionId) :
    (sb.register c w).2.standing id =
      if id = sb.registry.roster.length then
        { sb.standing id with
          session := some { toWiring := w, toLife := { closeRequested := true } } }
      else sb.standing id := by
  rw [register_of_lookup_some wf c htaken, standing_wire, standing_closeSession,
    standing_enroll wf]
  split <;> rfl

/-- A rival's session shows to nobody beyond it. -/
theorem standing_registerRival_of_lt (wf : sb.registry.WellFormed)
    (hfree : sb.registry.lookup key = none) (hid : sb.registry.roster.length < id) :
    (sb.registerRival key).standing id = sb.standing id := by
  obtain ⟨t, ht⟩ := registerRival_of_lookup_none wf hfree
  have hnone : sb.session? id = none := Registry.session?_eq_none_iff.2 (Nat.le_of_lt hid)
  have hreg := Registry.isRegistered_eq_false_of_none hnone
  have wf' : (sb.connect t).2.registry.WellFormed := wf
  rw [ht, standing_install wf', connect_registry, if_neg (Nat.ne_of_gt hid), standing_connect, hreg]
  exact Standing.ext rfl hreg.symm rfl rfl rfl

theorem length_registerRival (wf : sb.registry.WellFormed)
    (hfree : sb.registry.lookup key = none) :
    (sb.registerRival key).registry.roster.length = sb.registry.roster.length + 1 := by
  obtain ⟨t, ht⟩ := registerRival_of_lookup_none wf hfree
  rw [ht]
  exact List.length_append

/-- A start whose key was free when it looked registers its session, or finds that a rival came
first. -/
theorem turn_register_atOpening (wf : sb₀.registry.WellFormed)
    (hreg : sb.registry = sb₀.registry) (hst : sb.standing id = sb₀.standing id)
    (hctl : sb.controllers[c]? = some ctl) (t : Transport) {w : Wiring}
    (hfree : sb₀.registry.lookup w.key = none) :
    sb₀.Turn id (.applyTask c)
      ((((sb.atOpening w.key).connect t).2.register c w).2.standing id) := by
  have wf' : sb.attempt.registry.WellFormed := hreg ▸ wf
  have hfree' : sb.attempt.registry.lookup w.key = none := hreg ▸ hfree
  by_cases hrival : sb.nextPlan.rival = true
  · rw [atOpening_of_rival hrival]
    have hheld := lookup_registerRival wf' hfree'
    have hlength := length_registerRival wf' hfree'
    have wfRival : ((sb.attempt.registerRival w.key).connect t).2.registry.WellFormed :=
      wellFormed_registerRival wf' hfree'
    rw [standing_register_of_lookup_some wfRival c hheld, standing_connect, connect_registry,
      hlength]
    split
    · rename_i hid
      have hlt : sb.attempt.registry.roster.length < id := hid ▸ Nat.lt_succ_self _
      have hnone : sb₀.session? id = none :=
        Registry.session?_eq_none_iff.2 (hreg ▸ Nat.le_of_lt hlt)
      rw [standing_registerRival_of_lt wf' hfree' hlt, standing_attempt, hst]
      exact turn_created hnone .refused
    · exact turn_registerRival wf hreg hst hfree
  · rw [atOpening_of_not_rival hrival]
    have hreg' : (sb.attempt.connect t).2.registry = sb₀.registry := hreg
    exact turn_register wf hreg' hst hctl hfree

/-- Whatever becomes of a start that opens its session is one of the turns. -/
theorem turn_openSession (wf : sb₀.registry.WellFormed) (hreg : sb.registry = sb₀.registry)
    (hst : sb.standing id = sb₀.standing id) (hctl : sb.controllers[c]? = some ctl)
    (start : StartId) (key : SessionKey) (tunnels : List Tunnel) :
    sb₀.Turn id (.applyTask c) ((sb.openSession c start key tunnels).2.standing id) := by
  cases hfree : sb.registry.lookup key with
  | some id' =>
    simp only [openSession, hfree, hst]
    exact .rest
  | none =>
    simp only [openSession, hfree]
    have hfree₀ : sb₀.registry.lookup key = none := hreg ▸ hfree
    rcases openTransport_cases sb key tunnels with ⟨e, he⟩ | hok
    · rw [he, standing_attempt, hst]
      exact .rest
    · rw [hok]
      dsimp only
      split
      · rw [standing_wire, standing_connect]
        exact turn_atOpening wf hreg hst hfree₀
      · rename_i hne
        exact turn_register_atOpening (w := ⟨key, tunnels, hne, _, some start⟩) wf hreg hst hctl _
          hfree₀

theorem wellFormed_live (wf : sb.registry.WellFormed) (id : SessionId) (f : Life → Life) :
    (sb.live id f).registry.WellFormed :=
  wf.live id f

theorem wellFormed_closeSession (wf : sb.registry.WellFormed) (id : SessionId) :
    (sb.closeSession id).registry.WellFormed := by
  unfold closeSession
  split
  · split
    · exact wf
    · exact wf.live id _
  · exact wf

theorem wellFormed_launchRunner (wf : sb.registry.WellFormed) (c : ControllerId) (id : SessionId) :
    (sb.launchRunner c id).registry.WellFormed := by
  unfold launchRunner
  split
  · exact wf.live id _
  · exact wf

theorem wellFormed_register (wf : sb.registry.WellFormed) (c : ControllerId) (w : Wiring) :
    (sb.register c w).2.registry.WellFormed := by
  cases hlookup : sb.registry.lookup w.key with
  | none =>
    rw [register_of_lookup_none wf c hlookup]
    exact wellFormed_launchRunner (wellFormed_install wf w) c _
  | some id =>
    rw [register_of_lookup_some wf c hlookup]
    exact wellFormed_closeSession (wf.enroll w) _

theorem wellFormed_openSession (wf : sb.registry.WellFormed) (c : ControllerId) (start : StartId)
    (key : SessionKey) (tunnels : List Tunnel) :
    (sb.openSession c start key tunnels).2.registry.WellFormed := by
  cases hfree : sb.registry.lookup key with
  | some id =>
    simp only [openSession, hfree]
    exact wf
  | none =>
    simp only [openSession, hfree]
    rcases openTransport_cases sb key tunnels with ⟨e, he⟩ | hok
    · rw [he]
      exact wf
    · rw [hok]
      have wf' := wellFormed_atOpening wf hfree
      dsimp only
      split
      · exact wf'
      · refine wellFormed_register ?_ c _
        exact wf'

end Switchboard

end PodTunnels
