import PodTunnels.Proofs.Configuration
import PodTunnels.Proofs.Listing

/-!
# How long a request may take

kubectl is told how many seconds a request may take, and the program waits for one second more
before it gives the request up. That second more is added in 64 bits. So requests are given up when
they should be, unless the configuration allows the largest number of seconds there is: then there
is no number for the wait, and no request is made at all (`request_deadline`).
-/

namespace PodTunnels.Kubectl.Client

variable {c : Client} {config : Config} {h h' : Host} {what : List String} {program reason : String}
  {run : ProgramRun} {told : Nat} {patience : UInt64}

/-- A request is made with the seconds that kubectl is told, and given up after one second more. -/
structure Waits (c : Client) (program : String) (told : Nat) (what : List String) (h : Host) :
    Prop where
  runs : ∀ run h',
    h.start program
        (contextArguments c.context ++ what ++ ["--request-timeout=" ++ toString told ++ "s"]) =
      (.ok run, h') →
    (c.request what h).2 = h' ∧
      ((c.request what h).1 = .error .timedOut ↔ run.hangs ∨ 1000 * (told + 1) ≤ run.delay)
  refused : ∀ reason h',
    h.start program
        (contextArguments c.context ++ what ++ ["--request-timeout=" ++ toString told ++ "s"]) =
      (.error reason, h') →
    c.request what h = (.error (.io reason), h')

theorem classify_ne_timedOut (stderr : String) : classify stderr ≠ .timedOut := by
  unfold classify
  dsimp only
  split_ifs <;> simp

theorem outcome_eq_timedOut_iff :
    outcome patience run = .error .timedOut ↔ run.hangs ∨ 1000 * patience.toNat ≤ run.delay := by
  unfold outcome
  split_ifs with hlate hcode
  · exact iff_of_true rfl hlate
  · refine iff_of_false ?_ hlate
    split <;> simp
  · refine iff_of_false (fun h => ?_) hlate
    exact classify_ne_timedOut _ (Except.error.inj h)

theorem seconds_ofConfig (h : Host) (config : Config) :
    (ofConfig h config).seconds.toNat = max config.requestTimeout.toNat 1 := by
  show (max config.requestTimeout 1).toNat = _
  have hmax : max config.requestTimeout 1 =
      if config.requestTimeout ≤ 1 then 1 else config.requestTimeout := rfl
  rw [hmax]
  split
  · rename_i hle
    exact (Nat.max_eq_right (UInt64.le_iff_toNat_le.1 hle)).symm
  · rename_i hgt
    exact (Nat.max_eq_left (Nat.le_of_lt (UInt64.lt_iff_toNat_lt.1 (UInt64.not_le.1 hgt)))).symm

theorem patience?_eq_some (hfits : c.seconds.toNat + 1 < UInt64.size) :
    ∃ patience : UInt64, c.patience? = some patience ∧ patience.toNat = c.seconds.toNat + 1 := by
  refine ⟨c.seconds + 1, if_pos hfits, ?_⟩
  rw [UInt64.toNat_add]
  exact Nat.mod_eq_of_lt hfits

theorem waits_of_fits (hprogram : c.program = some program)
    (hfits : c.seconds.toNat + 1 < UInt64.size) (what : List String) (h : Host) :
    c.Waits program c.seconds.toNat what h := by
  obtain ⟨patience, hpatience, hseconds⟩ := patience?_eq_some hfits
  constructor
  · intro run h' hstart
    have hrequest : c.request what h = (outcome patience run, h') := by
      simp only [request, hprogram, hpatience, requestArguments, hstart]
    rw [hrequest, outcome_eq_timedOut_iff, hseconds]
    exact ⟨rfl, Iff.rfl⟩
  · intro reason h' hstart
    simp only [request, hprogram, hpatience, requestArguments, hstart]

theorem request_of_overflow (hprogram : c.program = some program)
    (hover : UInt64.size ≤ c.seconds.toNat + 1) (what : List String) (h : Host) :
    c.request what h = (.error .deadlineOverflow, h) := by
  have hpatience : c.patience? = none := if_neg (Nat.not_lt_of_le hover)
  simp only [request, hprogram, hpatience]

/-- Requests are given up one second after kubectl should have done so, unless there is no number
of 64 bits for that. -/
theorem request_deadline (hprogram : (ofConfig h config).program = some program) :
    (config.requestTimeout.toNat < 2 ^ 64 - 1 → ∀ what h',
      (ofConfig h config).Waits program (max config.requestTimeout.toNat 1) what h') ∧
    (config.requestTimeout.toNat = 2 ^ 64 - 1 → ∀ h',
      (∀ what, (ofConfig h config).request what h' = (.error .deadlineOverflow, h')) ∧
      (∀ kind path, (ofConfig h config).fetch kind path h' = (.error .deadlineOverflow, h')) ∧
      (∀ ns selector,
        (ofConfig h config).listPods ns selector h' = (.error .deadlineOverflow, h')) ∧
      ∀ ns, (ofConfig h config).podSummaries ns h' = (.error .deadlineOverflow, h')) := by
  have hseconds := seconds_ofConfig h config
  have hsize : UInt64.size = 2 ^ 64 := rfl
  constructor
  · intro hless what h'
    rw [← hseconds]
    exact waits_of_fits hprogram (by omega) what h'
  · intro hlargest h'
    have hrequest (what : List String) :
        (ofConfig h config).request what h' = (.error .deadlineOverflow, h') :=
      request_of_overflow hprogram (by omega) what h'
    refine ⟨hrequest, fun kind path => ?_, fun ns selector => ?_, fun ns => ?_⟩
    · simp only [fetch, hrequest]
      rfl
    · simp only [listPods, hrequest]
      rfl
    · simp only [podSummaries, listPods, hrequest]
      rfl

/-- A host whose kubectl takes some milliseconds. -/
def delayed (milliseconds : Nat) : Host :=
  hostOf { delay := milliseconds }

/-- A timeout of zero counts as one second, so requests are given up after two. -/
theorem deadline_of_zero_timeout :
    let config : Config := { kubectlPath := some "/kubectl", requestTimeout := 0 }
    let what := listArguments "shop" none
    ((ofConfig {} config).request what (delayed 2000)).1 = .error .timedOut ∧
      ((ofConfig {} config).request what (delayed 1999)).1 ≠ .error .timedOut := by
  intro config what
  have hprogram : (ofConfig {} config).program = some "/kubectl" := rfl
  have hallowed : ∀ text ∈ "/kubectl" :: (contextArguments (ofConfig {} config).context ++ what ++
      ["--request-timeout=" ++ toString (max config.requestTimeout.toNat 1) ++ "s"]),
      '\x00' ∉ text.toList := by decide +kernel
  have hwaits := (request_deadline hprogram).1 (by decide)
  obtain ⟨after, hstart⟩ := start_hostOf { delay := 2000 } hallowed
  obtain ⟨early, hstart'⟩ := start_hostOf { delay := 1999 } hallowed
  refine ⟨((hwaits what _).runs _ _ hstart).2.2 (.inr (by decide)), fun hlate => ?_⟩
  exact absurd (((hwaits what _).runs _ _ hstart').2.1 hlate) (by decide)

/-- With the largest timeout that a configuration can hold, there is no number for the wait. -/
theorem largest_timeout_overflows :
    let text := "\x7b\"kubectlPath\": \"/kubectl\", \"requestTimeoutSecs\": 18446744073709551615\x7d"
    ∃ config : Config, ConfigStore.nearby.load (ConfigStore.holding text) = .ok config ∧
      config.requestTimeout.toNat = 2 ^ 64 - 1 ∧
      (ofConfig {} config).fetch .pod ⟨"ns", "a"⟩ (delayed 0) =
        (.error .deadlineOverflow, delayed 0) := by
  intro text
  let config : Config :=
    { kubectlPath := some "/kubectl", requestTimeout := 18446744073709551615 }
  have hload := ConfigStore.load_of_read (ConfigStore.read_holding text) (c := config)
    (by decide +kernel)
  have hrequest := request_of_overflow (c := ofConfig {} config) rfl (by decide)
    (fetchArguments .pod ⟨"ns", "a"⟩) (delayed 0)
  refine ⟨config, hload, rfl, ?_⟩
  simp only [fetch, hrequest]
  rfl

end PodTunnels.Kubectl.Client
