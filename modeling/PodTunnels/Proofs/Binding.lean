import PodTunnels.Kubectl.PortForward
import PodTunnels.Proofs.Checking
import PodTunnels.Proofs.Chosen
import PodTunnels.Proofs.Mappings

/-!
# What is checked is what is bound

The check of a selection asks for the local ends of its tunnels, each with an address of its own.
kubectl is given one address for all of them, that of the first tunnel. The two agree because every
way to make a selection puts the same address into all its tunnels (`Selection.Made.sameAddress`).
What kubectl is asked for is read off its arguments without knowing how they were made
(`Kubectl.readArguments`, `Kubectl.asked?`).
-/

namespace PodTunnels

open Text

/-! ## The ends that are checked -/

section Check

/-- The check of several tunnels through anything that tries to bind a local end and says why it
cannot be bound. -/
def checkThrough {m : Type → Type} [Monad m] (bind : LocalEnd → m (Option String)) :
    List Tunnel → m (Except Failure Unit)
  | [] => pure (.ok ())
  | t :: ts => do
    match ← bind t.localEnd with
    | none => checkThrough bind ts
    | some reason => return .error (.portUnavailable t.address t.localPort reason)

/-- Bind an end where some are held, and keep the ends that were asked for. -/
def bindLogged (held : List LocalEnd) (e : LocalEnd) : StateM (List LocalEnd) (Option String) :=
  fun log => (if held.contains e then some addressInUse else none, log ++ [e])

/-- What the check comes to, and the local ends that it asks for, in order. -/
def checkLogged (held : List LocalEnd) (tunnels : List Tunnel) :
    Except Failure Unit × List LocalEnd :=
  (checkThrough (bindLogged held) tunnels).run []

variable {held log : List LocalEnd} {tunnels : List Tunnel}

theorem run_checkThrough_cons (held log : List LocalEnd) (t : Tunnel) (ts : List Tunnel) :
    (checkThrough (bindLogged held) (t :: ts)).run log =
      if t.localEnd ∈ held then (.error t.inUse, log ++ [t.localEnd])
      else (checkThrough (bindLogged held) ts).run (log ++ [t.localEnd]) := by
  by_cases ht : t.localEnd ∈ held
  · have hbind : bindLogged held t.localEnd = fun log =>
        (some addressInUse, log ++ [t.localEnd]) := by
      unfold bindLogged
      rw [if_pos (List.contains_iff_mem.2 ht)]
    rw [checkThrough, hbind, if_pos ht]
    rfl
  · have hbind : bindLogged held t.localEnd = fun log => (none, log ++ [t.localEnd]) := by
      unfold bindLogged
      rw [if_neg (mt List.contains_iff_mem.1 ht)]
    rw [checkThrough, hbind, if_neg ht]
    rfl

/-- To keep the ends makes no difference to the check. -/
theorem checkLogged_fst (held : List LocalEnd) (tunnels : List Tunnel) :
    (checkLogged held tunnels).1 = checkTunnels held tunnels := by
  have hany (log : List LocalEnd) :
      ((checkThrough (bindLogged held) tunnels).run log).1 = checkTunnels held tunnels := by
    induction tunnels generalizing log with
    | nil => rfl
    | cons t ts ih =>
      rw [run_checkThrough_cons, checkTunnels, Tunnel.check]
      by_cases ht : t.localEnd ∈ held
      · rw [if_pos ht, if_pos ht, Tunnel.inUse]
      · rw [if_neg ht, if_neg ht, ih]
  exact hany []

theorem checkLogged_of_free (hfree : ∀ t ∈ tunnels, t.localEnd ∉ held) :
    checkLogged held tunnels = (.ok (), tunnels.map Tunnel.localEnd) := by
  have hany (log : List LocalEnd) : (checkThrough (bindLogged held) tunnels).run log =
      (.ok (), log ++ tunnels.map Tunnel.localEnd) := by
    induction tunnels generalizing log with
    | nil =>
      rw [List.map_nil, List.append_nil]
      rfl
    | cons t ts ih =>
      obtain ⟨hfirst, hrest⟩ := List.forall_mem_cons.1 hfree
      rw [run_checkThrough_cons, if_neg hfirst, ih hrest, List.append_assoc]
      rfl
  exact hany []

end Check

/-! ## The ends that are bound -/

namespace Kubectl

/-- The arguments of kubectl by what they are: the values of its options, and the other words. -/
structure Arguments where
  context : Option String := none
  ns : Option String := none
  addresses : List String := []
  words : List String := []
deriving DecidableEq, Repr

/-- What stands behind the equals sign of the option for the address. -/
def addressOption? (argument : String) : Option String :=
  let start := "--address=".toList
  if start.isPrefixOf argument.toList then
    some (String.ofList (argument.toList.drop start.length))
  else none

/-- Read arguments from the front. The options for the context and the namespace take the next
argument, whatever it is. -/
def readArguments : List String → Arguments
  | "--context" :: name :: rest => { readArguments rest with context := some name }
  | "-n" :: name :: rest => { readArguments rest with ns := some name }
  | argument :: rest =>
    match addressOption? argument with
    | some address =>
      { readArguments rest with addresses := address :: (readArguments rest).addresses }
    | none => { readArguments rest with words := argument :: (readArguments rest).words }
  | [] => {}

/-- The two numbers of `local:remote`. -/
def portPair? (word : String) : Option (UInt16 × UInt16) := do
  let (near, far) ← splitFirst ':' word
  let near ← portNumber? near.toList
  let far ← portNumber? far.toList
  return (near, far)

/-- The local ends that arguments ask to bind, each with the remote port that it leads to. There is
one address for all of them, and the pod stands before them. -/
def asked? (arguments : List String) : Option (List (LocalEnd × UInt16)) :=
  match (readArguments arguments).addresses, (readArguments arguments).words with
  | [address], "port-forward" :: _ :: words =>
    words.mapM fun word => (portPair? word).map fun pair => ((address, pair.1), pair.2)
  | _, _ => none

section Reading

variable {word name address : String} {rest words : List String} {tunnels : List Tunnel}

/-- A word that does not begin with a dash is no option. -/
def IsPlain (word : String) : Prop :=
  word.toList.head? ≠ some '-'

theorem readArguments_plain (h : IsPlain word) (rest : List String) :
    readArguments (word :: rest) =
      { readArguments rest with words := word :: (readArguments rest).words } := by
  have hcontext : word ≠ "--context" := by
    rintro rfl
    exact h (by decide)
  have hnamespace : word ≠ "-n" := by
    rintro rfl
    exact h (by decide)
  have haddress : addressOption? word = none := by
    unfold IsPlain at h
    unfold addressOption?
    cases hword : word.toList with
    | nil => rfl
    | cons c cs =>
      have hdash : '-' ≠ c := by
        rintro rfl
        exact h (by rw [hword]; rfl)
      simp [hdash]
  rw [readArguments, haddress]
  · exact fun _ _ hsame => absurd hsame hcontext
  · exact fun _ _ hsame => absurd hsame hnamespace

theorem readArguments_context (name : String) (rest : List String) :
    readArguments ("--context" :: name :: rest) =
      { readArguments rest with context := some name } := by
  rw [readArguments]

theorem readArguments_namespace (name : String) (rest : List String) :
    readArguments ("-n" :: name :: rest) = { readArguments rest with ns := some name } := by
  rw [readArguments]

theorem readArguments_address (address : String) :
    readArguments ["--address=" ++ address] = { addresses := [address] } := by
  have hvalue : addressOption? ("--address=" ++ address) = some address := by
    simp [addressOption?]
  rw [readArguments, hvalue, readArguments]
  · exact fun _ _ _ => nofun
  · exact fun _ _ _ => nofun

theorem readArguments_words (h : ∀ word ∈ words, IsPlain word) (rest : List String) :
    readArguments (words ++ rest) =
      { readArguments rest with words := words ++ (readArguments rest).words } := by
  induction words with
  | nil => rfl
  | cons word words ih =>
    obtain ⟨hfirst, hothers⟩ := List.forall_mem_cons.1 h
    rw [List.cons_append, readArguments_plain hfirst, ih hothers]
    rfl

end Reading

section Forward

variable {tunnels : List Tunnel} {address : String}

theorem toList_render (t : Tunnel) :
    t.render.toList = Nat.toDigits 10 t.localPort.toNat ++ ':' ::
      Nat.toDigits 10 t.containerPort.toNat := by
  simp [Tunnel.render, toList_renderPort]

theorem isPlain_render (t : Tunnel) : IsPlain t.render := by
  obtain ⟨hsome, hdigits, -⟩ := digits_toDigits t.localPort.toNat
  rw [IsPlain, toList_render, List.head?_append_of_ne_nil _ hsome]
  intro hdash
  exact absurd (hdigits '-' (List.mem_of_mem_head? hdash)) (by decide)

theorem portPair?_render (t : Tunnel) :
    portPair? t.render = some (t.localPort, t.containerPort) := by
  have hfree : ':' ∉ Nat.toDigits 10 t.localPort.toNat := fun hcolon =>
    absurd ((digits_toDigits t.localPort.toNat).2.1 ':' hcolon) (by decide)
  simp [portPair?, splitFirst, toList_render, cutFirst_append hfree, portNumber?_toDigits]

/-- The arguments of a port-forward are read as what they were made of. -/
theorem readArguments_forwardArguments (context : Option String) (pod : ResourcePath)
    (address : String) (tunnels : List Tunnel) :
    readArguments (forwardArguments context pod address tunnels) =
      { context, ns := some pod.ns, addresses := [address]
        words := "port-forward" :: ("pod/" ++ pod.name) :: tunnels.map Tunnel.render } := by
  have hcommand : IsPlain "port-forward" := by simp [IsPlain]
  have htarget : IsPlain ("pod/" ++ pod.name) := by simp [IsPlain]
  have htunnels : ∀ word ∈ tunnels.map Tunnel.render, IsPlain word := by
    simpa using fun t _ => isPlain_render t
  have hcall : readArguments ("port-forward" :: "-n" :: pod.ns :: ("pod/" ++ pod.name) ::
      (tunnels.map Tunnel.render ++ ["--address=" ++ address])) =
        { ns := some pod.ns, addresses := [address]
          words := "port-forward" :: ("pod/" ++ pod.name) :: tunnels.map Tunnel.render } := by
    rw [readArguments_plain hcommand, readArguments_namespace, readArguments_plain htarget,
      readArguments_words htunnels, readArguments_address, List.append_nil]
  cases context with
  | none => exact hcall
  | some name =>
    have hcontext := readArguments_context name ("port-forward" :: "-n" :: pod.ns ::
      ("pod/" ++ pod.name) :: (tunnels.map Tunnel.render ++ ["--address=" ++ address]))
    rw [hcall] at hcontext
    exact hcontext

/-- What a port-forward asks to bind is the local end of each tunnel, if the tunnels have one
address, with the port of the container. -/
theorem asked?_forwardArguments (hsame : ∀ t ∈ tunnels, t.address = address)
    (context : Option String) (pod : ResourcePath) :
    asked? (forwardArguments context pod address tunnels) =
      some (tunnels.map fun t => (t.localEnd, t.containerPort)) := by
  have hmapped : (tunnels.map Tunnel.render).mapM (fun word =>
      (portPair? word).map fun pair => ((address, pair.1), pair.2)) =
        some (tunnels.map fun t => (t.localEnd, t.containerPort)) := by
    induction tunnels with
    | nil => rfl
    | cons t ts ih =>
      obtain ⟨hfirst, hrest⟩ := List.forall_mem_cons.1 hsame
      rw [List.map_cons, List.mapM_cons, ih hrest, portPair?_render, ← hfirst]
      rfl
  rw [asked?, readArguments_forwardArguments]
  exact hmapped

end Forward

end Kubectl

/-! ## Selections -/

namespace Selection

/-- The ways to make a selection: from the start dialog, and from mappings on the command line. -/
inductive Made (s : Selection) : Prop
  | chosen {candidates : List Candidate} {localPorts address : String}
      (hmade : ofCandidates candidates localPorts address = .ok s) : Made s
  | mapped {ports : PodPorts} {mappings : List String} {container : Option String}
      {address : String} (hsome : mappings ≠ [])
      (hmade : ofMappings ports mappings container address = .ok s) : Made s

variable {s : Selection}

/-- The tunnels of a selection have the address of the first of them. -/
theorem Made.sameAddress (h : s.Made) :
    ∃ first rest, s.tunnels = first :: rest ∧ ∀ t ∈ s.tunnels, t.address = first.address := by
  have hone : s.tunnels ≠ [] ∧ ∃ address, ∀ t ∈ s.tunnels, t.address = address := by
    cases h with
    | @chosen candidates localPorts address hmade =>
      obtain ⟨-, -, -, locals, -, -, htunnels⟩ := ofCandidates_eq_ok_iff.1 hmade
      refine ⟨(drawnFrom_of_ofCandidates hmade).nonempty, trim address, ?_⟩
      intro t ht
      rw [htunnels] at ht
      obtain ⟨_, -, rfl⟩ := List.mem_map.1 ht
      rfl
    | @mapped ports mappings container address hsome hmade =>
      refine ⟨(drawnFrom_of_ofMappings hsome hmade).nonempty, address, ?_⟩
      intro t ht
      obtain ⟨_, -, _, -, rfl⟩ := tunnelOf_of_ofMappings hmade t ht
      rfl
  obtain ⟨hsome, address, hsame⟩ := hone
  obtain ⟨first, rest, htunnels⟩ := List.exists_cons_of_ne_nil hsome
  have hfirst : first.address = address := hsame first (htunnels ▸ List.mem_cons_self)
  exact ⟨first, rest, htunnels, fun t ht => (hsame t ht).trans hfirst.symm⟩

end Selection

namespace Kubectl

theorem calls_of_openForward {c : Client} {pod : ResourcePath} {first : Tunnel}
    {rest : List Tunnel} {h h' : Host} {forward : PortForward}
    (hopened : c.openForward pod (first :: rest) h = (.ok forward, h')) :
    h'.calls = h.calls ++ [forwardArguments c.context pod first.address (first :: rest)] := by
  unfold Client.openForward at hopened
  split at hopened
  · cases hopened
  · cases hopened
  · rename_i program t ts hprogram htunnels
    cases htunnels
    unfold Host.start at hopened
    split at hopened
    · rename_i hstarted
      cases hopened
      split at hstarted
      · cases hstarted
      · split at hstarted <;> cases hstarted
        rfl
    · cases hopened

end Kubectl

/-- What is checked before a start is what kubectl is then asked to bind. All tunnels of a selection
have one address, which is the one that kubectl is given, and the local ends that a check asks for
when all are free are those that kubectl's arguments name, in their order, each with the port of the
container as the remote one. -/
theorem checked_ends_are_bound {s : Selection} (h : s.Made) :
    (∀ held, (checkLogged held s.tunnels).1 = checkTunnels held s.tunnels) ∧
    ∃ address, (∀ t ∈ s.tunnels, t.address = address) ∧
      (∀ (c : Kubectl.Client) pod host forward host',
        c.openForward pod s.tunnels host = (.ok forward, host') →
          host'.calls =
            host.calls ++ [Kubectl.forwardArguments c.context pod address s.tunnels]) ∧
      ∀ held, (∀ t ∈ s.tunnels, t.localEnd ∉ held) → ∀ context pod, ∃ ends,
        Kubectl.asked? (Kubectl.forwardArguments context pod address s.tunnels) = some ends ∧
          checkLogged held s.tunnels = (.ok (), ends.map Prod.fst) ∧
          ends.map Prod.snd = s.tunnels.map Tunnel.containerPort := by
  obtain ⟨first, rest, htunnels, hsame⟩ := h.sameAddress
  refine ⟨fun held => checkLogged_fst held s.tunnels, first.address, hsame, ?_, ?_⟩
  · intro c pod host forward host' hopened
    rw [htunnels] at hopened ⊢
    exact Kubectl.calls_of_openForward hopened
  · intro held hfree context pod
    refine ⟨_, Kubectl.asked?_forwardArguments hsame context pod, ?_, ?_⟩
    · rw [checkLogged_of_free hfree, List.map_map]
      rfl
    · rw [List.map_map]
      rfl

/-- An address with blanks around it, beside a context and a namespace that look like options. -/
theorem padded_address_is_bound :
    ∃ (s : Selection) (address : String) (ends : List (LocalEnd × UInt16)), s.Made ∧
      s.tunnels = [⟨"::1", 8080, 80, .tcp⟩, ⟨"::1", 9090, 81, .tcp⟩] ∧
      Kubectl.asked? (Kubectl.forwardArguments (some "-n") ⟨"--address=0.0.0.0", "web-0"⟩ address
        s.tunnels) = some ends ∧
      checkLogged [("0.0.0.0", 8080)] s.tunnels = (.ok (), ends.map Prod.fst) := by
  have hmade : Selection.ofCandidates [⟨"app", none, 80⟩, ⟨"app", none, 81⟩] " 8080 ,9090" " ::1 " =
      .ok ⟨"app", [⟨"::1", 8080, 80, .tcp⟩, ⟨"::1", 9090, 81, .tcp⟩]⟩ := by decide +kernel
  obtain ⟨-, address, -, -, hends⟩ := checked_ends_are_bound (.chosen hmade)
  obtain ⟨ends, hasked, hlogged, -⟩ :=
    hends [("0.0.0.0", 8080)] (by decide) (some "-n") ⟨"--address=0.0.0.0", "web-0"⟩
  exact ⟨_, address, ends, .chosen hmade, rfl, hasked, hlogged⟩

end PodTunnels
