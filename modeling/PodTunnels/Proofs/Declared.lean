import PodTunnels.Manifest
import PodTunnels.OrderedMap.Lookup
import PodTunnels.Proofs.Chosen
import PodTunnels.Proofs.Modal

/-!
# Declared ports

A selection is made in the start dialog or from mappings on the command line. Neither way leaves
what the pod declares: the candidates are the declared TCP ports (`mem_tcpCandidates_iff`), and a
selection draws every tunnel on a candidate of its one container (`Selection.DrawnFrom`). In the
dialog that needs an invariant, since keys edit the form in any order: whatever is typed, the form
on the screen keeps its number and its candidates (`State.Offers`). On the command line the
container is found on the way, and once it is found it stays (`drawnFrom_of_ofMappingsFrom`).

So only declared TCP ports are forwarded (`selection_is_declared`).
-/

namespace PodTunnels

/-! ## What a pod declares -/

/-- The candidates are the ports declared for TCP. -/
theorem mem_tcpCandidates_iff {ports : PodPorts} {c : Candidate} :
    c ∈ tcpCandidates ports ↔
      ∃ declared, ports.get? c.container = some declared ∧
        ∃ q ∈ declared, q.protocol = .tcp ∧ Candidate.of c.container q = c := by
  simp only [tcpCandidates, List.mem_flatMap, List.mem_map, List.mem_filter, decide_eq_true_eq]
  constructor
  · rintro ⟨⟨name, declared⟩, hentry, q, ⟨hq, htcp⟩, rfl⟩
    exact ⟨declared, OrderedMap.mem_entries_iff.1 hentry, q, hq, htcp, rfl⟩
  · rintro ⟨declared, hentry, q, hq, htcp, hcandidate⟩
    exact ⟨(c.container, declared), OrderedMap.mem_entries_iff.2 hentry, q, ⟨hq, htcp⟩, hcandidate⟩

namespace Pod

/-- The ports under a name are those of a container of the pod. -/
theorem exists_container_of_ports {p : Pod} {name : String} {declared : List ContainerPort}
    (h : p.ports.get? name = some declared) :
    ∃ c ∈ p.containers, c.name = name ∧ c.ports = declared := by
  have hmem := OrderedMap.mem_of_mem_ofList (OrderedMap.mem_entries_iff.2 h)
  obtain ⟨c, hc, hentry⟩ := List.mem_map.1 hmem
  cases hentry
  exact ⟨c, hc, rfl, rfl⟩

/-- A selection stays within what a pod declares: it names one of the containers, has tunnels, and
each of them leads to a port that this container declares for TCP. -/
structure Declares (p : Pod) (s : Selection) : Prop where
  nonempty : s.tunnels ≠ []
  container : ∃ c ∈ p.containers, c.name = s.container
  tcp : ∀ t ∈ s.tunnels, ∃ declared, p.ports.get? s.container = some declared ∧
    ∃ q ∈ declared, q.port = t.containerPort ∧ q.protocol = .tcp

end Pod

/-! ## Selections from candidates -/

namespace Selection

/-- There are tunnels, and each leads to the port of a candidate of the one container. -/
structure DrawnFrom (s : Selection) (candidates : List Candidate) : Prop where
  nonempty : s.tunnels ≠ []
  each : ∀ t ∈ s.tunnels, ∃ c ∈ candidates, c.container = s.container ∧ c.port = t.containerPort

variable {s : Selection} {candidates chosen : List Candidate}

theorem DrawnFrom.mono (h : s.DrawnFrom chosen) (hsub : ∀ c ∈ chosen, c ∈ candidates) :
    s.DrawnFrom candidates := by
  constructor
  · exact h.nonempty
  · intro t ht
    obtain ⟨c, hc, hdraws⟩ := h.each t ht
    exact ⟨c, hsub c hc, hdraws⟩

/-- What is drawn from the candidates of a pod is declared by it. -/
theorem DrawnFrom.declares {p : Pod} (h : s.DrawnFrom (tcpCandidates p.ports)) : p.Declares s := by
  have hdeclared : ∀ t ∈ s.tunnels, ∃ declared, p.ports.get? s.container = some declared ∧
      ∃ q ∈ declared, q.port = t.containerPort ∧ q.protocol = .tcp := by
    intro t ht
    obtain ⟨c, hc, hcontainer, hport⟩ := h.each t ht
    obtain ⟨declared, hfound, q, hq, htcp, hof⟩ := mem_tcpCandidates_iff.1 hc
    have hqport : q.port = c.port := congrArg Candidate.port hof
    exact ⟨declared, hcontainer ▸ hfound, q, hq, hqport.trans hport, htcp⟩
  constructor
  · exact h.nonempty
  · obtain ⟨t, ht⟩ := List.exists_mem_of_ne_nil _ h.nonempty
    obtain ⟨declared, hfound, -⟩ := hdeclared t ht
    obtain ⟨c, hc, hname, -⟩ := Pod.exists_container_of_ports hfound
    exact ⟨c, hc, hname⟩
  · exact hdeclared

theorem drawnFrom_of_ofCandidates {localPorts address : String}
    (h : ofCandidates chosen localPorts address = .ok s) : s.DrawnFrom chosen := by
  obtain ⟨hsome, hsame, -, locals, -, hcount, htunnels⟩ := ofCandidates_eq_ok_iff.1 h
  constructor
  · intro hnone
    have hlength := congrArg List.length hnone
    rw [htunnels, List.length_map, List.length_zip, hcount, Nat.min_self] at hlength
    exact hsome (List.length_eq_zero_iff.1 hlength)
  · intro t ht
    rw [htunnels] at ht
    obtain ⟨⟨c, near⟩, hpair, rfl⟩ := List.mem_map.1 ht
    have hc : c ∈ chosen := (List.of_mem_zip hpair).1
    exact ⟨c, hc, hsame c hc, rfl⟩

/-! ## Selections from mappings -/

def tunnelOf (address : String) (pair : UInt16 × UInt16) : Tunnel :=
  { address, localPort := pair.1, containerPort := pair.2 }

/-- Whether a candidate has a port, and belongs to the container as far as it is known. -/
def fits (owner : Option String) (port : UInt16) (c : Candidate) : Bool :=
  c.port == port && owner.all fun name => name == c.container

/-- A mapping takes the first candidate that fits, and the rest follows with its container. -/
theorem ofMappingsFrom_cons_eq_ok_iff {address spec : String} {specs : List String}
    {owner last : Option String} {tunnels : List Tunnel} :
    ofMappingsFrom candidates address owner (spec :: specs) = .ok (last, tunnels) ↔
      ∃ pair, parsePortMapping spec = .ok pair ∧
        ∃ c, candidates.find? (fits owner pair.2) = some c ∧
          ∃ rest, ofMappingsFrom candidates address (some (owner.getD c.container)) specs =
              .ok (last, rest) ∧ tunnels = tunnelOf address pair :: rest := by
  cases hread : parsePortMapping spec with
  | error e =>
    rw [ofMappingsFrom, hread]
    exact iff_of_false nofun nofun
  | ok pair =>
    cases hfound : candidates.find? (fits owner pair.2) with
    | none =>
      have hfails : ofMappingsFrom candidates address owner (spec :: specs) =
          .error (.undeclared pair.2) := by
        unfold fits at hfound
        simp only [ofMappingsFrom, hread, pure_bind, hfound]
        rfl
      simp [hfails, hfound]
    | some c =>
      have hgoes : ofMappingsFrom candidates address owner (spec :: specs) =
          ofMappingsFrom candidates address (some (owner.getD c.container)) specs >>= fun made =>
            .ok (made.1, tunnelOf address pair :: made.2) := by
        unfold fits at hfound
        simp only [ofMappingsFrom, hread, pure_bind, hfound]
        rfl
      rw [hgoes, bind_eq_ok_iff]
      constructor
      · rintro ⟨⟨last', rest⟩, hrest, hmade⟩
        cases hmade
        exact ⟨pair, rfl, c, hfound, rest, hrest, rfl⟩
      · rintro ⟨pair', hpair, c', hc', rest, hrest, rfl⟩
        cases hpair
        cases hfound.symm.trans hc'
        exact ⟨(last, rest), hrest, rfl⟩

/-- Every tunnel is that of a mapping. By induction on the mappings. -/
theorem tunnelOf_of_ofMappingsFrom {address : String} (specs : List String)
    {owner last : Option String} {tunnels : List Tunnel}
    (h : ofMappingsFrom candidates address owner specs = .ok (last, tunnels)) :
    ∀ t ∈ tunnels, ∃ spec ∈ specs, ∃ pair, parsePortMapping spec = .ok pair ∧
      t = tunnelOf address pair := by
  induction specs generalizing owner tunnels with
  | nil =>
    cases h
    exact nofun
  | cons spec specs ih =>
    obtain ⟨pair, hread, c, -, rest, hrest, rfl⟩ := ofMappingsFrom_cons_eq_ok_iff.1 h
    refine List.forall_mem_cons.2 ⟨⟨spec, List.mem_cons_self, pair, hread, rfl⟩, ?_⟩
    intro t ht
    obtain ⟨spec', hspec', hof⟩ := ih hrest t ht
    exact ⟨spec', List.mem_cons_of_mem spec hspec', hof⟩

theorem tunnelOf_of_ofMappings {ports : PodPorts} {mappings : List String}
    {container : Option String} {address : String}
    (h : ofMappings ports mappings container address = .ok s) :
    ∀ t ∈ s.tunnels, ∃ spec ∈ mappings, ∃ pair, parsePortMapping spec = .ok pair ∧
      t = tunnelOf address pair := by
  simp only [ofMappings, bind, Except.bind, pure, Except.pure, throw, throwThe,
    MonadExceptOf.throw] at h
  split at h
  · cases h
  · rename_i v hmapped
    split at h
    · cases h
      exact tunnelOf_of_ofMappingsFrom mappings hmapped
    · cases h

/-- The container that is known stays, and every tunnel leads to a port of the one that is known in
the end. By induction on the mappings, with any container known before them. -/
theorem drawnFrom_of_ofMappingsFrom {address : String} (specs : List String)
    {owner last : Option String} {tunnels : List Tunnel}
    (h : ofMappingsFrom candidates address owner specs = .ok (last, tunnels)) :
    (∀ name, owner = some name → last = some name) ∧ tunnels.length = specs.length ∧
      ∀ t ∈ tunnels, ∃ c ∈ candidates, last = some c.container ∧ c.port = t.containerPort := by
  induction specs generalizing owner tunnels with
  | nil =>
    cases h
    exact ⟨fun name howner => howner, rfl, nofun⟩
  | cons spec specs ih =>
    obtain ⟨pair, -, c, hfound, rest, hrest, rfl⟩ := ofMappingsFrom_cons_eq_ok_iff.1 h
    have hfits := List.find?_some hfound
    rw [fits, Bool.and_eq_true, beq_iff_eq] at hfits
    have howner : ∀ name, owner = some name → name = c.container := by
      rintro name rfl
      simpa using hfits.2
    have hkeep : owner.getD c.container = c.container := by
      cases hknown : owner with
      | none => rfl
      | some name => exact howner name hknown
    rw [hkeep] at hrest
    obtain ⟨hstays, hcount, hdrawn⟩ := ih hrest
    refine ⟨?_, ?_, ?_⟩
    · intro name hname
      rw [howner name hname]
      exact hstays _ rfl
    · rw [List.length_cons, hcount, List.length_cons]
    · intro t ht
      cases List.mem_cons.1 ht with
      | inl hfirst =>
        subst hfirst
        exact ⟨c, List.mem_of_find?_eq_some hfound, hstays _ rfl, hfits.1⟩
      | inr hlater => exact hdrawn t hlater

theorem drawnFrom_of_ofMappings {ports : PodPorts} {mappings : List String}
    {container : Option String} {address : String} (hsome : mappings ≠ [])
    (h : ofMappings ports mappings container address = .ok s) :
    s.DrawnFrom (tcpCandidates ports) := by
  simp only [ofMappings, bind, Except.bind, pure, Except.pure, throw, throwThe,
    MonadExceptOf.throw] at h
  split at h
  · cases h
  · rename_i v hmapped
    obtain ⟨-, hcount, hdrawn⟩ := drawnFrom_of_ofMappingsFrom mappings hmapped
    split at h
    · rename_i name hlast
      cases h
      constructor
      · exact fun hnone => hsome (List.length_eq_zero_iff.1 (hcount ▸ congrArg List.length hnone))
      · intro t ht
        obtain ⟨c, hc, howner, hport⟩ := hdrawn t ht
        exact ⟨c, (List.mem_filter.1 hc).1, Option.some.inj (howner.symm.trans hlast), hport⟩
    · cases h

end Selection

namespace Console

/-! ## Selections from the form -/

namespace Form

theorem mem_candidates_of_attempted {f : Form} {c : Candidate} (h : c ∈ f.attempted) :
    c ∈ f.candidates := by
  unfold attempted at h
  split at h
  · exact List.mem_of_getElem? (Option.mem_toList.1 h)
  · obtain ⟨⟨c, checked⟩, hchecked, rfl⟩ := List.mem_map.1 h
    exact (List.of_mem_zip (List.mem_filter.1 hchecked).1).1

theorem drawnFrom_of_selection {f : Form} {s : Selection} (h : f.selection = .ok s) :
    s.DrawnFrom f.candidates :=
  (Selection.drawnFrom_of_ofCandidates h).mono fun _ => mem_candidates_of_attempted

theorem candidates_press (f : Form) (code : KeyCode) :
    (f.press code).candidates = f.candidates :=
  (f.refills_press code).candidates

end Form

namespace State

variable {c : State} {number : Nat} {candidates : List Candidate}

/-- The console after a sequence of events, each with the registry at its time. -/
def after (c : State) (events : List (Registry × Event)) : State :=
  events.foldl (fun c e => (c.handle e.1 e.2).console) c

/-- If a start dialog is on the screen, it is the one of a number and offers certain candidates. -/
def Offers (c : State) (number : Nat) (candidates : List Candidate) : Prop :=
  ∀ f, c.modal = some (.selection f) → f.dialog = number ∧ f.candidates = candidates

/-- No key changes the candidates, and the form that is confirmed is the one on the screen. -/
theorem offers_pressSelection {f : Form} (hdialog : f.dialog = number)
    (hcandidates : f.candidates = candidates) (code : KeyCode) :
    ({ c with modal := none }.pressSelection f code).console.Offers number candidates ∧
      ∀ controller n s, ({ c with modal := none }.pressSelection f code).move =
        some (.confirmSelection controller n s) → n = number ∧ s.DrawnFrom candidates := by
  unfold pressSelection
  split
  · exact ⟨nofun, nofun⟩
  · split
    · rename_i s hselection
      refine ⟨nofun, ?_⟩
      intro controller n s' hmove
      cases hmove
      exact ⟨hdialog, hcandidates ▸ Form.drawnFrom_of_selection hselection⟩
    · refine ⟨?_, nofun⟩
      rintro f' ⟨⟩
      exact ⟨hdialog, hcandidates⟩
  · refine ⟨?_, nofun⟩
    rintro f' ⟨⟩
    exact ⟨(f.dialog_press _).trans hdialog, (f.candidates_press _).trans hcandidates⟩

/-- What an event keeps. Where no start dialog is open it opens none, and confirms none. -/
theorem Offers.handle (h : c.Offers number candidates) (registry : Registry) (e : Event) :
    (c.handle registry e).console.Offers number candidates ∧
      ∀ controller n s, (c.handle registry e).move = some (.confirmSelection controller n s) →
        n = number ∧ s.DrawnFrom candidates := by
  by_cases hopen : ∃ f, c.modal = some (.selection f)
  · obtain ⟨f, hmodal⟩ := hopen
    obtain ⟨hdialog, hcandidates⟩ := h f hmodal
    cases e with
    | press key =>
      simp only [State.handle, press, hmodal]
      split
      · exact ⟨h, by rintro _ _ _ ⟨⟩⟩
      · exact offers_pressSelection hdialog hcandidates key.code
    | release | resize | other => exact ⟨h, by rintro _ _ _ ⟨⟩⟩
  · have hreacts := c.reacts registry e
    generalize c.handle registry e = r at hreacts
    cases hreacts with
    | kept hsame => exact ⟨fun f hmodal => h f (hsame.2 ▸ hmodal), by rintro _ _ _ ⟨⟩⟩
    | edited _ hbefore => exact absurd ⟨_, hbefore⟩ hopen
    | confirmedSelection hmodal => exact absurd ⟨_, hmodal⟩ hopen
    | cancelledSelection hmodal => exact absurd ⟨_, hmodal⟩ hopen
    | triggered => exact ⟨h, by rintro _ _ _ ⟨⟩⟩
    | confirmedDeletion | cancelledDeletion =>
      exact ⟨by rintro _ ⟨⟩, by rintro _ _ _ ⟨⟩⟩

theorem Offers.after (h : c.Offers number candidates) (events : List (Registry × Event)) :
    (c.after events).Offers number candidates :=
  List.foldlRecOn (motive := fun c => Offers c number candidates) events _ h
    fun _ h e _ => (h.handle e.1 e.2).1

end State

end Console

/-! ## The theorem -/

/-- Only declared TCP ports are forwarded. Take any object that reads as a pod. Whatever is typed
while the start dialog with its candidates is open, a selection that is confirmed is declared by the
pod; and so is every selection that is made of mappings. -/
theorem selection_is_declared {object : Json.Document} {p : Pod}
    (hdecodes : Manifest.pod object = some p) :
    (∀ (c : Console.State) (number : Nat) (dialog : SelectionDialog),
      c.modal = some (.selection (.ofDialog number dialog)) →
      dialog.candidates = tcpCandidates p.ports →
      ∀ (events : List (Registry × Console.Event)) (registry : Registry) (last : Console.Event)
        (controller : ControllerId) (n : Nat) (s : Selection),
        ((c.after events).handle registry last).move = some (.confirmSelection controller n s) →
          n = number ∧ ∃ p', Manifest.pod object = some p' ∧ p'.Declares s) ∧
    ∀ (mappings : List String) (container : Option String) (address : String) (s : Selection),
      mappings ≠ [] → Selection.ofMappings p.ports mappings container address = .ok s →
        ∃ p', Manifest.pod object = some p' ∧ p'.Declares s := by
  refine ⟨?_, ?_⟩
  · intro c number dialog hmodal hcandidates events registry last controller n s hmove
    have hoffers : c.Offers number (tcpCandidates p.ports) := by
      intro f hshown
      rw [hmodal] at hshown
      cases hshown
      exact ⟨rfl, hcandidates⟩
    obtain ⟨hnumber, hdrawn⟩ := ((hoffers.after events).handle registry last).2 controller n s hmove
    exact ⟨hnumber, p, hdecodes, hdrawn.declares⟩
  · intro mappings container address s hsome hmade
    exact ⟨p, hdecodes, (Selection.drawnFrom_of_ofMappings hsome hmade).declares⟩

/-- A pod whose two containers declare the same TCP port, one of them beside a UDP port. -/
def proxiedPod : Pod where
  name := "web-0"
  ns := some "ns"
  containers :=
    [⟨"web", [⟨some "dns", 53, .udp⟩, ⟨none, 8080, .tcp⟩]⟩, ⟨"proxy", [⟨some "http", 8080, .tcp⟩]⟩]
  reportedPhase := none

/-- The object that reads as this pod. -/
def proxiedObject : Json.Document :=
  let port (members : List (Option String × Json.Document)) (n : Nat) : Json.Document :=
    .object (members ++ [(some "containerPort", .number (.ofNat n))])
  let container (name : String) (ports : List Json.Document) : Json.Document :=
    .object [(some "name", .string name), (some "ports", .array ports)]
  .object
    [(some "metadata", .object [(some "name", .string "web-0"), (some "namespace", .string "ns")]),
      (some "spec", .object [(some "containers", .array
        [container "web"
            [port [(some "name", .string "dns"), (some "protocol", .string "UDP")] 53, port [] 8080],
          container "proxy" [port [(some "name", .string "http")] 8080]])])]

/-- A console that shows the start dialog of this pod. -/
def proxiedConsole : Console.State :=
  { controller := 0, ns := "ns",
    modal := some (.selection (.ofDialog 3
      { generation := 1, pod := ⟨"ns", "web-0"⟩, candidates := tcpCandidates proxiedPod.ports,
        address := "127.0.0.1" })) }

/-- In the dialog the user moves to the second candidate, checks it, goes on to the local ports,
types a 9 and confirms. On the command line no container is named, and the first one that declares
the port is taken. -/
theorem proxied_selections_are_declared :
    let tunnel : Tunnel := { address := "127.0.0.1", localPort := 9, containerPort := 8080 }
    let typed : List (Registry × Console.Event) :=
      [.down, .char ' ', .tab, .char '9'].map fun code => ({}, .press { code })
    Manifest.pod proxiedObject = some proxiedPod ∧
      ((proxiedConsole.after typed).handle {} (.press { code := .enter })).move =
        some (.confirmSelection 0 3 ⟨"web", [tunnel]⟩) ∧
      Selection.ofMappings proxiedPod.ports ["9:8080"] none "127.0.0.1" = .ok ⟨"proxy", [tunnel]⟩ ∧
      (∃ p, Manifest.pod proxiedObject = some p ∧ p.Declares ⟨"web", [tunnel]⟩) ∧
      ∃ p, Manifest.pod proxiedObject = some p ∧ p.Declares ⟨"proxy", [tunnel]⟩ := by
  intro tunnel typed
  have hdecodes : Manifest.pod proxiedObject = some proxiedPod := by decide
  have hconfirmed : ((proxiedConsole.after typed).handle {} (.press { code := .enter })).move =
      some (.confirmSelection 0 3 ⟨"web", [tunnel]⟩) := rfl
  have hmade : Selection.ofMappings proxiedPod.ports ["9:8080"] none "127.0.0.1" =
      .ok ⟨"proxy", [tunnel]⟩ := by decide +kernel
  obtain ⟨hform, hmappings⟩ := selection_is_declared hdecodes
  refine ⟨hdecodes, hconfirmed, hmade, ?_, ?_⟩
  · exact (hform proxiedConsole 3 _ rfl rfl typed {} _ 0 3 _ hconfirmed).2
  · exact hmappings ["9:8080"] none "127.0.0.1" _ (List.cons_ne_nil _ _) hmade

end PodTunnels
