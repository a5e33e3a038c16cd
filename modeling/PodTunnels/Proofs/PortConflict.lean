import PodTunnels.Kubectl.Stderr
import PodTunnels.Proofs.Cutting
import PodTunnels.Proofs.Numeral

/-!
# Ports that another process holds

When a local port is taken, kubectl says so in one line that names the port twice: on its own, and
after the address and a colon (`listenFailure`). The line falls apart at its colons into seven
parts, and of those after the first only the port begins with a digit: the numbers of the address
stand inside a part (`cutAll_listenFailure`). So the guard against numbers of an address does
nothing but hide the ports up to 255 (`portConflict?_listenFailure`), and a forward that fails for
one of these reports a transport failure (`forwardFailure_listenFailure`).
-/

namespace PodTunnels.Kubectl

open PodTunnels.Text

/-- An IPv4 address in dotted form. -/
def dotted (a b c d : UInt8) : String :=
  toString a.toNat ++ "." ++ toString b.toNat ++ "." ++ toString c.toNat ++ "." ++ toString d.toNat

/-- What kubectl prints when it cannot listen on a local port because it is taken. -/
def listenFailure (address : String) (port : UInt16) : String :=
  "Unable to listen on port " ++ renderPort port ++
    ": Listeners failed to create with the following errors" ++ ": [unable to create listener" ++
    ": Error listen tcp4 " ++ address ++ ":" ++ renderPort port ++ ": bind" ++
    ": address already in use]"

variable {address : String} {port : UInt16}

/-! ## The parts of the line -/

/-- The parts of the line between its colons. -/
def listenFailureParts (address : String) (port : UInt16) : List String :=
  ["Unable to listen on port " ++ renderPort port,
    " Listeners failed to create with the following errors", " [unable to create listener",
    " Error listen tcp4 " ++ address, renderPort port, " bind", " address already in use]"]

theorem listenFailure_eq_intercalate (address : String) (port : UInt16) :
    listenFailure address port = ":".intercalate (listenFailureParts address port) := by
  have hlisteners : ": Listeners failed to create with the following errors" =
      ":" ++ " Listeners failed to create with the following errors" := by decide
  have hcreate : ": [unable to create listener" = ":" ++ " [unable to create listener" := by decide
  have hlisten : ": Error listen tcp4 " = ":" ++ " Error listen tcp4 " := by decide
  have hbind : ": bind" = ":" ++ " bind" := by decide
  have hinUse : ": address already in use]" = ":" ++ " address already in use]" := by decide
  unfold listenFailure listenFailureParts
  simp only [hlisteners, hcreate, hlisten, hbind, hinUse, String.intercalate_cons_cons,
    String.intercalate_singleton, String.append_assoc]

theorem colon_notMem_toString (n : Nat) : ':' ∉ (toString n).toList := by
  intro hcolon
  rw [Nat.toString_eq_ofList_toDigits, String.toList_ofList] at hcolon
  exact absurd (Nat.isDigit_of_mem_toDigits (by decide) (by decide) hcolon) (by decide)

theorem colon_notMem_dotted (a b c d : UInt8) : ':' ∉ (dotted a b c d).toList := by
  have hdot : ':' ∉ ".".toList := by decide
  simp only [dotted, String.toList_append, List.mem_append, colon_notMem_toString, hdot, or_self,
    not_false_eq_true]

/-- The parts are those that a reader gets who cuts the line at its colons. -/
theorem cutAll_listenFailure (haddress : ':' ∉ address.toList) :
    cutAll ':' (listenFailure address port).toList =
      (listenFailureParts address port).map String.toList := by
  have hport : ':' ∉ (renderPort port).toList := colon_notMem_toString _
  have hfixed : ':' ∉ "Unable to listen on port ".toList ∧
      ':' ∉ " Listeners failed to create with the following errors".toList ∧
      ':' ∉ " [unable to create listener".toList ∧ ':' ∉ " Error listen tcp4 ".toList ∧
      ':' ∉ " bind".toList ∧ ':' ∉ " address already in use]".toList := by decide
  rw [cutAll_eq_splitOn, listenFailure_eq_intercalate, String.toList_intercalate]
  refine List.splitOn_intercalate ':' ?_ (List.cons_ne_nil _ _)
  simp only [listenFailureParts, List.map_cons, List.map_nil, List.forall_mem_cons,
    String.toList_append, List.mem_append, haddress, hport, hfixed, or_self, not_false_eq_true,
    true_and]
  exact nofun

/-! ## The port in the line -/

theorem leadingPort?_cons {c : Char} {part : List Char} (h : isAsciiDigit c = false) :
    leadingPort? (c :: part) = none := by
  simp [leadingPort?, h]

theorem leadingPort?_renderPort (port : UInt16) :
    leadingPort? (renderPort port).toList = if 255 < port then some port else none := by
  have hall : ∀ c ∈ (renderPort port).toList, isAsciiDigit c = true := by
    rw [toList_renderPort]
    exact (digits_toDigits port.toNat).2.1
  have hread : portNumber? (renderPort port).toList = some port := by
    rw [toList_renderPort, portNumber?_toDigits]
  have hsome : (renderPort port).toList ≠ [] := by
    rw [toList_renderPort]
    exact Nat.toDigits_ne_nil
  have htake : (renderPort port).toList.takeWhile isAsciiDigit = (renderPort port).toList := by
    simpa using @List.takeWhile_append_of_pos _ _ _ [] hall
  rw [leadingPort?, htake]
  split
  · contradiction
  · simp [hread, Option.filter_some]

theorem mentions_listenFailure (address : String) (port : UInt16) :
    mentions (lowerCase (listenFailure address port)) "address already in use" = true := by
  have hends : (listenFailure address port).toList = _ ++ ": address already in use]".toList :=
    String.toList_append
  exact mentions_lowerCase hends (by decide) ⟨": ".toList, "]".toList, by decide⟩

/-- The port is found in the line when it is above the numbers of an address. -/
theorem portConflict?_listenFailure (haddress : ':' ∉ address.toList) :
    portConflict? (listenFailure address port) = if 255 < port then some port else none := by
  have hbefore : leadingPort? " Listeners failed to create with the following errors".toList = none ∧
      leadingPort? " [unable to create listener".toList = none := by decide
  have hlisten : leadingPort? (" Error listen tcp4 " ++ address).toList = none := by
    have hblank : " Error listen tcp4 ".toList = ' ' :: "Error listen tcp4 ".toList := by decide
    rw [String.toList_append, hblank, List.cons_append, leadingPort?_cons (by decide)]
  have hafter : leadingPort? " bind".toList = none ∧
      leadingPort? " address already in use]".toList = none := by decide
  rw [portConflict?, if_pos (mentions_listenFailure address port), cutAll_listenFailure haddress]
  unfold listenFailureParts
  simp only [List.map_cons, List.map_nil, List.tail_cons, List.findSome?_cons, List.findSome?_nil,
    hbefore, hlisten, hafter, leadingPort?_renderPort]
  by_cases hfound : 255 < port
  · simp only [if_pos hfound]
  · simp only [if_neg hfound]

/-! ## The failure that is reported -/

theorem addressOf_of_first {t : Tunnel} {before after : List Tunnel} (hport : t.localPort = port)
    (hfirst : ∀ other ∈ before, other.localPort ≠ port) :
    addressOf port (before ++ t :: after) = t.address := by
  have hnone : before.find? (fun t => t.localPort == port) = none := by
    simpa [List.find?_eq_none] using hfirst
  simp [addressOf, List.find?_append, hnone, hport]

theorem forwardFailure_singleton (line : String) (tunnels : List Tunnel) :
    forwardFailure [line] tunnels =
      match portConflict? line with
      | some port => .portUnavailable (addressOf port tunnels) port line
      | none => .transport line := by
  cases hfound : portConflict? line with
  | some port => simp [forwardFailure, hfound]
  | none =>
    cases herror : isErrorLine line <;> simp [forwardFailure, hfound, herror]

/-- What a forward reports when this line is all that kubectl said and a tunnel has the port: that
the port is not available at the address of that tunnel, but only for a port above 255. -/
theorem forwardFailure_listenFailure {a b c d : UInt8} {t : Tunnel} {before after : List Tunnel}
    (hport : t.localPort = port) (hfirst : ∀ other ∈ before, other.localPort ≠ port) :
    forwardFailure [listenFailure (dotted a b c d) port] (before ++ t :: after) =
      if 255 < port then
        .portUnavailable t.address port (listenFailure (dotted a b c d) port)
      else .transport (listenFailure (dotted a b c d) port) := by
  rw [forwardFailure_singleton, portConflict?_listenFailure (colon_notMem_dotted a b c d)]
  by_cases hfound : 255 < port
  · simp only [if_pos hfound, addressOf_of_first hport hfirst]
  · simp only [if_neg hfound]

/-- Port 8080 is taken, and the address is that of the tunnel that has it. -/
theorem forwardFailure_taken_8080 :
    forwardFailure [listenFailure (dotted 127 0 0 1) 8080]
        [⟨"10.0.0.5", 9000, 9000, .tcp⟩, ⟨"127.0.0.1", 8080, 80, .tcp⟩] =
      .portUnavailable "127.0.0.1" 8080 (listenFailure (dotted 127 0 0 1) 8080) := by
  have htaken : forwardFailure [listenFailure (dotted 127 0 0 1) 8080]
      ([⟨"10.0.0.5", 9000, 9000, .tcp⟩] ++ ⟨"127.0.0.1", 8080, 80, .tcp⟩ :: []) = _ :=
    forwardFailure_listenFailure rfl (by decide)
  exact htaken.trans (if_pos (by decide))

/-- Port 80 is taken at 127.0.0.1, where a tunnel has it, and no port is said to be unavailable. -/
theorem taken_80_is_not_reported :
    ¬ ∃ port message, forwardFailure [listenFailure (dotted 127 0 0 1) 80]
      [⟨"127.0.0.1", 80, 8080, .tcp⟩] = .portUnavailable "127.0.0.1" port message := by
  rintro ⟨port, message, hreported⟩
  rw [forwardFailure_singleton, portConflict?_listenFailure (colon_notMem_dotted 127 0 0 1)]
    at hreported
  cases hreported

end PodTunnels.Kubectl
