import PodTunnels.Proofs.PortConflict
import PodTunnels.Proofs.Readiness
import Mathlib.Data.List.Induction

/-!
# The report of a failed forward

The lines of error output that are kept while it is read are the last twenty (`tail_eq_recent`): a
step of the loop that keeps them commutes with one more line. What is made of them (`Reports`) is
decided by the first line that tells of a taken port, else by the last line that reads like an error,
else by the last line. So what a forward reports when kubectl fails depends on nothing but these
lines and its tunnels (`failure_from_last_lines`).
-/

namespace PodTunnels.Kubectl

open PodTunnels.Text

variable {lines : List String} {line : String} {tunnels : List Tunnel} {e : Failure}

/-! ## The lines that are kept -/

/-- The last lines, as many as are kept. -/
def recent (lines : List String) : List String :=
  lines.drop (lines.length - tailLength)

theorem length_recent (lines : List String) :
    (recent lines).length = min lines.length tailLength := by
  rw [recent, List.length_drop]
  omega

/-- To keep one more line is to take the last ones of one line more. -/
theorem keep_recent (lines : List String) (line : String) :
    keep (recent lines) line = recent (lines ++ [line]) := by
  have hcount : (lines ++ [line]).length - tailLength ≤ lines.length := by
    rw [List.length_append, List.length_singleton, tailLength]
    omega
  rw [keep, length_recent, recent, recent, List.drop_append_of_le_length hcount,
    List.length_append, List.length_singleton]
  split
  · rename_i hfull
    have hmore : lines.length + 1 - tailLength = lines.length - tailLength + 1 := by omega
    rw [hmore, List.drop_drop]
  · rename_i hroom
    have hall : lines.length + 1 - tailLength = lines.length - tailLength := by omega
    rw [hall]

theorem tail_eq_recent (lines : List String) : tail lines = recent lines := by
  induction lines using List.reverseRecOn with
  | nil => rfl
  | append_singleton lines line ih =>
    rw [← keep_recent, ← ih]
    simp only [tail, List.foldl_append, List.foldl_cons, List.foldl_nil]

/-! ## What is made of them -/

/-- The local address of a port: that of the first tunnel that has it. -/
inductive LocalAddress (port : UInt16) (tunnels : List Tunnel) : String → Prop
  | first {t : Tunnel} {before after : List Tunnel} (htunnels : tunnels = before ++ t :: after)
      (hport : t.localPort = port) (hfirst : ∀ other ∈ before, other.localPort ≠ port) :
      LocalAddress port tunnels t.address
  | unknown (hnone : ∀ t ∈ tunnels, t.localPort ≠ port) : LocalAddress port tunnels "127.0.0.1"

/-- What lines of error output tell of. -/
inductive Reports (lines : List String) (tunnels : List Tunnel) : Failure → Prop
  /-- The first line that tells of a taken port names it. -/
  | taken {before after : List String} {line address : String} {port : UInt16}
      (hlines : lines = before ++ line :: after) (hport : portConflict? line = some port)
      (hfirst : ∀ other ∈ before, portConflict? other = none)
      (haddress : LocalAddress port tunnels address) :
      Reports lines tunnels (.portUnavailable address port line)
  /-- No port is taken, and this is the last line that reads like an error. -/
  | error {before after : List String} {line : String}
      (hfree : ∀ other ∈ lines, portConflict? other = none)
      (hlines : lines = before ++ line :: after) (herror : isErrorLine line = true)
      (hlast : ∀ other ∈ after, isErrorLine other = false) :
      Reports lines tunnels (.transport line)
  /-- No line reads like an error, and this is the last one. -/
  | last {before : List String} {line : String}
      (hfree : ∀ other ∈ lines, portConflict? other = none)
      (hnone : ∀ other ∈ lines, isErrorLine other = false) (hlines : lines = before ++ [line]) :
      Reports lines tunnels (.transport line)
  /-- There is no line. -/
  | silent (hlines : lines = []) :
      Reports lines tunnels (.transport "kubectl port-forward exited")

theorem localAddress_addressOf (port : UInt16) (tunnels : List Tunnel) :
    LocalAddress port tunnels (addressOf port tunnels) := by
  unfold addressOf
  split
  · rename_i t hfound
    obtain ⟨hport, before, after, htunnels, hfirst⟩ := List.find?_eq_some_iff_append.1 hfound
    exact .first htunnels (by simpa using hport) fun other hother => by
      simpa using hfirst other hother
  · rename_i hfound
    exact .unknown fun t ht => by simpa using List.find?_eq_none.1 hfound t ht

theorem LocalAddress.eq_addressOf {port : UInt16} {address : String}
    (h : LocalAddress port tunnels address) : address = addressOf port tunnels := by
  cases h with
  | first htunnels hport hfirst => rw [htunnels, addressOf_of_first hport hfirst]
  | unknown hnone =>
    have hfound : tunnels.find? (fun t => t.localPort == port) = none := by
      simpa [List.find?_eq_none] using hnone
    rw [addressOf, hfound]

/-- The last line with a property. -/
theorem find?_reverse_eq_some_iff {p : String → Bool} :
    lines.reverse.find? p = some line ↔ p line = true ∧
      ∃ before after, lines = before ++ line :: after ∧ ∀ other ∈ after, p other = false := by
  rw [List.find?_eq_some_iff_append]
  refine and_congr_right fun _ => ?_
  constructor
  · rintro ⟨before, after, hlines, hfirst⟩
    refine ⟨after.reverse, before.reverse, ?_, fun other hother => ?_⟩
    · simpa using congrArg List.reverse hlines
    · simpa using hfirst other (List.mem_reverse.1 hother)
  · rintro ⟨before, after, rfl, hlast⟩
    refine ⟨after.reverse, before.reverse, by simp, fun other hother => ?_⟩
    simpa using hlast other (List.mem_reverse.1 hother)

/-- The first line that tells of a taken port. -/
theorem findSome?_portConflict?_eq_some_iff {port : UInt16} :
    (lines.findSome? fun line => (portConflict? line).map fun port => (port, line)) =
        some (port, line) ↔
      portConflict? line = some port ∧ ∃ before after, lines = before ++ line :: after ∧
        ∀ other ∈ before, portConflict? other = none := by
  rw [List.findSome?_eq_some_iff]
  constructor
  · rintro ⟨before, line', after, hlines, htaken, hfirst⟩
    obtain ⟨port', hport, hsame⟩ := Option.map_eq_some_iff.1 htaken
    cases hsame
    exact ⟨hport, before, after, hlines, fun other hother => by simpa using hfirst other hother⟩
  · rintro ⟨hport, before, after, hlines, hfirst⟩
    exact ⟨before, line, after, hlines, by simp [hport], fun other hother => by
      simp [hfirst other hother]⟩

theorem findSome?_portConflict?_eq_none_iff :
    (lines.findSome? fun line => (portConflict? line).map fun port => (port, line)) = none ↔
      ∀ other ∈ lines, portConflict? other = none := by
  simp [List.findSome?_eq_none_iff]

theorem reports_forwardFailure (lines : List String) (tunnels : List Tunnel) :
    Reports lines tunnels (forwardFailure lines tunnels) := by
  unfold forwardFailure
  split
  · rename_i port line hfound
    obtain ⟨hport, before, after, hlines, hfirst⟩ := findSome?_portConflict?_eq_some_iff.1 hfound
    exact .taken hlines hport hfirst (localAddress_addressOf port tunnels)
  · rename_i hfound
    have hfree := findSome?_portConflict?_eq_none_iff.1 hfound
    cases herror : lines.reverse.find? isErrorLine with
    | some line =>
      obtain ⟨hreads, before, after, hlines, hlast⟩ := find?_reverse_eq_some_iff.1 herror
      exact .error hfree hlines hreads hlast
    | none =>
      have hnone : ∀ other ∈ lines, isErrorLine other = false := by
        simpa [List.find?_eq_none] using herror
      cases hlast : lines.getLast? with
      | some line =>
        obtain ⟨before, hlines⟩ := List.getLast?_eq_some_iff.1 hlast
        exact .last hfree hnone hlines
      | none => exact .silent (List.getLast?_eq_none_iff.1 hlast)

theorem Reports.eq_forwardFailure (h : Reports lines tunnels e) :
    e = forwardFailure lines tunnels := by
  cases h with
  | taken hlines hport hfirst haddress =>
    have hfound := findSome?_portConflict?_eq_some_iff.2 ⟨hport, _, _, hlines, hfirst⟩
    rw [forwardFailure, hfound, haddress.eq_addressOf]
  | error hfree hlines herror hlast =>
    have hfound := find?_reverse_eq_some_iff.2 ⟨herror, _, _, hlines, hlast⟩
    rw [forwardFailure, findSome?_portConflict?_eq_none_iff.2 hfree, hfound]
    rfl
  | last hfree hnone hlines =>
    have hfound : lines.reverse.find? isErrorLine = none := by
      simpa [List.find?_eq_none] using hnone
    have hlast := List.getLast?_eq_some_iff.2 ⟨_, hlines⟩
    rw [forwardFailure, findSome?_portConflict?_eq_none_iff.2 hfree, hfound, hlast]
    rfl
  | silent hlines =>
    rw [hlines]
    rfl

theorem reports_iff : Reports lines tunnels e ↔ e = forwardFailure lines tunnels := by
  constructor
  · exact Reports.eq_forwardFailure
  · rintro rfl
    exact reports_forwardFailure lines tunnels

instance (lines : List String) (tunnels : List Tunnel) (e : Failure) :
    Decidable (Reports lines tunnels e) :=
  decidable_of_iff _ reports_iff.symm

/-! ## When it is reported -/

namespace PortForward

variable {texts outputs : List String} {f : PortForward}

theorem errorLines_of_texts {bytes : List UInt8}
    (htexts : (byteLines bytes).map Utf8.decode? = texts.map some) : errorLines bytes = texts := by
  have hall : (texts.map some).takeWhile Option.isSome = texts.map some := by
    rw [List.takeWhile_eq_self_iff]
    simp
  rw [errorLines, htexts, hall]
  simp

theorem firstFault_of_texts {lines : List (List UInt8)}
    (htexts : lines.map Utf8.decode? = texts.map some) : firstFault lines = none := by
  induction texts generalizing lines with
  | nil =>
    cases List.map_eq_nil_iff.1 htexts
    rfl
  | cons text texts ih =>
    obtain ⟨line, lines, rfl, htext, hrest⟩ := List.map_eq_cons_iff.1 htexts
    rw [firstFault, Utf8.decode_of_decode? htext]
    exact ih hrest

/-- A forward that ends as no success reports what the error output tells of, if that is read. -/
theorem wait_of_not_succeeded (houtputs : f.unread.map Utf8.decode? = outputs.map some)
    (hends : f.ends = true) (hfails : f.succeeded = false) :
    f.wait = (some (.failed f.failure), { f with unread := [], reaped := true }) := by
  have hends' : PortForward.ends { f with unread := [] } = true := hends
  have hfails' : PortForward.succeeded { f with unread := [] } = false := hfails
  simp only [wait, firstFault_of_texts houtputs, hends', hfails', if_true]
  rfl

/-- The wait for readiness has the error output read, and reads of the output. -/
theorem ready_snd_eq (f : PortForward) :
    f.ready.2 =
      { f with explains := true, unread := f.ready.2.unread, reaped := f.ready.2.reaped } := by
  simp only [ready]
  split
  · rfl
  · split <;> rfl

/-- What a forward reports when kubectl fails, if all output is text: the one failure that the last
twenty lines of error output tell of, or all lines if there are fewer. The wait for readiness has the
error output read, and reports it when the output ends before every port is announced. The wait for
the end reports it when kubectl exits as no success. -/
theorem failure_from_last_lines (f : PortForward) (errors outputs : List String)
    (herrors : (byteLines f.run.errorOutput).map Utf8.decode? = errors.map some)
    (houtputs : f.unread.map Utf8.decode? = outputs.map some) (hends : f.ends = true) :
    f.ready.2 =
        { f with explains := true, unread := f.ready.2.unread, reaped := f.ready.2.reaped } ∧
    ∃ e, (∀ e', Reports (errors.drop (errors.length - 20)) f.tunnels e' ↔ e' = e) ∧
      (¬ Announced outputs (f.tunnels.map Tunnel.localPort) → f.ready.1 = some (.failed e)) ∧
      (f.explains = true → f.succeeded = false → f.wait.1 = some (.failed e)) := by
  have hkept : tail (errorLines f.run.errorOutput) = errors.drop (errors.length - 20) := by
    rw [errorLines_of_texts herrors, tail_eq_recent]
    rfl
  refine ⟨ready_snd_eq f, forwardFailure (errors.drop (errors.length - 20)) f.tunnels,
    fun e' => reports_iff, fun hunannounced => ?_, fun hexplains hfails => ?_⟩
  · rw [ready_of_not_announced houtputs hunannounced, if_pos hends, hkept]
  · rw [wait_of_not_succeeded houtputs hends hfails, failure, if_pos hexplains, hkept]

/-- A line about a port that is taken, many lines about nothing, and one about a lost connection. -/
def manyErrors : List String :=
  "listen tcp4 127.0.0.1:8080: bind: address already in use" ::
    List.replicate 18 "..." ++
      ["error: lost connection to pod", "Stopping"]

/-- A forward that ends with these lines, and announces nothing. -/
def unannounced : PortForward :=
  ofRun [{ address := "127.0.0.1", localPort := 8080, containerPort := 80 }]
    { errorOutput := Utf8.encode (String.join (manyErrors.map (· ++ "\n"))), exitCode := 1 }

/-- The line of the port that is taken is one of twenty-one, so it is not kept. -/
theorem unannounced_ready :
    unannounced.ready.1 = some (.failed (.transport "error: lost connection to pod")) := by
  obtain ⟨-, e, hreports, hready, -⟩ := failure_from_last_lines unannounced manyErrors []
    (by decide +kernel) rfl rfl
  have he : .transport "error: lost connection to pod" = e :=
    (hreports _).1 (by decide +kernel)
  rw [he]
  exact hready (by decide +kernel)

end PortForward

end PodTunnels.Kubectl
