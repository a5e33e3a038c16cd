import PodTunnels.Config
import PodTunnels.Host
import PodTunnels.Kubectl.Arguments
import PodTunnels.Kubectl.Stderr
import PodTunnels.Resolution
import PodTunnels.Text.Utf8

/-!
# Requests through kubectl

A request is one run of kubectl. It is given a number of seconds, and the program waits for one
second more before it gives up. A run that succeeds must print text that can be read; one that fails
is classified by its error output. The number of seconds has 64 bits, and so must have the longer
wait.

A client is an access to the cluster in the sense of `Access`, with the host as its state.
-/

namespace PodTunnels.Kubectl

/-- The places where kubectl is looked for before the search path. -/
def wellKnownPlaces : List String :=
  ["/opt/homebrew/bin/kubectl", "/usr/local/bin/kubectl", "/usr/bin/kubectl"]

def locate (h : Host) : Option String :=
  (h.firstHeld wellKnownPlaces).or (h.search "kubectl")

structure Client where
  program : Option String
  context : Option String := none
  /-- The seconds kubectl is told to give a request. -/
  seconds : UInt64 := 15
deriving DecidableEq, Repr

namespace Client

def ofConfig (h : Host) (c : Config) : Client where
  program := c.kubectlPath.or (locate h)
  context := c.context
  seconds := Config.effective c.requestTimeout

/-- The seconds after which a request is given up: one more than kubectl was told, if there is such
a number of 64 bits. -/
def patience? (c : Client) : Option UInt64 :=
  if c.seconds.toNat + 1 < UInt64.size then some (c.seconds + 1) else none

/-- What a run of a request comes to when it is given up after some seconds. -/
def outcome (patience : UInt64) (run : ProgramRun) : Except KubectlFailure String :=
  if run.hangs ∨ 1000 * patience.toNat ≤ run.delay then .error .timedOut
  else if run.exitCode = 0 then
    match Text.Utf8.decode? run.output with
    | some text => .ok text
    | none => .error (.undecodable (.malformed "text"))
  else .error (classify (Text.Utf8.decodeLenient run.errorOutput))

def request (c : Client) (what : List String) (h : Host) : Except KubectlFailure String × Host :=
  match c.program, c.patience? with
  | none, _ => (.error .programMissing, h)
  | some _, none => (.error .deadlineOverflow, h)
  | some program, some patience =>
    match h.start program (requestArguments c.context c.seconds.toNat what) with
    | (.ok run, h) => (outcome patience run, h)
    | (.error reason, h) => (.error (.io reason), h)

def fetch (c : Client) (kind : ResourceKind) (path : ResourcePath) (h : Host) :
    Except KubectlFailure Json × Host :=
  let (answer, h) := c.request (fetchArguments kind path) h
  (answer.bind (Manifest.decodeText "object" (Json.Reader.json Json.maxDepth)), h)

/-- Ask for the pods of a namespace, or those that a selector matches. -/
def listPods (c : Client) (ns : String) (selector : Option String) (h : Host) :
    Except KubectlFailure (List Json) × Host :=
  let (answer, h) := c.request (listArguments ns selector) h
  (answer.bind (Manifest.decodeText "list" Manifest.items), h)

def access (c : Client) : Access Host where
  fetch kind path h := let (r, h) := c.fetch kind path h; (r.mapError .kubectl, h)
  listPods ns selector h := let (r, h) := c.listPods ns selector h; (r.mapError .kubectl, h)

def ask {α : Type} (c : Client) (q : Inquiry α) (h : Host) : Except Failure α × Host :=
  Query.run c.access q.run h

end Client

/-- Pods in the order of their paths, those with the same path as they were listed. -/
def sortSummaries (pods : List PodSummary) : List PodSummary :=
  pods.mergeSort fun p q => (compare p.path q.path).isLE

/-- The pods of a listing as they stand there; each must be readable. -/
def readSummaries (fallback : String) (objects : List Json) :
    Except KubectlFailure (List PodSummary) := do
  let pods ← objects.mapM fun o => Manifest.decode "pod" Manifest.pod o.document
  return pods.map fun p => p.summary fallback

/-- The pods of a listing in the order of their paths. -/
def summaries (fallback : String) (objects : List Json) :
    Except KubectlFailure (List PodSummary) :=
  (readSummaries fallback objects).map sortSummaries

/-- Ask for the pods of a namespace in the order of their paths. -/
def Client.podSummaries (c : Client) (ns : String) (h : Host) :
    Except KubectlFailure (List PodSummary) × Host :=
  let (objects, h) := c.listPods ns none h
  (objects.bind (summaries ns), h)

end PodTunnels.Kubectl
