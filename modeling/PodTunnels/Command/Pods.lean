import PodTunnels.Command.Report
import PodTunnels.Json.Printer
import PodTunnels.Kubectl.Client
import PodTunnels.Text.Shorten

/-!
# The listing of pods

The pods of a namespace are printed as a table or as a JSON array. The table shows the ports that
can be forwarded, the array all declared ports by container; its objects have their members in the
order of the names.
-/

namespace PodTunnels.Command

open PodTunnels.Text

def portValue (p : ContainerPort) : Json :=
  .object [("containerPort", .number (.ofNat p.port.toNat)),
    ("name", (p.name.map Json.string).getD .null),
    ("protocol", .string p.protocol.render)]

def podValue (p : PodSummary) : Json :=
  .object [("name", .string p.path.name), ("namespace", .string p.path.ns),
    ("phase", .string p.phase),
    ("ports", .object (p.ports.entries.map fun e => (e.1, .array (e.2.map portValue))))]

def nameWidth : Nat := 40

def phaseWidth : Nat := 10

def podRow (name phase ports : String) : String :=
  padRight nameWidth (shorten nameWidth name) ++ " " ++ padRight phaseWidth phase ++ " " ++ ports

/-- The ports of a pod that can be forwarded, in words. -/
def portsText (ports : PodPorts) : String :=
  match tcpCandidates ports with
  | [] => "-"
  | candidates => ", ".intercalate (candidates.map Candidate.render)

def podTable (pods : List PodSummary) : List String :=
  [podRow "NAME" "STATUS" "PORTS", String.ofList (List.replicate 80 '-')] ++
    pods.map (fun p => podRow p.path.name p.phase (portsText p.ports)) ++
    ["", "Total: " ++ toString pods.length ++ " pods"]

def podListing (ns : String) (asJson : Bool) (pods : List PodSummary) : Report :=
  if asJson then .lines [(Json.array (pods.map podValue)).pretty]
  else if pods.isEmpty then .lines ["No pods found in namespace " ++ ns ++ "."]
  else .lines (podTable pods)

def pods (config : Config) (ns : String) (asJson : Bool) (h : Host) : Report × Host :=
  match (Kubectl.Client.ofConfig h config).podSummaries ns h with
  | (.ok pods, h) => (podListing ns asJson pods, h)
  | (.error e, h) => (.failed (.failure (.kubectl e)), h)

end PodTunnels.Command
