import PodTunnels.Failure
import PodTunnels.Json.Basic

/-!
# Asking the cluster

Code that needs the cluster is written as a query: a tree whose nodes are requests and whose
branches are what is done with the answers. A query does nothing by itself. It is run against an
access, which answers requests while its own state changes: a fixed content that logs the requests,
or a program whose runs are used up one by one.

Requests return objects as they are. Failures of a request are passed on unchanged, and no request
is repeated.
-/

namespace PodTunnels

/-- What can be asked of the cluster. -/
inductive Request where
  | fetch (kind : ResourceKind) (path : ResourcePath)
  | listPods (ns : String) (selector : Option String)
deriving DecidableEq, Repr

def Request.render : Request → String
  | fetch kind path => "fetch " ++ kind.kubectlName ++ " " ++ path.render
  | listPods ns selector => "list " ++ ns ++ " " ++ selector.getD ""

/-- A computation that may ask the cluster. -/
inductive Query (α : Type) where
  | done (a : α)
  | fetch (kind : ResourceKind) (path : ResourcePath) (next : Except Failure Json → Query α)
  | listPods (ns : String) (selector : Option String)
      (next : Except Failure (List Json) → Query α)

/-- Something that answers requests and changes its state meanwhile. -/
structure Access (σ : Type) where
  fetch : ResourceKind → ResourcePath → σ → Except Failure Json × σ
  listPods : String → Option String → σ → Except Failure (List Json) × σ

namespace Query

variable {α β σ : Type}

/-- Go on with the outcome of a query. -/
def bind (f : α → Query β) : Query α → Query β
  | done a => f a
  | fetch kind path next => .fetch kind path fun r => bind f (next r)
  | listPods ns selector next => .listPods ns selector fun r => bind f (next r)

instance : Monad Query where
  pure := done
  bind q f := q.bind f

def run (access : Access σ) : Query α → σ → α × σ
  | done a, s => (a, s)
  | fetch kind path next, s =>
    let (answer, s) := access.fetch kind path s
    run access (next answer) s
  | listPods ns selector next, s =>
    let (answer, s) := access.listPods ns selector s
    run access (next answer) s

end Query

/-- A query whose failures end it. -/
abbrev Inquiry := ExceptT Failure Query

namespace Inquiry

def fetch (kind : ResourceKind) (path : ResourcePath) : Inquiry Json :=
  ExceptT.mk (.fetch kind path .done)

/-- Ask for the pods of a namespace, or those that a selector matches. -/
def listPods (ns : String) (selector : Option String) : Inquiry (List Json) :=
  ExceptT.mk (.listPods ns selector .done)

end Inquiry

/-- The content of a cluster: what it answers as long as nothing changes. -/
structure Cluster where
  fetch : ResourceKind → ResourcePath → Except Failure Json
  listPods : String → Option String → Except Failure (List Json)

def Cluster.empty : Cluster where
  fetch kind path := .error (.kubectl (.notFound (kind.kubectlName ++ " " ++ path.render)))
  listPods _ _ := .ok []

def Cluster.access (c : Cluster) : Access (List Request) where
  fetch kind path log := (c.fetch kind path, log ++ [.fetch kind path])
  listPods ns selector log := (c.listPods ns selector, log ++ [.listPods ns selector])

/-- The outcome of an inquiry against a fixed content, and the requests that it made. -/
def Cluster.ask {α : Type} (c : Cluster) (q : Inquiry α) : Except Failure α × List Request :=
  Query.run c.access q.run []

end PodTunnels
