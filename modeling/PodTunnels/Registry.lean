import PodTunnels.OrderedMap
import PodTunnels.Session

/-!
# The registry of sessions

The registry keeps the roster of all sessions ever made, and maps keys to the sessions registered
under them. A session can be on the roster without being registered: before it is added, and after
it was removed. An entry whose session is no longer live is as good as absent for a new session
with the same key, though it stays listed until it is removed or displaced.

Removal is by key or by identity. A session that ends late removes itself by identity, so that it
never takes away a newer session that got its key.
-/

namespace PodTunnels

/-- All sessions, and which of them is registered under which key. -/
structure Registry where
  roster : List Session := []
  entries : OrderedMap SessionKey SessionId := {}

namespace Registry

def session? (r : Registry) (id : SessionId) : Option Session :=
  r.roster[id]?

def isLive (r : Registry) (id : SessionId) : Bool :=
  (r.session? id).any fun s => s.isLive

/-- Put a new session on the roster. -/
def enroll (r : Registry) (w : Wiring) : SessionId × Registry :=
  (r.roster.length, { r with roster := r.roster ++ [.ofWiring w] })

/-- Let the life of a session go on. -/
def live (r : Registry) (id : SessionId) (f : Life → Life) : Registry :=
  { r with roster := r.roster.modify id fun s => s.live f }

/-- The live session registered under a key. -/
def lookup (r : Registry) (key : SessionKey) : Option SessionId :=
  (r.entries.get? key).filter r.isLive

/-- Register a session under its key, unless a live one holds it. -/
def add (r : Registry) (id : SessionId) : Except Failure Registry :=
  match r.session? id with
  | none => .ok r
  | some s =>
    match r.lookup s.key with
    | some _ => .error (.duplicateSession s.key)
    | none => .ok { r with entries := r.entries.insert s.key id }

def delete (r : Registry) (key : SessionKey) : Except Failure (SessionId × Registry) :=
  match r.entries.get? key with
  | some id => .ok (id, { r with entries := r.entries.erase key })
  | none => .error (.notFound key)

def isRegistered (r : Registry) (id : SessionId) : Bool :=
  (r.session? id).any fun s => r.entries.get? s.key == some id

/-- Remove a session, but none that took its key. -/
def deleteSession (r : Registry) (id : SessionId) : Registry :=
  match r.session? id with
  | some s =>
    if r.entries.get? s.key = some id then { r with entries := r.entries.erase s.key } else r
  | none => r

def sessions (r : Registry) : List SessionId :=
  r.entries.values

/-- The live registered sessions of a pod in the order of their keys. -/
def allForPod (r : Registry) (pod : ResourcePath) : List SessionId :=
  (r.entries.entries.filter fun e => e.1.pod = pod ∧ r.isLive e.2).map Prod.snd

/-- The number of registered sessions, live or not. -/
def size (r : Registry) : Nat :=
  r.entries.size

def isEmpty (r : Registry) : Bool :=
  r.entries.isEmpty

def snapshot (r : Registry) : List Forward :=
  r.sessions.filterMap fun id => (r.session? id).map Session.forward

end Registry

end PodTunnels
