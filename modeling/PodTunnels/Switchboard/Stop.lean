import PodTunnels.Switchboard.Basic

/-!
# Stops

A stop removes a session from the registry, marks it inactive and asks its transport to close; the
runner sees the end of the transport and does the rest. A stop by key takes whatever session is
registered under it. A stop of a session takes that session only, so that it spares a newer one
under the same key. Stopping everything only asks for the closes, and leaves the rest to the
runners.
-/

namespace PodTunnels

namespace Switchboard

/-- Mark a session inactive and ask for its close. -/
def quit (sb : Switchboard) (id : SessionId) : Switchboard :=
  (sb.live id Life.deactivate).closeSession id

def stop (sb : Switchboard) (key : SessionKey) : Except Failure Switchboard :=
  match sb.registry.delete key with
  | .ok (id, registry) => .ok ({ sb with registry }.quit id)
  | .error e => .error e

/-- Stop a session, wherever it is. -/
def stopSession (sb : Switchboard) (id : SessionId) : Switchboard :=
  { sb with registry := sb.registry.deleteSession id }.quit id

/-- Ask for the close of every registered session. -/
def stopAll (sb : Switchboard) : Switchboard :=
  sb.registry.sessions.foldl closeSession sb

end Switchboard

end PodTunnels
