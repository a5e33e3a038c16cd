import PodTunnels.Command.Report
import PodTunnels.Config.Store

/-!
# The commands about the configuration

One shows the configuration as it was loaded, in lines for a reader or as the text of a
configuration file. The other writes a file with the defaults, and spares a file that is there
already unless it is told to overwrite it.
-/

namespace PodTunnels.Command

open PodTunnels.Storage

def configLines (store : ConfigStore) (isThere : Bool) (c : Config) : List String :=
  ["Config file:     " ++ store.path ++
      (if isThere then "" else " (not created, using defaults)"),
    "Namespace:       " ++ c.ns,
    "Default address: " ++ c.defaultAddress,
    "kubectl:         " ++ c.kubectlPath.getD "(search PATH)",
    "Context:         " ++ c.context.getD "(current)",
    "Ready timeout:   " ++ toString c.readyTimeout.toNat ++ "s",
    "Request timeout: " ++ toString c.requestTimeout.toNat ++ "s"]

def showConfig (store : ConfigStore) (c : Config) (asJson : Bool) (fs : FileSystem) : Report :=
  if asJson then .lines [c.render] else .lines (configLines store (store.isThere fs) c)

/-- Write a configuration file with the defaults. -/
def initConfig (store : ConfigStore) (force : Bool) (fs : FileSystem) : Report × FileSystem :=
  if store.isThere fs ∧ !force then (.failed (.configExists store.path), fs)
  else
    match store.save Faults.none {} fs with
    | (.ok (), fs) => (.lines ["Wrote " ++ store.path], fs)
    | (.error e, fs) => (.failed (.failure e), fs)

end PodTunnels.Command
