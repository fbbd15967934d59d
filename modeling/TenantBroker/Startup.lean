import TenantBroker.Catalog
import TenantBroker.Kubectl.Client

/-!
# Start-up

The settings are read from the environment when they are first needed and kept from then on;
settings that cannot be read are not kept, so that a later attempt may succeed. The broker is built
from the settings that are kept, or anew from an environment.
-/

namespace TenantBroker

/-- The settings that have been read. -/
structure Startup where
  config : Option Config := none

namespace Startup

/-- The settings: those kept, or else those of the environment, which are then kept. -/
def getConfig (s : Startup) (env : Environment) : Except ConfigFault Config × Startup :=
  match s.config with
  | some config => (.ok config, s)
  | none =>
    match Config.ofEnvironment env with
    | .ok config => (.ok config, ⟨some config⟩)
    | .error fault => (.error fault, s)

end Startup

/-- A broker: its settings and the client that works for it. -/
structure BrokerParts where
  config : Config
  client : Kubectl.Client

/-- The broker of some settings. -/
def BrokerParts.ofConfig (config : Config) : BrokerParts := ⟨config, .ofConfig config⟩

end TenantBroker
