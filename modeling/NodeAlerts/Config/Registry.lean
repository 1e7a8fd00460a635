import NodeAlerts.Config.Chain

/-!
# The configurations in force

The registry holds the latest configuration of every chain name, and beside it the chain name that
every configured chain belongs to.  A chain (`parentId`) belongs to at most one name:
`Registry.install` refuses a configuration whose chain another name owns.
-/

namespace NodeAlerts

/-- The configurations in force, by chain name. -/
structure Registry where
  /-- The latest configuration of each chain name. -/
  configs : Table ChainConfig
  /-- The chain name that each configured chain belongs to. -/
  owners : Table String
  deriving Inhabited

namespace Registry

/-- The registry without configurations. -/
def empty : Registry := ⟨∅, ∅⟩

/-- The configuration of a chain name. -/
def config? (r : Registry) (chainName : String) : Option ChainConfig := r.configs.get? chainName

/-- The chain that a chain name is configured for. -/
def parentOf? (r : Registry) (chainName : String) : Option String :=
  (r.config? chainName).map (·.parentId)

/-- The chain name that is configured for a chain. -/
def ownerOf? (r : Registry) (parentId : String) : Option String := r.owners.get? parentId

/-- The configuration in force for a chain. -/
def configFor? (r : Registry) (parentId : String) : Option ChainConfig := do
  r.config? (← r.ownerOf? parentId)

/-- Takes the configuration of a chain name out of force, which frees its chain. -/
def remove (r : Registry) (chainName : String) : Registry :=
  match r.config? chainName with
  | some config => ⟨r.configs.erase chainName, r.owners.erase config.parentId⟩
  | none => r

/-- Puts a configuration in force for a chain name, in place of its earlier one, whoever owns its
chain. -/
def put (r : Registry) (chainName : String) (config : ChainConfig) : Registry :=
  let freed := r.remove chainName
  ⟨freed.configs.insert chainName config, freed.owners.insert config.parentId chainName⟩

/-- Puts a configuration in force for a chain name, unless its chain belongs to another name. -/
def install (r : Registry) (chainName : String) (config : ChainConfig) :
    Except ConfigError Registry :=
  match r.ownerOf? config.parentId with
  | some owner =>
    if owner = chainName then .ok (r.put chainName config)
    else .error (.parentTaken config.parentId owner)
  | none => .ok (r.put chainName config)

end Registry

end NodeAlerts
