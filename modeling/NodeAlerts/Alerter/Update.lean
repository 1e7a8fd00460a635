import NodeAlerts.Alerter.Basic

/-!
# Changes of configuration

A configuration message replaces or removes the configuration of one chain name.  With it goes all
that is remembered about the nodes concerned.  A message that is refused changes nothing.
-/

namespace NodeAlerts.Alerter

open NodeAlerts.Json

variable {M : Type}

/-- Puts a configuration in force.  The nodes of its chain are forgotten, and so is the chain that
the name was configured for before. -/
def install (a : Alerter M) (chainName : String) (config : ChainConfig) :
    Except ConfigError (Alerter M) := do
  let registry ← a.registry.install chainName config
  let store :=
    match a.registry.parentOf? chainName with
    | some previous => if previous = config.parentId then a.store else a.store.removeChain previous
    | none => a.store
  return { a with registry, store := store.resetChain config.parentId }

/-- Takes the configuration of a chain name out of force and forgets its chain. -/
def uninstall (a : Alerter M) (chainName : String) : Alerter M :=
  { a with
    registry := a.registry.remove chainName
    store :=
      match a.registry.parentOf? chainName with
      | some parentId => a.store.removeChain parentId
      | none => a.store }

/-- Applies a configuration message. -/
def update (a : Alerter M) (chainName : String) (payload : List UInt8) :
    Except ProcessingError (Alerter M) :=
  match Value.readObject? payload with
  | none => .error .malformed
  | some document =>
    match ChainConfig.ofDocument document with
    | .error e => .error (.config e)
    | .ok none => .ok (a.uninstall chainName)
    | .ok (some config) =>
      match a.install chainName config with
      | .error e => .error (.config e)
      | .ok a => .ok a

/-- Applies a configuration message, or none that is refused. -/
def applyConfig (a : Alerter M) (chainName : String) (payload : List UInt8) : Alerter M :=
  match a.update chainName payload with
  | .ok a => a
  | .error _ => a

end NodeAlerts.Alerter
