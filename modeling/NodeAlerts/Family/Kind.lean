import NodeAlerts.Text.Case

/-!
# Names of chain families
-/

namespace NodeAlerts

open NodeAlerts.Text

/-- The families of chains that can be served. -/
inductive ChainFamily where
  /-- Chains built with the Cosmos SDK. -/
  | cosmos
  /-- Chains built with Substrate. -/
  | substrate
  deriving Repr, DecidableEq, Inhabited

namespace ChainFamily

/-- The name of a family. -/
def name : ChainFamily → String
  | .cosmos => "cosmos"
  | .substrate => "substrate"

/-- The family with the given name; the case of ASCII letters may be ignored. -/
def ofName? (s : String) (ignoreCase : Bool) : Option ChainFamily :=
  [cosmos, substrate].find? fun f => f.name = if ignoreCase then lowerAscii s else s

end ChainFamily

end NodeAlerts
