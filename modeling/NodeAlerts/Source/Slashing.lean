import NodeAlerts.Source.Outcome

/-!
# Slashing of validators
-/

namespace NodeAlerts

open NodeAlerts.Json NodeAlerts.Double

/-- Whether a validator was slashed in a round of monitoring. -/
structure Slashing where
  /-- Whether it was. -/
  slashed : Bool
  /-- The slashed amount, if it is known. -/
  amount : Option Float
  deriving Repr, Inhabited

namespace Slashing

/-- Reads a slashing. -/
def reader : Reader Slashing := Row.read do
  let slashed ← Row.required ["slashed"] Reader.bool
  let amount ← Row.defaulted ["amount"] (Reader.orNull Reader.float) none
  return { slashed, amount }

/-- The slashing for readers. -/
def detail (s : Slashing) : String :=
  match s.amount with
  | some amount => "Validator was slashed by " ++ plainText amount
  | none => "Validator was slashed"

end Slashing

end NodeAlerts
