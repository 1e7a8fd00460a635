import NodeAlerts.Time.Instant

/-!
# Repeat gates

A repeat gate lets something be done again only after an interval has passed since it was last done.
-/

namespace NodeAlerts

/-- A gate that opens an interval after it was last passed. -/
structure RepeatGate where
  /-- The least time between two passages. -/
  interval : Span
  /-- When the gate was last passed. -/
  last? : Option Instant
  deriving Repr, DecidableEq, Inhabited

namespace RepeatGate

/-- A gate that was never passed. -/
def new (interval : Span) : RepeatGate := ⟨interval, none⟩

/-- Whether the gate may be passed. -/
def isOpen (g : RepeatGate) (now : Instant) : Bool :=
  g.last?.all fun last => decide (g.interval ≤ now.since last)

/-- Records a passage. -/
def pass (g : RepeatGate) (now : Instant) : RepeatGate := { g with last? := some now }

/-- Forgets the last passage. -/
def reset (g : RepeatGate) : RepeatGate := { g with last? := none }

@[simp] theorem interval_pass (g : RepeatGate) (t : Instant) :
    (g.pass t).interval = g.interval := rfl

@[simp] theorem interval_reset (g : RepeatGate) : g.reset.interval = g.interval := rfl

end RepeatGate

end NodeAlerts
