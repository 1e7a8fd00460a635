import NodeAlerts.Rule.Step

/-!
# Thresholds

A measure is compared with the threshold of each level.  An open alert whose threshold is no longer
breached is cleared; when a critical alert is cleared while an upper warning threshold is still
breached, the warning is raised anew.  Then the critical alert is raised, and else the warning.

A measure is a value, or the occurrences within the period of each level (`countIncrease`).
-/

namespace NodeAlerts

open NodeAlerts.Double

/-- What is compared with the thresholds. -/
inductive Measure where
  /-- A value; whether its breach has to last for a window before it is raised. -/
  | value (value : Float) (windowed : Bool)
  /-- The occurrences within the period of each level. -/
  | occurrences (warning critical : Nat)
  deriving Repr

namespace Measure

/-- What is compared with the threshold of a severity. -/
def level : Measure → Severity → Float
  | .value x _, _ => x
  | .occurrences _ critical, .critical => ofCount critical
  | .occurrences warning _, _ => ofCount warning

/-- Whether a breach has to last for a window before it is raised. -/
def windowed : Measure → Bool
  | .value _ windowed => windowed
  | .occurrences .. => false

/-- The event of a breached threshold. -/
def breached (m : Measure) (c : MetricConfig) (d : Direction) (severity : Severity) (age : Span) :
    Event :=
  let level := c.level severity
  match m with
  | .value x windowed =>
    .thresholdBreached severity x level.threshold d (if windowed then some age else none)
  | .occurrences .. =>
    .occurrencesBreached severity (toCount (m.level severity)) level.threshold level.window

/-- The event of a cleared threshold. -/
def cleared (m : Measure) (c : MetricConfig) (d : Direction) (severity : Severity) : Event :=
  let level := c.level severity
  match m with
  | .value x _ => .thresholdCleared severity x level.threshold d
  | .occurrences .. =>
    .occurrencesCleared severity (toCount (m.level severity)) level.threshold level.window

/-- Whether the measure breaches the threshold of a severity. -/
def breaches (m : Measure) (c : MetricConfig) (d : Direction) (severity : Severity) : Bool :=
  d.breaches (m.level severity) (c.level severity).threshold

/-- Where the window of a breach seen at `now` starts, if the measure waits for one. -/
def start (m : Measure) (now : Instant) : Option Instant := if m.windowed then some now else none

/-- Clears an open critical alert.  If an upper warning threshold is still breached, the warning
counts as not sent, so that it is raised anew. -/
def clearCritical (m : Measure) (c : MetricConfig) (d : Direction) (now : Instant)
    (s : MetricState) : Step :=
  if s.critical.sent && !m.breaches c d .critical then
    let s := { s with critical := s.critical.clear, repeatGate := s.repeatGate.reset }
    let rearm := d = .above && c.warning.enabled && m.breaches c d .warning
    let s :=
      if rearm then { s with warning := { s.warning with sent := false }.observe (m.start now) }
      else s
    ⟨s, [m.cleared c d .critical]⟩
  else .quiet s

/-- Clears an open warning. -/
def clearWarning (m : Measure) (c : MetricConfig) (d : Direction) (s : MetricState) : Step :=
  if s.warning.sent && !m.breaches c d .warning then
    ⟨{ s with warning := s.warning.clear }, [m.cleared c d .warning]⟩
  else .quiet s

/-- Raises the critical alert, or notes that its problem is not seen. -/
def checkCritical (m : Measure) (c : MetricConfig) (d : Direction) (now : Instant)
    (s : MetricState) : Step :=
  if c.critical.enabled && m.breaches c d .critical then
    raiseCritical c (m.start now) now (m.breached c d .critical) (m.breached c d .critical) s
  else .quiet { s with critical := s.critical.rest }

/-- Raises the warning, or notes that its problem is not seen. -/
def checkWarning (m : Measure) (c : MetricConfig) (d : Direction) (now : Instant)
    (s : MetricState) : Step :=
  if c.warning.enabled && m.breaches c d .warning then
    raiseWarning (m.start now) now (m.breached c d .warning) s
  else .quiet { s with warning := s.warning.rest }

/-- Compares a measure with the thresholds. -/
def classify (m : Measure) (c : MetricConfig) (d : Direction) (now : Instant) (s : MetricState) :
    Step :=
  (m.clearCritical c d now s).andThen fun s =>
  (m.clearWarning c d s).andThen fun s =>
  (m.checkCritical c d now s).andThen fun s =>
  m.checkWarning c d now s

end Measure

/-! ## Occurrences -/

/-- The occurrences that an increase of a counter stands for: its whole part, and none for less
than one. -/
def increase (current : Float) (previous : Option Float) : Nat :=
  let difference :=
    match previous with
    | some previous => current - previous
    | none => 0
  if difference ≥ 1 then toCount difference else 0

/-- Counts occurrences at `now` for both levels. -/
def countOccurrences (s : MetricState) (now : Instant) (n : Nat) : Except Overrun MetricState := do
  let warning ← s.warning.occurrences.add now n
  let critical ← s.critical.occurrences.add now n
  return { s with
    warning := { s.warning with occurrences := warning }
    critical := { s.critical with occurrences := critical } }

/-- Counts the increase of a counter as occurrences and compares them with the thresholds. -/
def classifyIncrease (c : MetricConfig) (now : Instant) (current : Float) (previous : Option Float)
    (s : MetricState) : Except Overrun Step := do
  let s ← countOccurrences s now (increase current previous)
  let measure := Measure.occurrences s.warning.occurrences.total s.critical.occurrences.total
  return measure.classify c .above now s

end NodeAlerts
