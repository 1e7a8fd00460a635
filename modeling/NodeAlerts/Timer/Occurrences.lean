import NodeAlerts.Double.Binary
import NodeAlerts.Time.Instant

/-!
# Counting occurrences within a period

An occurrence counter opens a window with the first occurrence and counts until that occurrence is
older than the period; then the whole window is dropped and the next occurrence opens a new one.
Counts stop at `Double.maxCount`.

Dropping needs the start of the period, which may lie before the calendar: then the operation has no
result (`Overrun`).
-/

namespace NodeAlerts

open NodeAlerts.Double

/-- A computation with dates left the calendar. -/
inductive Overrun where
  /-- The start of a counting period lies outside the calendar. -/
  | periodStart (now : Instant) (period : Span)
  deriving Repr, DecidableEq

/-- A counter of the occurrences within a period. -/
structure OccurrenceCounter where
  /-- The length of the period. -/
  period : Span
  /-- The times of the open window with the number of occurrences at each, oldest first. -/
  entries : List (Instant × Nat)
  /-- The occurrences of the open window. -/
  total : Nat
  deriving Repr, DecidableEq, Inhabited

namespace OccurrenceCounter

/-- A counter without an open window. -/
def new (period : Span) : OccurrenceCounter := ⟨period, [], 0⟩

/-- Adds counts, stopping at the largest. -/
def addCounts (a b : Nat) : Nat := min (a + b) maxCount

/-- Drops the open window. -/
def reset (c : OccurrenceCounter) : OccurrenceCounter := { c with entries := [], total := 0 }

/-- Drops the open window if its first occurrence is older than the period at `now`. -/
def dropStale (c : OccurrenceCounter) (now : Instant) : Except Overrun OccurrenceCounter :=
  match now.minus? c.period with
  | none => .error (.periodStart now c.period)
  | some cutoff =>
    match c.entries with
    | (first, _) :: _ => .ok (if first.micros < cutoff.micros then c.reset else c)
    | [] => .ok c

/-- Adds occurrences to the last entry if it has the same time, and else behind it. -/
def addEntry (time : Instant) (n : Nat) : List (Instant × Nat) → List (Instant × Nat)
  | [] => [(time, n)]
  | [(last, m)] => if last = time then [(last, addCounts m n)] else [(last, m), (time, n)]
  | e :: es => e :: addEntry time n es

/-- Counts `n` occurrences at a time, after dropping a stale window. -/
def add (c : OccurrenceCounter) (time : Instant) (n : Nat) : Except Overrun OccurrenceCounter := do
  let c ← c.dropStale time
  if n = 0 then return c
  return { c with entries := addEntry time n c.entries, total := addCounts c.total n }

end OccurrenceCounter

end NodeAlerts
