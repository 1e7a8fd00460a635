import NodeAlerts.Double.Binary
import NodeAlerts.Time.Span

/-!
# Points in time

An `Instant` counts microseconds from the start of 1970 (UTC).  The calendar runs from the start of
the year -262143 to the end of the year 262142; `Instant.minus?` and `Instant.ofSeconds?` have no
result outside it.
-/

namespace NodeAlerts

open NodeAlerts.Double

/-- A point in time. -/
structure Instant where
  /-- Microseconds since the start of 1970. -/
  micros : Int
  deriving Repr, DecidableEq, Inhabited

namespace Instant

/-- The start of the year -262143. -/
def first : Instant := ⟨-8334601228800000000⟩

/-- The last microsecond of the year 262142. -/
def last : Instant := ⟨8210266876799999999⟩

/-- Whether an instant lies in the calendar. -/
def InCalendar (t : Instant) : Prop := first.micros ≤ t.micros ∧ t.micros ≤ last.micros

instance (t : Instant) : Decidable t.InCalendar :=
  inferInstanceAs (Decidable (first.micros ≤ t.micros ∧ t.micros ≤ last.micros))

/-- The time that passed from `start` to `now`. -/
def since (now start : Instant) : Span := ⟨now.micros - start.micros⟩

/-- The instant a span earlier, if the calendar reaches that far. -/
def minus? (t : Instant) (s : Span) : Option Instant :=
  let earlier : Instant := ⟨t.micros - s.micros⟩
  if earlier.InCalendar then some earlier else none

/-- The instant a number of seconds after the start of 1970, to the nearest microsecond. -/
def ofSeconds? (seconds : Float) : Option Instant :=
  if isFinite seconds then
    let t : Instant := ⟨nearest (seconds * 1000000)⟩
    if t.InCalendar then some t else none
  else none

/-- The seconds since the start of 1970. -/
def toSeconds (t : Instant) : Float := ofInt t.micros / 1000000

end Instant

end NodeAlerts
