/-!
# Lengths of time

A `Span` is a signed number of microseconds.  `Span.text` writes its whole days, hours, minutes and
seconds.
-/

namespace NodeAlerts

/-- A length of time, possibly negative. -/
structure Span where
  /-- The length in microseconds. -/
  micros : Int
  deriving Repr, DecidableEq, Inhabited

namespace Span

/-- No time at all. -/
def zero : Span := ⟨0⟩

/-- A number of milliseconds. -/
def ofMillis (n : Int) : Span := ⟨n * 1000⟩

/-- The whole milliseconds of a span, without their fraction. -/
def millis (s : Span) : Int := s.micros.tdiv 1000

instance : LE Span := ⟨fun a b => a.micros ≤ b.micros⟩

theorem le_def (a b : Span) : a ≤ b ↔ a.micros ≤ b.micros := Iff.rfl

instance (a b : Span) : Decidable (a ≤ b) := inferInstanceAs (Decidable (a.micros ≤ b.micros))

/-- The whole seconds of a span; a negative span has none. -/
def seconds (s : Span) : Nat := (s.micros.tdiv 1000000).toNat

/-- A number with its unit; a unit that does not occur is left out. -/
def part (n : Nat) (unit : String) : List String := if n = 0 then [] else [toString n ++ unit]

/-- A number of seconds as days, hours, minutes and seconds. -/
def secondsText (total : Nat) : String :=
  if total = 0 then "0s"
  else
    " ".intercalate
      (part (total / 86400) "d" ++ part (total % 86400 / 3600) "h" ++
        part (total % 3600 / 60) "m" ++ part (total % 60) "s")

/-- A span for readers, such as `1h 2m 3s`: the parts that occur, largest first, and `0s` for less
than a second. -/
def text (s : Span) : String := secondsText s.seconds

end Span

end NodeAlerts
