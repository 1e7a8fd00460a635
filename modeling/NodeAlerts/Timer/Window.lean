import NodeAlerts.Time.Instant

/-!
# Window timers

A window timer measures how long a problem has lasted.  It is started when the problem is first
seen, is due once its window has passed since then, and is fired when the problem was reported.  It
keeps its start until it is reset, so the true age of the problem stays known after the report.
-/

namespace NodeAlerts

/-- Where a window timer stands in its cycle. -/
inductive WindowPhase where
  /-- Not started. -/
  | idle
  /-- Started, and not yet fired. -/
  | running (start : Instant)
  /-- Fired. -/
  | fired (start : Instant)
  deriving Repr, DecidableEq, Inhabited

/-- A timer that is due once its window has passed. -/
structure WindowTimer where
  /-- How long a problem has to last. -/
  window : Span
  /-- Where the timer stands. -/
  phase : WindowPhase
  deriving Repr, DecidableEq, Inhabited

namespace WindowTimer

/-- A timer that is not started. -/
def new (window : Span) : WindowTimer := ⟨window, .idle⟩

/-- When the timer was started, if it was. -/
def startedAt? (t : WindowTimer) : Option Instant :=
  match t.phase with
  | .idle => none
  | .running start => some start
  | .fired start => some start

/-- Whether the timer was started. -/
def isStarted (t : WindowTimer) : Bool := t.startedAt?.isSome

/-- Starts an idle timer; a started one keeps its start. -/
def start (t : WindowTimer) (at' : Instant) : WindowTimer :=
  match t.phase with
  | .idle => { t with phase := .running at' }
  | _ => t

/-- Whether the window has passed since the start. -/
def isDue (t : WindowTimer) (now : Instant) : Bool :=
  t.startedAt?.any fun start => decide (t.window ≤ now.since start)

/-- Marks a running timer as fired. -/
def fire (t : WindowTimer) : WindowTimer :=
  match t.phase with
  | .running start => { t with phase := .fired start }
  | _ => t

/-- The time since the start; none has passed on an idle timer. -/
def elapsed (t : WindowTimer) (now : Instant) : Span :=
  match t.startedAt? with
  | some start => now.since start
  | none => Span.zero

/-- Makes the timer idle again. -/
def reset (t : WindowTimer) : WindowTimer := { t with phase := .idle }

@[simp] theorem window_new (w : Span) : (new w).window = w := rfl

@[simp] theorem window_start (t : WindowTimer) (s : Instant) : (t.start s).window = t.window := by
  unfold start; split <;> rfl

@[simp] theorem window_fire (t : WindowTimer) : t.fire.window = t.window := by
  unfold fire; split <;> rfl

@[simp] theorem window_reset (t : WindowTimer) : t.reset.window = t.window := rfl

@[simp] theorem startedAt?_new (w : Span) : (new w).startedAt? = none := rfl

@[simp] theorem startedAt?_start (t : WindowTimer) (s : Instant) :
    (t.start s).startedAt? = some (t.startedAt?.getD s) := by
  obtain ⟨w, p⟩ := t
  cases p <;> rfl

@[simp] theorem startedAt?_fire (t : WindowTimer) : t.fire.startedAt? = t.startedAt? := by
  obtain ⟨w, p⟩ := t
  cases p <;> rfl

@[simp] theorem startedAt?_reset (t : WindowTimer) : t.reset.startedAt? = none := rfl

end WindowTimer

end NodeAlerts
