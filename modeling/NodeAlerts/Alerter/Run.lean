import NodeAlerts.Alerter.Handle

/-!
# Running an alerter

A running alerter connects to its broker, again and again until it succeeds, and then handles the
messages that arrive one by one.  It connects anew when the stream of messages ends or fails, or
when a message cannot be acknowledged, and stops on any other error and when it is asked to.  It
looks whether it is asked to stop before it connects and before it waits for a message, so that a
message being handled is always handled to its end.  At the very end it closes the connection.

`Session` is a run up to some point, `Session.step` what happens at an arrival, and `Alerter.run`
the run over all arrivals, after which the alerter is asked to stop.
-/

namespace NodeAlerts

/-- What happens while an alerter waits for a message; meanwhile it may be asked to stop. -/
inductive Arrival where
  /-- A message is handed out. -/
  | message (m : Message) (cancels : Bool)
  /-- The stream of messages ends. -/
  | ended (cancels : Bool := false)
  /-- Waiting fails. -/
  | failed (cancels : Bool := false)

/-- Where a running alerter stands. -/
inductive Phase where
  /-- It has to connect. -/
  | unconnected
  /-- It is connected. -/
  | connected
  /-- It stopped, because of an error or because it was asked to. -/
  | stopped (failure : Option AlerterError)

/-- A run of an alerter up to some point. -/
structure Session (M : Type) where
  /-- The alerter. -/
  alerter : Alerter M
  /-- The broker. -/
  broker : Broker
  /-- Where the alerter stands. -/
  phase : Phase
  /-- Whether it is asked to stop. -/
  cancelled : Bool
  /-- The calls to the broker so far. -/
  calls : List Call

/-! ## Connecting -/

/-- What comes of connecting. -/
structure Connecting where
  /-- The attempts that are left. -/
  attempts : List Attempt
  /-- Whether the alerter is asked to stop. -/
  cancelled : Bool
  /-- The calls to the broker, in order. -/
  calls : List Call
  /-- Whether the alerter is connected. -/
  success : Bool

/-- Connects, again and again until it succeeds or the alerter is asked to stop. -/
def connectWithin : List Attempt → Connecting
  | [] => ⟨[], false, [.connect (.ok ())], true⟩
  | attempt :: rest =>
    match attempt.reply with
    | .ok () => ⟨rest, attempt.cancels, [.connect (.ok ())], true⟩
    | .error fault =>
      if attempt.cancels then ⟨rest, true, [.connect (.error fault)], false⟩
      else
        let later := connectWithin rest
        { later with calls := .connect (.error fault) :: later.calls }

namespace Session

variable {M : Type}

/-- The start of a run. -/
def start (a : Alerter M) (broker : Broker) (cancelled : Bool) : Session M :=
  ⟨a, broker, .unconnected, cancelled, []⟩

/-- Records a call. -/
def record (s : Session M) (call : Call) : Session M := { s with calls := s.calls ++ [call] }

/-- Gets ready to wait for a message: connects if need be, and stops if asked to. -/
def ready (s : Session M) : Session M :=
  match s.phase with
  | .stopped _ => s
  | .connected => if s.cancelled then { s with phase := .stopped none } else s
  | .unconnected =>
    if s.cancelled then { s with phase := .stopped none }
    else
      let c := connectWithin s.broker.attempts
      { s with
        broker := { s.broker with attempts := c.attempts }
        phase := if c.success && !c.cancelled then .connected else .stopped none
        cancelled := c.cancelled
        calls := s.calls ++ c.calls }

/-- Where the alerter stands after handling a message. -/
def phaseAfter : Option AlerterError → Phase
  | none => .connected
  | some (.acknowledge _) => .unconnected
  | some e => .stopped (some e)

variable [DecidableEq M]

/-- What a connected alerter does at an arrival. -/
def receive (s : Session M) : Arrival → Except Overrun (Session M)
  | .ended cancels =>
    .ok { s.record (.next .ended) with phase := .unconnected, cancelled := cancels }
  | .failed cancels =>
    .ok { s.record (.next .failed) with phase := .unconnected, cancelled := cancels }
  | .message m cancels => do
    let h ← s.alerter.handle s.broker m
    return {
      alerter := h.alerter
      broker := h.broker
      phase := phaseAfter h.failure
      cancelled := cancels
      calls := s.calls ++ .next (.message m.tag) :: h.calls }

/-- What happens at an arrival; a stopped alerter no longer waits for any. -/
def step (s : Session M) (arrival : Arrival) : Except Overrun (Session M) :=
  let s := s.ready
  match s.phase with
  | .connected => s.receive arrival
  | _ => .ok s

/-- The end of a run: an alerter that still waits for a message is asked to stop, and the connection
is closed. -/
def finish (s : Session M) : Session M :=
  let s := s.ready
  let s :=
    match s.phase with
    | .connected => { s.record (.next .cancelled) with phase := .stopped none, cancelled := true }
    | _ => s
  let (reply, broker) := s.broker.disconnect
  { s.record (.disconnect reply) with broker }

/-- The error that stopped the alerter, if one did. -/
def failure (s : Session M) : Option AlerterError :=
  match s.phase with
  | .stopped failure => failure
  | _ => none

end Session

/-- Runs an alerter over arrivals, after which it is asked to stop. -/
def Alerter.run {M : Type} [DecidableEq M] (a : Alerter M) (broker : Broker) (cancelled : Bool)
    (arrivals : List Arrival) : Except Overrun (Session M) := do
  let s ← arrivals.foldlM Session.step (Session.start a broker cancelled)
  return s.finish

end NodeAlerts
