import Mathlib.Data.List.Basic
import NodeAlerts.Proofs.Session

/-!
# Reconnections are transparent

What an alerter does with the messages of a run is what it would do with them without connecting at
all: `Alerter.serve` handles messages one after another, and every run serves the messages that it
was handed out before it was asked to stop (`Alerter.run_eq_serve`).  Connecting, losing a
connection and closing it take no part in this, because handling a message reads only the broker's
replies to acknowledgements and published messages (`Alerter.handle_relink`).  So two runs with the
same messages and the same replies do the same (`reconnections_are_transparent`).
-/

namespace NodeAlerts

/-! ## Brokers that differ in their connections -/

/-- The broker with other replies to connecting and to closing the connection. -/
def Broker.relink (b : Broker) (attempts : List Attempt) (disconnects : List Reply) : Broker :=
  { b with attempts, disconnects }

namespace Alerter

variable {M : Type} (a : Alerter M) (b : Broker) (attempts : List Attempt)
  (disconnects : List Reply)

theorem publishAlerts_relink (exchange routingKey : String) (items : List Record) :
    publishAlerts exchange routingKey items (b.relink attempts disconnects) =
      { publishAlerts exchange routingKey items b with
        broker :=
          (publishAlerts exchange routingKey items b).broker.relink attempts disconnects } := by
  induction items generalizing b with
  | nil => rfl
  | cons alert rest ih =>
      cases hb : b.publish with
      | mk reply b' =>
          have hrelinked : (b.relink attempts disconnects).publish =
              (reply, b'.relink attempts disconnects) := by
            cases hb
            rfl
          cases reply with
          | ok u => rw [publishAlerts_cons_ok hb, publishAlerts_cons_ok hrelinked, ih]
          | error fault => rw [publishAlerts_cons_error hb, publishAlerts_cons_error hrelinked]

theorem report_relink (healthy : Bool) :
    a.report (b.relink attempts disconnects) healthy =
      { a.report b healthy with
        broker := (a.report b healthy).broker.relink attempts disconnects } := by
  have hflush : a.flush (b.relink attempts disconnects) =
      { a.flush b with broker := (a.flush b).broker.relink attempts disconnects } :=
    publishAlerts_relink b attempts disconnects a.alertExchange a.routing.alertKey a.outbox.items
  by_cases h : ((a.flush b).failure.isNone && healthy) = true
  · simp only [report, hflush, if_pos h]
    rfl
  · simp only [report, hflush, if_neg h]

theorem acknowledge_relink (tag : Nat) :
    a.acknowledge (b.relink attempts disconnects) tag =
      { a.acknowledge b tag with
        broker := (a.acknowledge b tag).broker.relink attempts disconnects } :=
  rfl

theorem settle_relink (tag : Nat) (healthy : Bool) :
    a.settle (b.relink attempts disconnects) tag healthy =
      { a.settle b tag healthy with
        broker := (a.settle b tag healthy).broker.relink attempts disconnects } := by
  have hack := a.acknowledge_relink b attempts disconnects tag
  cases hf : (a.acknowledge b tag).failure with
  | some e =>
      have hf' : (a.acknowledge (b.relink attempts disconnects) tag).failure = some e := hf
      rw [settle_of_some hf, settle_of_some hf', hack]
  | none =>
      have hf' : (a.acknowledge (b.relink attempts disconnects) tag).failure = none := hf
      rw [settle_of_none hf, settle_of_none hf', hack, report_relink]

variable [DecidableEq M]

/-- **Handling a message reads only the replies to acknowledgements and published messages.** -/
theorem handle_relink (m : Message) :
    a.handle (b.relink attempts disconnects) m =
      (a.handle b m).map fun h => { h with broker := h.broker.relink attempts disconnects } := by
  simp only [handle]
  cases a.routing.route m.routingKey with
  | data =>
      simp only [handleData]
      cases a.family.process a.registry a.store m.payload with
      | error e => rfl
      | ok p =>
          simp only [bind, Except.bind, pure, Except.pure, Except.map, settle_relink]
  | config name => rfl
  | unknown => rfl

variable {a b}

theorem attempts_handle {m : Message} {h : Handled M} (hh : a.handle b m = .ok h) :
    h.broker.attempts = b.attempts := by
  have hsame := a.handle_relink b b.attempts b.disconnects m
  have hself : b.relink b.attempts b.disconnects = b := rfl
  rw [hself, hh] at hsame
  exact congrArg (fun h : Handled M => h.broker.attempts) (Except.ok.inj hsame)

end Alerter

/-! ## What a run did with messages -/

/-- What an alerter did with messages. -/
structure Service (M : Type) where
  /-- The alerter afterwards. -/
  alerter : Alerter M
  /-- The number of messages. -/
  handled : Nat
  /-- The acknowledgements and the published messages, in order. -/
  calls : List Call
  /-- The error that stopped the alerter, if one did. -/
  failure : Option AlerterError

variable {M : Type}

/-- The service of an alerter that did something before. -/
def Service.behind (v : Service M) (handled : Nat) (calls : List Call) : Service M :=
  { v with handled := handled + v.handled, calls := calls ++ v.calls }

/-- Whether a call hands a message out. -/
def Call.delivers : Call → Bool
  | .next (.message _) => true
  | _ => false

/-- What was done with messages so far. -/
def Session.service (s : Session M) : Service M where
  alerter := s.alerter
  handled := s.calls.countP Call.delivers
  calls := s.calls.filter Call.isWork
  failure := s.failure

/-- Handles messages one after another, until an error stops the alerter. -/
def Alerter.serve [DecidableEq M] (a : Alerter M) (b : Broker) :
    List Message → Except Overrun (Service M)
  | [] => .ok ⟨a, 0, [], none⟩
  | m :: rest => do
    let h ← a.handle b m
    match Session.phaseAfter h.failure with
    | .stopped failure => return ⟨h.alerter, 1, h.calls, failure⟩
    | _ =>
      let later ← h.alerter.serve h.broker rest
      return later.behind 1 h.calls

/-- The message that arrives, if one does. -/
def Arrival.message? : Arrival → Option Message
  | .message m _ => some m
  | _ => none

/-- The number of messages after which an alerter was asked to stop, if that stopped it. -/
def askedAfter? (outcome : Except Overrun (Service M)) : Option Nat :=
  match outcome with
  | .ok v => if v.failure.isNone then some v.handled else none
  | .error _ => none

/-- The same arrivals, with more ended streams and more failures to receive among them. -/
inductive Interrupts : List Arrival → List Arrival → Prop where
  /-- There are no more arrivals. -/
  | nil : Interrupts [] []
  /-- Something arrives in both cases. -/
  | keep {xs ys : List Arrival} (x : Arrival) (h : Interrupts xs ys) :
      Interrupts (x :: xs) (x :: ys)
  /-- The stream ends. -/
  | ended {xs ys : List Arrival} (h : Interrupts xs ys) : Interrupts xs (.ended :: ys)
  /-- Waiting fails. -/
  | failed {xs ys : List Arrival} (h : Interrupts xs ys) : Interrupts xs (.failed :: ys)

/-! ## Serving messages -/

namespace Alerter

variable [DecidableEq M] {a : Alerter M} {b : Broker} {m : Message}

/-- A message cannot be handled, or stops the alerter, or lets it go on. -/
theorem handle_outcomes (a : Alerter M) (b : Broker) (m : Message) :
    (∃ e, a.handle b m = .error e) ∨
    (∃ h e, a.handle b m = .ok h ∧ Session.phaseAfter h.failure = .stopped (some e)) ∨
    ∃ h, a.handle b m = .ok h ∧ ∀ failure, Session.phaseAfter h.failure ≠ .stopped failure := by
  cases hh : a.handle b m with
  | error e => exact Or.inl ⟨e, rfl⟩
  | ok h =>
      refine Or.inr ?_
      cases hf : h.failure with
      | none => exact Or.inr ⟨h, rfl, by simp [hf, Session.phaseAfter]⟩
      | some e =>
          cases e with
          | acknowledge fault => exact Or.inr ⟨h, rfl, by simp [hf, Session.phaseAfter]⟩
          | _ => exact Or.inl ⟨h, _, rfl, by rw [hf]; rfl⟩

theorem serve_cons_of_error {e : Overrun} (h : a.handle b m = .error e) (rest : List Message) :
    a.serve b (m :: rest) = .error e := by
  rw [serve, h]
  rfl

theorem serve_cons_of_stopped {h : Handled M} (hh : a.handle b m = .ok h)
    {failure : Option AlerterError} (hp : Session.phaseAfter h.failure = .stopped failure)
    (rest : List Message) : a.serve b (m :: rest) = .ok ⟨h.alerter, 1, h.calls, failure⟩ := by
  rw [serve, hh]
  simp only [bind, Except.bind, hp]
  rfl

theorem serve_cons_of_not_stopped {h : Handled M} (hh : a.handle b m = .ok h)
    (hp : ∀ failure, Session.phaseAfter h.failure ≠ .stopped failure) (rest : List Message) :
    a.serve b (m :: rest) = (h.alerter.serve h.broker rest).map (·.behind 1 h.calls) := by
  rw [serve, hh]
  simp only [bind, Except.bind]
  cases hphase : Session.phaseAfter h.failure with
  | stopped failure => exact absurd hphase (hp failure)
  | _ => cases h.alerter.serve h.broker rest <;> rfl

/-- Serving reads only the replies to acknowledgements and published messages. -/
theorem serve_relink (ms : List Message) (attempts : List Attempt) (disconnects : List Reply) :
    a.serve (b.relink attempts disconnects) ms = a.serve b ms := by
  induction ms generalizing a b with
  | nil => rfl
  | cons m rest ih =>
      have hrelinked := a.handle_relink b attempts disconnects m
      rcases a.handle_outcomes b m with ⟨e, hh⟩ | ⟨h, e, hh, hp⟩ | ⟨h, hh, hp⟩
      all_goals rw [hh] at hrelinked
      · rw [serve_cons_of_error hh, serve_cons_of_error hrelinked]
      · rw [serve_cons_of_stopped hh hp, serve_cons_of_stopped hrelinked hp]
      · rw [serve_cons_of_not_stopped hh hp, serve_cons_of_not_stopped hrelinked hp, ih]

theorem serve_congr {b' : Broker} (hacks : b'.acks = b.acks)
    (hpublishes : b'.publishes = b.publishes) (ms : List Message) :
    a.serve b' ms = a.serve b ms := by
  have hrelinked : b' = b.relink b'.attempts b'.disconnects := by
    rw [Broker.relink, ← hacks, ← hpublishes]
  rw [hrelinked, serve_relink]

/-- An alerter that does not stop by itself handles all messages. -/
theorem handled_serve {ms : List Message} {v : Service M} (h : a.serve b ms = .ok v)
    (hfailure : v.failure = none) : v.handled = ms.length := by
  induction ms generalizing a b v with
  | nil => cases h; rfl
  | cons m rest ih =>
      rcases a.handle_outcomes b m with ⟨e, hh⟩ | ⟨handled, e, hh, hp⟩ | ⟨handled, hh, hp⟩
      · rw [serve_cons_of_error hh] at h
        cases h
      · rw [serve_cons_of_stopped hh hp] at h
        cases h
        cases hfailure
      · rw [serve_cons_of_not_stopped hh hp] at h
        obtain ⟨later, hlater, rfl⟩ := exists_of_map_eq_ok h
        rw [Service.behind, ih hlater hfailure, List.length_cons, Nat.add_comm]

/-- An alerter that stops by itself handles no message behind. -/
theorem serve_append_of_stopped {ms : List Message} (h : askedAfter? (a.serve b ms) = none)
    (rest : List Message) : a.serve b (ms ++ rest) = a.serve b ms := by
  induction ms generalizing a b with
  | nil => cases h
  | cons m ms ih =>
      rw [List.cons_append]
      rcases a.handle_outcomes b m with ⟨e, hh⟩ | ⟨handled, e, hh, hp⟩ | ⟨handled, hh, hp⟩
      · rw [serve_cons_of_error hh, serve_cons_of_error hh]
      · rw [serve_cons_of_stopped hh hp, serve_cons_of_stopped hh hp]
      · rw [serve_cons_of_not_stopped hh hp] at h ⊢
        rw [serve_cons_of_not_stopped hh hp, ih]
        cases hs : handled.alerter.serve handled.broker ms with
        | error e => rfl
        | ok v =>
            rw [hs] at h
            simp only [askedAfter?, Except.map, Service.behind] at h ⊢
            split at h
            · cases h
            · rename_i hf
              rw [if_neg hf]

/-- An alerter that is asked to stop has handled all messages by then. -/
theorem askedAfter?_serve {ms : List Message} {n : Nat}
    (h : askedAfter? (a.serve b ms) = some n) : n = ms.length := by
  cases hs : a.serve b ms with
  | error e => rw [hs] at h; cases h
  | ok v =>
      rw [hs, askedAfter?] at h
      split at h
      · rename_i hf
        rw [← handled_serve hs (Option.isNone_iff_eq_none.1 hf)]
        exact (Option.some.inj h).symm
      · cases h

theorem serve_append_eq {ms rest : List Message}
    (h : askedAfter? (a.serve b (ms ++ rest)) = askedAfter? (a.serve b ms)) :
    a.serve b (ms ++ rest) = a.serve b ms := by
  cases hn : askedAfter? (a.serve b ms) with
  | none => exact serve_append_of_stopped hn rest
  | some n =>
      rw [hn] at h
      have hlength := (askedAfter?_serve h).symm.trans (askedAfter?_serve hn)
      rw [List.length_append, Nat.add_eq_left, List.length_eq_zero_iff] at hlength
      rw [hlength, List.append_nil]

/-- **When an alerter was asked to stop decides how many messages of a stream it served.** -/
theorem serve_eq_of_prefix {ms ns all : List Message} (hm : ms <+: all) (hn : ns <+: all)
    (h : askedAfter? (a.serve b ms) = askedAfter? (a.serve b ns)) :
    a.serve b ms = a.serve b ns := by
  rcases List.prefix_or_prefix_of_prefix hm hn with ⟨rest, rfl⟩ | ⟨rest, rfl⟩
  · exact (serve_append_eq h.symm).symm
  · exact serve_append_eq h

end Alerter

/-! ## A run serves messages -/

/-- The messages that arrive before the alerter is asked to stop. -/
def accepted : Bool → List Arrival → List Message
  | true, _ => []
  | false, [] => []
  | false, .message m cancels :: rest => m :: accepted cancels rest
  | false, .ended cancels :: rest => accepted cancels rest
  | false, .failed cancels :: rest => accepted cancels rest

@[simp] theorem accepted_true (xs : List Arrival) : accepted true xs = [] := by
  cases xs <;> rfl

/-- The alerter is not asked to stop while it connects. -/
def Broker.Steady (b : Broker) : Prop := ∀ attempt ∈ b.attempts, attempt.cancels = false

theorem connectWithin_of_steady {attempts : List Attempt}
    (h : ∀ attempt ∈ attempts, attempt.cancels = false) :
    (connectWithin attempts).success = true ∧ (connectWithin attempts).cancelled = false ∧
      ∀ attempt ∈ (connectWithin attempts).attempts, attempt.cancels = false := by
  induction attempts with
  | nil => exact ⟨rfl, rfl, by simp [connectWithin]⟩
  | cons attempt rest ih =>
      obtain ⟨hfirst, hrest⟩ := List.forall_mem_cons.1 h
      rw [connectWithin]
      cases attempt.reply with
      | ok u => exact ⟨rfl, hfirst, hrest⟩
      | error fault =>
          rw [hfirst]
          exact ih hrest

namespace Session

/-- Calls that neither hand a message out nor acknowledge nor publish are no service. -/
theorem service_of_append {s t : Session M} {calls : List Call} (halerter : t.alerter = s.alerter)
    (hcalls : t.calls = s.calls ++ calls)
    (hidle : ∀ c ∈ calls, c.delivers = false ∧ c.isWork = false)
    (hfailure : t.failure = s.failure) : t.service = s.service := by
  have hdelivers : calls.countP Call.delivers = 0 :=
    List.countP_eq_zero.2 fun c hc => by simp [(hidle c hc).1]
  have hwork : calls.filter Call.isWork = [] :=
    List.filter_eq_nil_iff.2 fun c hc => by simp [(hidle c hc).2]
  rw [service, service, halerter, hcalls, hfailure, List.countP_append, hdelivers,
    List.filter_append, hwork, List.append_nil, Nat.add_zero]

/-- Getting ready is no service. -/
theorem Readies.service {s t : Session M} (h : s.Readies t) : t.service = s.service := by
  cases h with
  | done => rfl
  | waits => rfl
  | connects failed attempts hp hc hfailed =>
      refine service_of_append rfl rfl ?_ (by rw [failure, failure, hp])
      refine List.forall_mem_append.2 ⟨fun c hc => ?_, List.forall_mem_singleton.2 ⟨rfl, rfl⟩⟩
      obtain ⟨fault, rfl⟩ := hfailed c hc
      exact ⟨rfl, rfl⟩
  | stops connects attempts hp hconnects hnone =>
      refine service_of_append rfl rfl (fun c hc => ?_) (failure_of_not_stopped hp).symm
      obtain ⟨reply, rfl⟩ := hconnects c hc
      exact ⟨rfl, rfl⟩

/-- The end of a run is no service. -/
theorem service_finish (s : Session M) : s.finish.service = s.service := by
  rw [← s.readies_ready.service]
  rcases s.readies_ready.phase with hp | ⟨e, hp⟩
  · rw [finish_of_connected hp]
    refine service_of_append rfl (List.append_assoc ..) ?_ (by rw [failure, failure, hp])
    exact List.forall_mem_cons.2 ⟨⟨rfl, rfl⟩, List.forall_mem_singleton.2 ⟨rfl, rfl⟩⟩
  · rw [finish_of_stopped hp]
    exact service_of_append rfl rfl (List.forall_mem_singleton.2 ⟨rfl, rfl⟩) rfl

/-- If no attempt to connect cancels, an alerter goes on until it is asked to stop. -/
theorem ready_of_steady {s : Session M} (hs : s.broker.Steady) :
    s.ready.broker.Steady ∧ (s.cancelled = false → (∀ failure, s.phase ≠ .stopped failure) →
      s.ready.phase = .connected) := by
  obtain ⟨hsuccess, hcancelled, hattempts⟩ := connectWithin_of_steady hs
  cases hp : s.phase with
  | stopped failure =>
      rw [ready_of_stopped hp]
      exact ⟨hs, fun _ h => absurd rfl (h failure)⟩
  | connected =>
      cases hc : s.cancelled with
      | false =>
          rw [ready_of_connected hp hc]
          exact ⟨hs, fun _ _ => hp⟩
      | true =>
          rw [ready_of_cancelled (by simp [hp]) hc]
          exact ⟨hs, nofun⟩
  | unconnected =>
      cases hc : s.cancelled with
      | false =>
          rw [ready_of_unconnected hp hc rfl, hsuccess, hcancelled]
          exact ⟨hattempts, fun _ _ => rfl⟩
      | true =>
          rw [ready_of_cancelled (by simp [hp]) hc]
          exact ⟨hs, nofun⟩

variable [DecidableEq M]

/-- The rest of a run serves messages: those that it is handed out, up to some point; and if the
alerter is not asked to stop while it connects, up to the point at which it is asked otherwise. -/
structure Serves (s : Session M) (xs : List Arrival) (ms : List Message) : Prop where
  handedOut : ms <+: xs.filterMap Arrival.message?
  complete : (s.complete xs).map service =
    (s.alerter.serve s.broker ms).map (·.behind s.service.handled s.service.calls)
  steady : s.broker.Steady →
    s.alerter.serve s.broker ms = s.alerter.serve s.broker (accepted s.cancelled xs)

/-- Where a run is over, or comes to its end, no message is served. -/
theorem serves_nil {s : Session M} (hs : ∀ failure, s.phase ≠ .stopped failure) {xs : List Arrival}
    (hcomplete : s.complete xs = .ok s.finish)
    (hsteady : s.broker.Steady → accepted s.cancelled xs = []) : s.Serves xs [] where
  handedOut := List.nil_prefix
  complete := by
    rw [hcomplete, Except.map, service_finish]
    simp [Alerter.serve, Except.map, Service.behind, service, failure_of_not_stopped hs]
  steady h := by rw [hsteady h]

/-- Getting ready is no service. -/
theorem Serves.of_ready {s : Session M} (hp : s.ready.phase = .connected) {x : Arrival}
    {xs : List Arrival} {ms : List Message} (h : s.ready.Serves (x :: xs) ms) :
    s.Serves (x :: xs) ms where
  handedOut := h.handedOut
  complete := by
    have hready := s.readies_ready
    have hcomplete := h.complete
    rw [complete_ready hp, hready.alerter, Alerter.serve_congr hready.acks hready.publishes,
      hready.service] at hcomplete
    exact hcomplete
  steady hsteady := by
    have hready := s.readies_ready
    have hsame := h.steady (ready_of_steady hsteady).1
    obtain ⟨hbefore, hafter⟩ := hready.not_cancelled hp
    rw [hready.alerter, Alerter.serve_congr hready.acks hready.publishes,
      Alerter.serve_congr hready.acks hready.publishes, hafter] at hsame
    rw [hbefore]
    exact hsame

/-- Losing the connection is no service. -/
theorem Serves.lost {s : Session M} (hp : s.phase = .connected) (hc : s.cancelled = false)
    {x : Arrival} {d : Delivery} {cancels : Bool} (hx : x.message? = none)
    (hd : (Call.next d).delivers = false)
    (hreceive : s.receive x =
      .ok { s.record (.next d) with phase := .unconnected, cancelled := cancels })
    {xs : List Arrival} (haccepted : accepted false (x :: xs) = accepted cancels xs)
    {ms : List Message}
    (h : { s.record (.next d) with phase := .unconnected, cancelled := cancels }.Serves xs ms) :
    s.Serves (x :: xs) ms where
  handedOut := by
    rw [List.filterMap_cons_none hx]
    exact h.handedOut
  complete := by
    have hservice : { s.record (.next d) with
        phase := .unconnected, cancelled := cancels }.service = s.service :=
      service_of_append rfl rfl (List.forall_mem_singleton.2 ⟨hd, rfl⟩)
        (by rw [failure, failure, hp])
    rw [complete_of_connected hp hc, hreceive, ← hservice]
    exact h.complete
  steady hsteady := by
    rw [hc, haccepted]
    exact h.steady hsteady

/-- What a connected alerter does with a message is its service. -/
theorem receive_message {s : Session M} {m : Message} {h : Handled M}
    (hh : s.alerter.handle s.broker m = .ok h) (cancels : Bool) :
    ∃ t, s.receive (.message m cancels) = .ok t ∧ t.alerter = h.alerter ∧ t.broker = h.broker ∧
      t.phase = phaseAfter h.failure ∧ t.cancelled = cancels ∧
      t.service = (⟨h.alerter, 1, h.calls, t.failure⟩ : Service M).behind s.service.handled
        s.service.calls := by
  have hwork := Alerter.isWork_handle hh
  have hdelivers : h.calls.countP Call.delivers = 0 := by
    refine List.countP_eq_zero.2 fun c hc => ?_
    have hc := hwork c hc
    cases c with
    | next => cases hc
    | _ => exact Bool.false_ne_true
  refine ⟨_, by rw [receive, hh]; rfl, rfl, rfl, rfl, rfl, ?_⟩
  simp only [service, Service.behind, List.countP_append, List.countP_cons, hdelivers,
    List.filter_append, List.filter_cons, List.filter_eq_self.2 hwork]
  rfl

variable {s : Session M} {m : Message} {cancels : Bool} {xs : List Arrival}

/-- A message that cannot be handled ends the service. -/
theorem serves_of_error (hp : s.phase = .connected) (hc : s.cancelled = false) {e : Overrun}
    (hh : s.alerter.handle s.broker m = .error e) : s.Serves (.message m cancels :: xs) [m] where
  handedOut := List.cons_prefix_cons.2 ⟨rfl, List.nil_prefix⟩
  complete := by
    rw [complete_of_connected hp hc, receive, hh, Alerter.serve_cons_of_error hh]
    rfl
  steady _ := by
    rw [hc, accepted, Alerter.serve_cons_of_error hh, Alerter.serve_cons_of_error hh]

/-- A message that stops the alerter ends the service. -/
theorem serves_of_stopped (hp : s.phase = .connected) (hc : s.cancelled = false) {h : Handled M}
    (hh : s.alerter.handle s.broker m = .ok h) {failure : Option AlerterError}
    (hstopped : phaseAfter h.failure = .stopped failure) :
    s.Serves (.message m cancels :: xs) [m] where
  handedOut := List.cons_prefix_cons.2 ⟨rfl, List.nil_prefix⟩
  complete := by
    obtain ⟨t, ht, -, -, hphase, -, hservice⟩ := receive_message hh cancels
    rw [hstopped] at hphase
    have hover : t.ready.phase = .stopped failure := by rw [ready_of_stopped hphase, hphase]
    have hfailure : t.failure = failure := by rw [Session.failure, hphase]
    rw [complete_of_connected hp hc, ht, Alerter.serve_cons_of_stopped hh hstopped]
    simp only [bind, Except.bind, complete_of_stopped hover, Except.map, service_finish, hservice,
      hfailure]
  steady _ := by
    rw [hc, accepted, Alerter.serve_cons_of_stopped hh hstopped,
      Alerter.serve_cons_of_stopped hh hstopped]

/-- A message that lets the alerter go on is served before the others. -/
theorem Serves.cons (hp : s.phase = .connected) (hc : s.cancelled = false) {h : Handled M}
    (hh : s.alerter.handle s.broker m = .ok h)
    (hgoes : ∀ failure, phaseAfter h.failure ≠ .stopped failure) {t : Session M}
    (ht : s.receive (.message m cancels) = .ok t) {ms : List Message} (hms : t.Serves xs ms) :
    s.Serves (.message m cancels :: xs) (m :: ms) := by
  obtain ⟨t', ht', halerter, hbroker, -, hcancels, hservice⟩ := receive_message hh cancels
  obtain rfl : t' = t := Except.ok.inj (ht'.symm.trans ht)
  exact {
    handedOut := List.cons_prefix_cons.2 ⟨rfl, hms.handedOut⟩
    complete := by
      have hbehind : ∀ v : Service M, v.behind t'.service.handled t'.service.calls =
          (v.behind 1 h.calls).behind s.service.handled s.service.calls := by
        intro v
        rw [hservice]
        simp [Service.behind, Nat.add_assoc]
      rw [complete_of_connected hp hc, ht, Alerter.serve_cons_of_not_stopped hh hgoes, ← halerter,
        ← hbroker]
      refine hms.complete.trans ?_
      cases t'.alerter.serve t'.broker ms with
      | error e => rfl
      | ok v => exact congrArg Except.ok (hbehind v)
    steady := fun hsteady => by
      have hsteady' : t'.broker.Steady := by
        rw [Broker.Steady, hbroker, Alerter.attempts_handle hh]
        exact hsteady
      have hsame := hms.steady hsteady'
      rw [halerter, hbroker, hcancels] at hsame
      rw [hc, accepted, Alerter.serve_cons_of_not_stopped hh hgoes,
        Alerter.serve_cons_of_not_stopped hh hgoes, hsame] }

/-- **The rest of a run serves messages.** -/
theorem exists_serves (xs : List Arrival) (hs : ∀ failure, s.phase ≠ .stopped failure) :
    ∃ ms, s.Serves xs ms := by
  induction xs generalizing s with
  | nil => exact ⟨[], serves_nil hs rfl fun _ => by cases s.cancelled <;> rfl⟩
  | cons x xs ih =>
      rcases s.readies_ready.phase with hp | ⟨failure, hp⟩
      · have hc := (s.readies_ready.not_cancelled hp).2
        suffices h : ∃ ms, s.ready.Serves (x :: xs) ms from h.imp fun ms hms => hms.of_ready hp
        cases x with
        | ended cancels =>
            obtain ⟨ms, hms⟩ := ih (s := { s.ready.record (.next .ended) with
              phase := .unconnected, cancelled := cancels }) nofun
            exact ⟨ms, hms.lost hp hc rfl rfl rfl rfl⟩
        | failed cancels =>
            obtain ⟨ms, hms⟩ := ih (s := { s.ready.record (.next .failed) with
              phase := .unconnected, cancelled := cancels }) nofun
            exact ⟨ms, hms.lost hp hc rfl rfl rfl rfl⟩
        | message m cancels =>
            rcases s.ready.alerter.handle_outcomes s.ready.broker m with
              ⟨e, hh⟩ | ⟨h, e, hh, hstopped⟩ | ⟨h, hh, hgoes⟩
            · exact ⟨[m], serves_of_error hp hc hh⟩
            · exact ⟨[m], serves_of_stopped hp hc hh hstopped⟩
            · obtain ⟨t, ht, -, -, hphase, -, -⟩ := receive_message hh cancels
              obtain ⟨ms, hms⟩ := ih (s := t) (by rw [hphase]; exact hgoes)
              exact ⟨m :: ms, hms.cons hp hc hh hgoes ht⟩
      · refine ⟨[], serves_nil hs (complete_of_stopped hp _) fun hsteady => ?_⟩
        cases hc : s.cancelled with
        | true => rfl
        | false =>
            have hconnected := (ready_of_steady hsteady).2 hc hs
            rw [hp] at hconnected
            cases hconnected

end Session

variable [DecidableEq M]

/-- **A run serves messages.** -/
theorem Alerter.run_eq_serve (a : Alerter M) (b : Broker) (cancelled : Bool) (xs : List Arrival) :
    ∃ ms, ms <+: xs.filterMap Arrival.message? ∧
      (a.run b cancelled xs).map Session.service = a.serve b ms ∧
      (b.Steady → a.serve b ms = a.serve b (accepted cancelled xs)) := by
  obtain ⟨ms, hms⟩ := Session.exists_serves xs (s := .start a b cancelled) nofun
  refine ⟨ms, hms.handedOut, hms.complete.trans ?_, hms.steady⟩
  have hstart : ∀ v : Service M, v.behind (Session.start a b cancelled).service.handled
      (Session.start a b cancelled).service.calls = v := by
    intro v
    simp [Service.behind, Session.service, Session.start]
  change (a.serve b ms).map _ = a.serve b ms
  cases a.serve b ms with
  | error e => rfl
  | ok v => exact congrArg Except.ok (hstart v)

/-- Interruptions bring no message. -/
theorem Interrupts.accepted_eq {xs ys : List Arrival} (h : Interrupts xs ys) (asked : Bool) :
    accepted asked ys = accepted asked xs := by
  induction h generalizing asked with
  | nil => rfl
  | keep x h ih =>
      cases asked with
      | true => rfl
      | false =>
          cases x with
          | message m cancels => exact congrArg (m :: ·) (ih cancels)
          | ended cancels => exact ih cancels
          | failed cancels => exact ih cancels
  | ended h ih =>
      cases asked with
      | true => simp only [accepted_true]
      | false => exact ih false
  | failed h ih =>
      cases asked with
      | true => simp only [accepted_true]
      | false => exact ih false

/-- **Reconnections are transparent.**  Compare two runs of an alerter with the same replies to
acknowledgements and published messages, and any replies to connecting and to closing.

* If the same messages arrive, with any interruptions in either run, and the alerter is asked to
  stop after the same number of messages, if at all, then it does the same in both runs: the same
  acknowledgements, alerts and heartbeats, and the same configurations, state and outbox at the end.
* So it does if the second run is the first one with more interruptions and more attempts to
  connect, and the alerter is not asked to stop while it connects. -/
theorem reconnections_are_transparent (a : Alerter M) (b : Broker) (attempts : List Attempt)
    (disconnects : List Reply) :
    (∀ (cancelled cancelled' : Bool) (xs ys : List Arrival),
      xs.filterMap Arrival.message? = ys.filterMap Arrival.message? →
      askedAfter? ((a.run b cancelled xs).map Session.service) =
        askedAfter? ((a.run (b.relink attempts disconnects) cancelled' ys).map Session.service) →
      (a.run b cancelled xs).map Session.service =
        (a.run (b.relink attempts disconnects) cancelled' ys).map Session.service) ∧
    (b.Steady → (b.relink attempts disconnects).Steady →
      ∀ (cancelled : Bool) (xs ys : List Arrival), Interrupts xs ys →
        (a.run b cancelled xs).map Session.service =
          (a.run (b.relink attempts disconnects) cancelled ys).map Session.service) := by
  constructor
  · intro cancelled cancelled' xs ys hmessages hasked
    obtain ⟨ms, hms, hrun, -⟩ := a.run_eq_serve b cancelled xs
    obtain ⟨ns, hns, hrun', -⟩ := a.run_eq_serve (b.relink attempts disconnects) cancelled' ys
    rw [Alerter.serve_relink] at hrun'
    rw [hrun, hrun'] at hasked ⊢
    rw [← hmessages] at hns
    exact Alerter.serve_eq_of_prefix hms hns hasked
  · intro hsteady hsteady' cancelled xs ys h
    obtain ⟨ms, -, hrun, hms⟩ := a.run_eq_serve b cancelled xs
    obtain ⟨ns, -, hrun', hns⟩ := a.run_eq_serve (b.relink attempts disconnects) cancelled ys
    rw [hrun, hrun', hms hsteady, hns hsteady', h.accepted_eq, Alerter.serve_relink]

/-- A broker that does not deliver the first alert. -/
def reluctant : Broker := .rejecting 1

/-- Two values of a node, with no interruption. -/
def quiet : List Arrival :=
  [.message Sample.configuration false, .message (Sample.measurement 8 1) false,
    .message (Sample.measurement 5 2) false]

/-- The same values, with interruptions before each of them. -/
def disturbed : List Arrival :=
  [.ended, .failed, .message Sample.configuration false, .failed,
    .message (Sample.measurement 8 1) false, .ended, .ended,
    .message (Sample.measurement 5 2) false]

/-- Attempts to connect that fail at first. -/
def failing : List Attempt :=
  [⟨.error .transport, false⟩, ⟨.error .notConnected, false⟩, ⟨.ok (), false⟩,
    ⟨.error .transport, false⟩]

/-- Attempts to connect of which the last one, after the last value, is given up. -/
def abandoned : List Attempt :=
  List.replicate 6 ⟨.ok (), false⟩ ++ [⟨.error .transport, true⟩]

/-- The alerter handles the three messages alike over one connection and over six, also if it is
asked to stop only when it has lost the last connection. -/
theorem reconnections_are_transparent_disturbed :
    ∃ s, ((Alerter.new Sample.family (Sample.settings 3)).run reluctant false quiet).map
        Session.service = .ok s ∧ s.handled = 3 ∧ s.calls.length = 9 ∧
      ((Alerter.new Sample.family (Sample.settings 3)).run (reluctant.relink failing []) false
        disturbed).map Session.service = .ok s ∧
      ((Alerter.new Sample.family (Sample.settings 3)).run (reluctant.relink abandoned []) false
        (disturbed ++ [.ended])).map Session.service = .ok s := by
  have hrun : (((Alerter.new Sample.family (Sample.settings 3)).run reluctant false quiet).map
      Session.service).map (fun s => (s.handled, s.calls.length)) = .ok (3, 9) := by
    decide +kernel
  have hasked : askedAfter? (((Alerter.new Sample.family (Sample.settings 3)).run reluctant false
      quiet).map Session.service) =
      askedAfter? (((Alerter.new Sample.family (Sample.settings 3)).run
        (reluctant.relink abandoned []) false (disturbed ++ [.ended])).map Session.service) := by
    decide +kernel
  have hinterrupts : Interrupts quiet disturbed :=
    .ended <| .failed <| .keep _ <| .failed <| .keep _ <| .ended <| .ended <| .keep _ .nil
  obtain ⟨s, hs, hpair⟩ := exists_of_map_eq_ok hrun
  obtain ⟨hhandled, hlength⟩ := Prod.mk.inj hpair
  refine ⟨s, hs, hhandled, hlength, ?_, ?_⟩
  · rw [← hs]
    exact ((reconnections_are_transparent _ reluctant failing []).2
      (by simp [Broker.Steady, reluctant, Broker.rejecting, Broker.agreeing])
      (by simp [Broker.Steady, Broker.relink, failing]) false quiet disturbed hinterrupts).symm
  · rw [← hs]
    exact ((reconnections_are_transparent _ reluctant abandoned []).1 false false quiet
      (disturbed ++ [.ended]) rfl hasked).symm

end NodeAlerts
