import NodeAlerts.Proofs.Delivery

/-!
# How a run goes on

The facts about one step of a run on which the protocol with the broker and the comparison of runs
rest.

* A message is handled until a call has an error, so that only the last call has one, and handling
  makes no other calls than to acknowledge and to publish (`Alerter.ends_handle`,
  `Alerter.isWork_handle`).
* Getting ready leaves a stopped alerter alone, stops one that is asked to stop, and connects the
  others (`Session.readies_ready`); then a message is waited for, or the run is over
  (`Session.step_of_connected`, `Session.step_of_stopped`).
-/

namespace NodeAlerts

/-! ## Calls -/

namespace Call

/-- The error of a call that stops a run: a message could not be published, for another reason than
that it could not be delivered. -/
def fatal? : Call → Option AlerterError
  | .publish _ _ _ reply => publishFailure reply
  | _ => none

/-- The error of a call that ends the handling of a message. -/
def failure? : Call → Option AlerterError
  | .ack _ (.error fault) => some (.acknowledge fault)
  | c => c.fatal?

/-- Whether a call acknowledges or publishes. -/
def isWork : Call → Bool
  | .ack _ _ => true
  | .publish _ _ _ _ => true
  | _ => false

theorem fatal?_of_failure?_eq_none {c : Call} (h : c.failure? = none) : c.fatal? = none := by
  cases c with
  | ack tag reply => rfl
  | _ => exact h

/-- An error that ends the handling of a message reconnects or stops the run. -/
theorem failure?_cases {c : Call} {e : AlerterError} (h : c.failure? = some e) :
    (∃ fault, e = .acknowledge fault ∧ c.fatal? = none) ∨
    ((∃ fault, e = .publish fault) ∧ c.fatal? = some e) := by
  cases c with
  | ack tag reply =>
      cases reply with
      | ok u => cases h
      | error fault => cases h; exact Or.inl ⟨fault, rfl, rfl⟩
  | publish exchange routingKey content reply =>
      refine Or.inr ⟨?_, h⟩
      cases reply with
      | ok u => cases h
      | error fault => cases fault <;> cases h <;> exact ⟨_, rfl⟩
  | _ => cases h

end Call

/-- The calls end at the first one that has an error, and nothing else ends them badly. -/
inductive Ends (error? : Call → Option AlerterError) : List Call → Option AlerterError → Prop where
  /-- No call has an error. -/
  | well {calls : List Call} (h : ∀ c ∈ calls, error? c = none) : Ends error? calls none
  /-- The last call has an error. -/
  | badly (calls : List Call) {c : Call} {e : AlerterError} (h : ∀ d ∈ calls, error? d = none)
      (hc : error? c = some e) : Ends error? (calls ++ [c]) (some e)

namespace Ends

variable {error? : Call → Option AlerterError} {xs ys : List Call} {e : Option AlerterError}

theorem single {c : Call} (h : error? c = e) : Ends error? [c] e := by
  cases e with
  | none => exact .well (by simpa using h)
  | some e => exact .badly [] nofun h

theorem append (hx : ∀ c ∈ xs, error? c = none) (hy : Ends error? ys e) :
    Ends error? (xs ++ ys) e := by
  cases hy with
  | well hy => exact .well fun c hc => (List.mem_append.1 hc).elim (hx c) (hy c)
  | badly _ hy hc =>
      rw [← List.append_assoc]
      exact .badly _ (fun c hc => (List.mem_append.1 hc).elim (hx c) (hy c)) hc

theorem of_none (h : Ends error? xs none) : ∀ c ∈ xs, error? c = none := by
  cases h with
  | well h => exact h

/-- The calls before another one have no error. -/
theorem of_split {earlier later : List Call} {c : Call}
    (h : Ends error? (earlier ++ c :: later) e) : ∀ d ∈ earlier, error? d = none := by
  generalize hcalls : earlier ++ c :: later = calls at h
  cases h with
  | well h =>
      rw [← hcalls] at h
      exact (List.forall_mem_append.1 h).1
  | badly _ h hc =>
      have hlast := congrArg List.dropLast hcalls
      rw [List.dropLast_append_cons, List.dropLast_concat] at hlast
      rw [← hlast] at h
      exact (List.forall_mem_append.1 h).1

/-- An error comes last. -/
theorem eq_nil_of_split {earlier later : List Call} {c : Call}
    (h : Ends error? (earlier ++ c :: later) e) (hc : error? c ≠ none) : later = [] := by
  cases later with
  | nil => rfl
  | cons d later =>
      rw [List.append_cons] at h
      exact absurd (h.of_split c (List.mem_append_right _ (List.mem_singleton_self c))) hc

theorem eq_some_iff (h : Ends error? xs e) {e' : AlerterError} :
    e = some e' ↔ ∃ c ∈ xs, error? c = some e' := by
  cases h with
  | well h => exact ⟨nofun, fun ⟨c, hc, he⟩ => nomatch (h c hc).symm.trans he⟩
  | badly _ h hc =>
      constructor
      · intro he
        exact ⟨_, List.mem_append_right _ (List.mem_singleton_self _), hc.trans he⟩
      · rintro ⟨d, hd, he⟩
        rcases List.mem_append.1 hd with hd | hd
        · cases (h d hd).symm.trans he
        · rw [← he, List.mem_singleton.1 hd, hc]

end Ends

/-! ## Handling a message -/

namespace Alerter

variable {M : Type}

theorem ends_publishAlerts (exchange routingKey : String) (items : List Record) (b : Broker) :
    Ends Call.failure? (publishAlerts exchange routingKey items b).calls
      (publishAlerts exchange routingKey items b).failure := by
  induction items generalizing b with
  | nil => exact .well (by simp [publishAlerts])
  | cons alert rest ih =>
      cases hb : b.publish with
      | mk reply b' =>
          cases reply with
          | ok u =>
              rw [publishAlerts_cons_ok hb]
              exact Ends.append (List.forall_mem_singleton.2 rfl) (ih b')
          | error fault =>
              rw [publishAlerts_cons_error hb]
              exact .single rfl

theorem ends_report (a : Alerter M) (b : Broker) (healthy : Bool) :
    Ends Call.failure? (a.report b healthy).calls (a.report b healthy).failure := by
  have hflush := ends_publishAlerts a.alertExchange a.routing.alertKey a.outbox.items b
  rw [report]
  split
  · rename_i h
    rw [Bool.and_eq_true, Option.isNone_iff_eq_none] at h
    rw [flush] at h
    rw [h.1] at hflush
    exact Ends.append hflush.of_none (.single rfl)
  · exact hflush

theorem ends_acknowledge (a : Alerter M) (b : Broker) (tag : Nat) :
    Ends Call.failure? (a.acknowledge b tag).calls (a.acknowledge b tag).failure := by
  have hfailure : (a.acknowledge b tag).failure = (Call.ack tag b.ack.1).failure? := by
    simp only [acknowledge]
    cases b.ack.1 <;> rfl
  rw [hfailure]
  exact .single rfl

theorem ends_settle (a : Alerter M) (b : Broker) (tag : Nat) (healthy : Bool) :
    Ends Call.failure? (a.settle b tag healthy).calls (a.settle b tag healthy).failure := by
  have hack := ends_acknowledge a b tag
  cases hf : (a.acknowledge b tag).failure with
  | some e =>
      rw [settle_of_some hf]
      exact hack
  | none =>
      rw [hf] at hack
      rw [settle_of_none hf]
      exact Ends.append hack.of_none (ends_report a _ healthy)

theorem isWork_publishAlerts (exchange routingKey : String) (items : List Record) (b : Broker) :
    ∀ c ∈ (publishAlerts exchange routingKey items b).calls, c.isWork = true := by
  induction items generalizing b with
  | nil => simp [publishAlerts]
  | cons alert rest ih =>
      cases hb : b.publish with
      | mk reply b' =>
          cases reply with
          | ok u =>
              rw [publishAlerts_cons_ok hb]
              exact List.forall_mem_cons.2 ⟨rfl, ih b'⟩
          | error fault =>
              rw [publishAlerts_cons_error hb]
              exact List.forall_mem_singleton.2 rfl

theorem isWork_report (a : Alerter M) (b : Broker) (healthy : Bool) :
    ∀ c ∈ (a.report b healthy).calls, c.isWork = true := by
  have hflush := isWork_publishAlerts a.alertExchange a.routing.alertKey a.outbox.items b
  rw [report]
  split
  · exact List.forall_mem_append.2 ⟨hflush, List.forall_mem_singleton.2 rfl⟩
  · exact hflush

theorem isWork_settle (a : Alerter M) (b : Broker) (tag : Nat) (healthy : Bool) :
    ∀ c ∈ (a.settle b tag healthy).calls, c.isWork = true := by
  have hack : ∀ c ∈ (a.acknowledge b tag).calls, c.isWork = true :=
    List.forall_mem_singleton.2 rfl
  cases hf : (a.acknowledge b tag).failure with
  | some e =>
      rw [settle_of_some hf]
      exact hack
  | none =>
      rw [settle_of_none hf]
      exact List.forall_mem_append.2 ⟨hack, isWork_report a _ healthy⟩

variable [DecidableEq M] {a : Alerter M} {b : Broker} {m : Message} {h : Handled M}

/-- **A message is handled until a call has an error.** -/
theorem ends_handle (hh : a.handle b m = .ok h) : Ends Call.failure? h.calls h.failure := by
  rcases handle_cases hh with ⟨-, hd⟩ | ⟨name, -, rfl⟩ | ⟨-, rfl⟩
  · obtain ⟨p, -, rfl⟩ := handleData_eq_ok hd
    exact ends_settle _ b m.tag _
  · exact ends_acknowledge _ b m.tag
  · exact ends_acknowledge a b m.tag

/-- Handling a message acknowledges and publishes. -/
theorem isWork_handle (hh : a.handle b m = .ok h) : ∀ c ∈ h.calls, c.isWork = true := by
  rcases handle_cases hh with ⟨-, hd⟩ | ⟨name, -, rfl⟩ | ⟨-, rfl⟩
  · obtain ⟨p, -, rfl⟩ := handleData_eq_ok hd
    exact isWork_settle _ b m.tag _
  · exact List.forall_mem_singleton.2 rfl
  · exact List.forall_mem_singleton.2 rfl

end Alerter

/-! ## Connecting -/

/-- Attempts to connect fail until one succeeds or the alerter is asked to stop. -/
theorem connectWithin_cases (attempts : List Attempt) :
    ∃ failed rest, (∀ c ∈ failed, ∃ fault, c = Call.connect (.error fault)) ∧
      ((∃ cancels,
          connectWithin attempts = ⟨rest, cancels, failed ++ [.connect (.ok ())], true⟩) ∨
        connectWithin attempts = ⟨rest, true, failed, false⟩) := by
  induction attempts with
  | nil => exact ⟨[], [], by simp, Or.inl ⟨false, rfl⟩⟩
  | cons attempt later ih =>
      rw [connectWithin]
      cases attempt.reply with
      | ok u => exact ⟨[], later, by simp, Or.inl ⟨attempt.cancels, rfl⟩⟩
      | error fault =>
          cases attempt.cancels with
          | true => exact ⟨[.connect (.error fault)], later, by simp, Or.inr rfl⟩
          | false =>
              obtain ⟨failed, rest, hfailed, hlater⟩ := ih
              refine ⟨.connect (.error fault) :: failed, rest,
                List.forall_mem_cons.2 ⟨⟨fault, rfl⟩, hfailed⟩, ?_⟩
              rcases hlater with ⟨cancels, hlater⟩ | hlater
              · exact Or.inl ⟨cancels, by rw [hlater]; rfl⟩
              · exact Or.inr (by rw [hlater]; rfl)

namespace Session

variable {M : Type}

theorem failure_of_not_stopped {s : Session M} (h : ∀ failure, s.phase ≠ .stopped failure) :
    s.failure = none := by
  rw [failure]
  cases hp : s.phase with
  | stopped failure => exact absurd hp (h failure)
  | _ => rfl

/-- What getting ready can make of a session. -/
inductive Readies (s : Session M) : Session M → Prop where
  /-- The run is over. -/
  | done {failure : Option AlerterError} (h : s.phase = .stopped failure) : Readies s s
  /-- The alerter is connected and not asked to stop. -/
  | waits (h : s.phase = .connected) (hc : s.cancelled = false) : Readies s s
  /-- The alerter connects. -/
  | connects (failed : List Call) (attempts : List Attempt) (h : s.phase = .unconnected)
      (hc : s.cancelled = false) (hfailed : ∀ c ∈ failed, ∃ fault, c = .connect (.error fault)) :
      Readies s
        { s with
          broker := { s.broker with attempts }
          phase := .connected
          cancelled := false
          calls := s.calls ++ (failed ++ [.connect (.ok ())]) }
  /-- The alerter is asked to stop, before it connects or meanwhile. -/
  | stops (connects : List Call) (attempts : List Attempt)
      (h : ∀ failure, s.phase ≠ .stopped failure)
      (hconnects : ∀ c ∈ connects, ∃ reply, c = .connect reply)
      (hnone : s.cancelled = true → connects = []) :
      Readies s
        { s with
          broker := { s.broker with attempts }
          phase := .stopped none
          cancelled := true
          calls := s.calls ++ connects }

theorem ready_of_stopped {s : Session M} {failure : Option AlerterError}
    (h : s.phase = .stopped failure) : s.ready = s := by
  rw [ready, h]

theorem ready_of_cancelled {s : Session M} (h : ∀ failure, s.phase ≠ .stopped failure)
    (hc : s.cancelled = true) : s.ready = { s with phase := .stopped none } := by
  rw [ready]
  cases hp : s.phase with
  | stopped failure => exact absurd hp (h failure)
  | connected => exact if_pos hc
  | unconnected => exact if_pos hc

theorem ready_of_connected {s : Session M} (h : s.phase = .connected) (hc : s.cancelled = false) :
    s.ready = s := by
  rw [ready, h, hc]
  rfl

theorem ready_of_unconnected {s : Session M} (h : s.phase = .unconnected)
    (hc : s.cancelled = false) {c : Connecting} (hconnect : connectWithin s.broker.attempts = c) :
    s.ready =
      { s with
        broker := { s.broker with attempts := c.attempts }
        phase := if c.success && !c.cancelled then .connected else .stopped none
        cancelled := c.cancelled
        calls := s.calls ++ c.calls } := by
  rw [ready, h, hc, hconnect]
  rfl

/-- **Getting ready.** -/
theorem readies_ready (s : Session M) : s.Readies s.ready := by
  by_cases hover : ∃ failure, s.phase = .stopped failure
  · obtain ⟨failure, hp⟩ := hover
    rw [ready_of_stopped hp]
    exact .done hp
  have hnot : ∀ failure, s.phase ≠ .stopped failure := not_exists.1 hover
  cases hc : s.cancelled with
  | true =>
      have hstops := Readies.stops [] s.broker.attempts hnot (by simp) fun _ => rfl
      rw [ready_of_cancelled hnot hc]
      simpa only [List.append_nil, ← hc] using hstops
  | false =>
      cases hp : s.phase with
      | stopped failure => exact absurd hp (hnot failure)
      | connected =>
          rw [ready_of_connected hp hc]
          exact .waits hp hc
      | unconnected =>
          obtain ⟨failed, rest, hfailed, hcases⟩ := connectWithin_cases s.broker.attempts
          have hconnects : ∀ c ∈ failed, ∃ reply, c = Call.connect reply := by
            intro c hc
            obtain ⟨fault, rfl⟩ := hfailed c hc
            exact ⟨.error fault, rfl⟩
          rcases hcases with ⟨cancels, hconnect⟩ | hconnect
          · rw [ready_of_unconnected hp hc hconnect]
            cases cancels with
            | false => exact .connects failed rest hp hc hfailed
            | true =>
                exact .stops _ rest hnot
                  (List.forall_mem_append.2 ⟨hconnects, List.forall_mem_singleton.2 ⟨.ok (), rfl⟩⟩)
                  (by simp [hc])
          · rw [ready_of_unconnected hp hc hconnect]
            exact .stops _ rest hnot hconnects (by simp [hc])

namespace Readies

variable {s t : Session M}

theorem phase (h : s.Readies t) :
    t.phase = .connected ∨ ∃ failure, t.phase = .stopped failure := by
  cases h with
  | done h => exact Or.inr ⟨_, h⟩
  | waits h => exact Or.inl h
  | connects => exact Or.inl rfl
  | stops => exact Or.inr ⟨none, rfl⟩

/-- An alerter that is asked to stop waits for no message. -/
theorem stopped_of_cancelled (h : s.Readies t) (hc : t.cancelled = true) :
    ∃ failure, t.phase = .stopped failure := by
  cases h with
  | done h => exact ⟨_, h⟩
  | waits h hn => rw [hn] at hc; cases hc
  | connects => cases hc
  | stops => exact ⟨none, rfl⟩

/-- An alerter that was asked to stop before connects no more. -/
theorem of_cancelled (h : s.Readies t) (hc : s.cancelled = true) :
    t.cancelled = true ∧ t.calls = s.calls := by
  cases h with
  | done => exact ⟨hc, rfl⟩
  | waits => exact ⟨hc, rfl⟩
  | connects failed attempts h hn => rw [hn] at hc; cases hc
  | stops connects attempts h hconnects hnone => exact ⟨rfl, by rw [hnone hc, List.append_nil]⟩

/-- An alerter that waits for a message is not asked to stop. -/
theorem not_cancelled (h : s.Readies t) (hp : t.phase = .connected) :
    s.cancelled = false ∧ t.cancelled = false := by
  cases h with
  | done h => rw [hp] at h; cases h
  | waits h hc => exact ⟨hc, hc⟩
  | connects failed attempts h hc => exact ⟨hc, rfl⟩
  | stops => cases hp

theorem prefix_calls (h : s.Readies t) : s.calls <+: t.calls := by
  cases h with
  | done => exact List.prefix_rfl
  | waits => exact List.prefix_rfl
  | connects => exact List.prefix_append ..
  | stops => exact List.prefix_append ..

theorem alerter (h : s.Readies t) : t.alerter = s.alerter := by
  cases h <;> rfl

theorem acks (h : s.Readies t) : t.broker.acks = s.broker.acks := by
  cases h <;> rfl

theorem publishes (h : s.Readies t) : t.broker.publishes = s.broker.publishes := by
  cases h <;> rfl

end Readies

/-! ## The end of a run -/

theorem finish_of_stopped {s : Session M} {failure : Option AlerterError}
    (h : s.ready.phase = .stopped failure) :
    s.finish =
      { s.ready.record (.disconnect s.ready.broker.disconnect.1) with
        broker := s.ready.broker.disconnect.2 } := by
  rw [finish, h]

theorem finish_of_connected {s : Session M} (h : s.ready.phase = .connected) :
    s.finish =
      { (s.ready.record (.next .cancelled)).record (.disconnect s.ready.broker.disconnect.1) with
        broker := s.ready.broker.disconnect.2, phase := .stopped none, cancelled := true } := by
  rw [finish, h]
  rfl

/-! ## One arrival, and many -/

variable [DecidableEq M]

theorem step_of_connected {s : Session M} (h : s.ready.phase = .connected) (x : Arrival) :
    s.step x = s.ready.receive x := by
  rw [step, h]

theorem step_of_stopped {s : Session M} {failure : Option AlerterError}
    (h : s.ready.phase = .stopped failure) (x : Arrival) : s.step x = .ok s.ready := by
  rw [step, h]

/-- The rest of a run. -/
def complete (s : Session M) (arrivals : List Arrival) : Except Overrun (Session M) := do
  let s ← arrivals.foldlM step s
  return s.finish

theorem complete_cons (s : Session M) (x : Arrival) (xs : List Arrival) :
    s.complete (x :: xs) = s.step x >>= fun t => t.complete xs := by
  rw [complete, List.foldlM_cons, bind_assoc]
  rfl

/-- What a connected alerter does at an arrival comes first. -/
theorem complete_of_connected {s : Session M} (hp : s.phase = .connected)
    (hc : s.cancelled = false) (x : Arrival) (xs : List Arrival) :
    s.complete (x :: xs) = s.receive x >>= fun t => t.complete xs := by
  have hready := ready_of_connected hp hc
  rw [complete_cons, step_of_connected (by rw [hready]; exact hp), hready]

/-- An alerter that is connected once it is ready goes on as if it had been so before. -/
theorem complete_ready {s : Session M} (hp : s.ready.phase = .connected) (x : Arrival)
    (xs : List Arrival) : s.ready.complete (x :: xs) = s.complete (x :: xs) := by
  rw [complete_of_connected hp (s.readies_ready.not_cancelled hp).2, complete_cons,
    step_of_connected hp]

theorem complete_append {s t : Session M} {xs : List Arrival} (h : xs.foldlM step s = .ok t)
    (ys : List Arrival) : s.complete (xs ++ ys) = t.complete ys := by
  rw [complete, List.foldlM_append, h]
  rfl

/-- Nothing happens any more once an alerter stopped. -/
theorem complete_of_stopped {s : Session M} {failure : Option AlerterError}
    (h : s.ready.phase = .stopped failure) (xs : List Arrival) :
    s.complete xs = .ok s.finish := by
  have hstopped : ∀ (xs : List Arrival) (t : Session M), t.phase = .stopped failure →
      t.complete xs = .ok t.finish := by
    intro xs
    induction xs with
    | nil => intro t _; rfl
    | cons x xs ih =>
        intro t ht
        have hready := ready_of_stopped ht
        rw [complete_cons, step_of_stopped (by rw [hready]; exact ht), hready]
        exact ih t ht
  cases xs with
  | nil => rfl
  | cons x xs =>
      rw [complete_cons, step_of_stopped h]
      have hfinish : s.ready.finish = s.finish := by
        rw [finish, ready_of_stopped h, finish]
      rw [← hfinish]
      exact hstopped xs s.ready h

/-- An alerter that finds that it is asked to stop only closes the connection. -/
theorem complete_of_cancelled {s t : Session M} (hc : s.ready.cancelled = true)
    {xs : List Arrival} (h : s.complete xs = .ok t) :
    t.alerter = s.alerter ∧ ∃ reply, t.calls = s.ready.calls ++ [.disconnect reply] := by
  obtain ⟨failure, hstopped⟩ := s.readies_ready.stopped_of_cancelled hc
  rw [complete_of_stopped hstopped, finish_of_stopped hstopped] at h
  cases h
  exact ⟨s.readies_ready.alerter, _, rfl⟩

theorem prefix_calls_receive {s t : Session M} {x : Arrival} (h : s.receive x = .ok t) :
    s.calls <+: t.calls := by
  cases x with
  | ended cancels => cases h; exact List.prefix_append ..
  | failed cancels => cases h; exact List.prefix_append ..
  | message m cancels =>
      obtain ⟨handled, -, ht⟩ := exists_of_bind_eq_ok h
      cases ht
      exact List.prefix_append ..

theorem prefix_calls_step {s t : Session M} {x : Arrival} (h : s.step x = .ok t) :
    s.calls <+: t.calls := by
  have hready := s.readies_ready.prefix_calls
  rcases s.readies_ready.phase with hp | ⟨failure, hp⟩
  · rw [step_of_connected hp] at h
    exact hready.trans (prefix_calls_receive h)
  · rw [step_of_stopped hp] at h
    cases h
    exact hready

omit [DecidableEq M] in
theorem prefix_calls_finish (s : Session M) : s.ready.calls <+: s.finish.calls := by
  rcases s.readies_ready.phase with hp | ⟨failure, hp⟩
  · rw [finish_of_connected hp]
    exact (List.prefix_append ..).trans (List.prefix_append ..)
  · rw [finish_of_stopped hp]
    exact List.prefix_append ..

/-- A call that was made stays made. -/
theorem prefix_calls_complete {s t : Session M} {xs : List Arrival} (h : s.complete xs = .ok t) :
    s.calls <+: t.calls := by
  obtain ⟨u, hu, ht⟩ := exists_of_bind_eq_ok h
  cases ht
  have hcalls : s.calls <+: u.calls :=
    foldlM_induction (P := fun u => s.calls <+: u.calls)
      (fun _ _ _ hprefix hstep => hprefix.trans (prefix_calls_step hstep)) xs s u
      List.prefix_rfl hu
  exact hcalls.trans (u.readies_ready.prefix_calls.trans u.prefix_calls_finish)

/-- A message is handled to its end, and it is the last one if the alerter is asked to stop
meanwhile. -/
theorem complete_message {s t : Session M} (hp : s.ready.phase = .connected) {m : Message}
    {cancels : Bool} {xs : List Arrival}
    (h : s.complete (.message m cancels :: xs) = .ok t) :
    ∃ handled rest, s.alerter.handle s.ready.broker m = .ok handled ∧
      t.calls = s.ready.calls ++ .next (.message m.tag) :: (handled.calls ++ rest) ∧
      (cancels = true → t.alerter = handled.alerter ∧ ∃ reply, rest = [.disconnect reply]) := by
  rw [complete_cons, step_of_connected hp] at h
  obtain ⟨u, hu, h⟩ := exists_of_bind_eq_ok h
  obtain ⟨handled, hh, hu⟩ := exists_of_bind_eq_ok hu
  rw [s.readies_ready.alerter] at hh
  obtain ⟨rest, hcalls⟩ := prefix_calls_complete h
  cases hu
  refine ⟨handled, rest, hh, by rw [← hcalls]; simp, fun hc => ?_⟩
  obtain ⟨hasked, hsame⟩ := (readies_ready ⟨_, _, _, cancels, _⟩).of_cancelled hc
  obtain ⟨halerter, reply, hlast⟩ := complete_of_cancelled hasked h
  rw [hsame, ← hcalls] at hlast
  exact ⟨halerter, reply, List.append_cancel_left hlast⟩

end Session

/-- A run up to the end of some arrivals, before which it looks whether it is asked to stop. -/
def Alerter.upTo {M : Type} [DecidableEq M] (a : Alerter M) (b : Broker) (cancelled : Bool)
    (arrivals : List Arrival) : Except Overrun (Session M) :=
  arrivals.foldlM Session.step (.start a b cancelled)

end NodeAlerts
