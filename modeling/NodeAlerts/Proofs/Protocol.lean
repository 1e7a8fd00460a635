import Mathlib.Data.List.Basic
import NodeAlerts.Proofs.Session

/-!
# The protocol with the broker

What the calls of a run look like, and how they end.  `Session.Conforms` is what holds of a run up
to any point: every call that needs a connection has one, and only an error that stops the run may
be followed by nothing else.  Getting ready and every arrival keep it (`Conforms.ready`,
`Conforms.receive`), so every run has it (`Alerter.conforms_upTo`), and with the calls at the very
end it gives the protocol of a whole run (`run_keeps_protocol`).
-/

namespace NodeAlerts

namespace Call

/-- Whether a call is made over a connection. -/
def needsConnection : Call → Bool
  | .next _ => true
  | c => c.isWork

/-- Whether a call shows that there is no connection any more. -/
def losesConnection : Call → Bool
  | .ack _ (.error _) => true
  | .next .ended => true
  | .next .failed => true
  | _ => false

/-- Whether a call is one of those that end a run. -/
def endsRun : Call → Bool
  | .disconnect _ => true
  | .next .cancelled => true
  | _ => false

theorem endsRun_of_isWork {c : Call} (h : c.isWork = true) : c.endsRun = false := by
  cases c with
  | ack => rfl
  | publish => rfl
  | _ => cases h

theorem losesConnection_of_isWork {c : Call} (h : c.isWork = true) (hf : c.failure? = none) :
    c.losesConnection = false := by
  cases c with
  | ack tag reply =>
      cases reply with
      | ok u => rfl
      | error fault => cases hf
  | publish => rfl
  | _ => cases h

end Call

/-- A call of two lists of calls is in the second one, or in the first one. -/
theorem split_cases {xs ys earlier later : List Call} {c : Call}
    (h : xs ++ ys = earlier ++ c :: later) :
    (∃ gap, earlier = xs ++ gap ∧ ys = gap ++ c :: later) ∨
    ∃ gap, xs = earlier ++ c :: gap ∧ later = gap ++ ys := by
  rcases List.append_eq_append_iff.1 h with hys | ⟨gap, hxs, hgap⟩
  · exact Or.inl hys
  · cases gap with
    | nil => exact Or.inl ⟨[], by simpa using hxs.symm, hgap.symm⟩
    | cons d gap =>
        obtain ⟨rfl, hlater⟩ := List.cons.inj hgap
        exact Or.inr ⟨gap, hxs, hlater⟩

/-- A call that is not the last one is followed by the last one. -/
theorem split_concat {xs earlier later : List Call} {c d : Call}
    (h : xs ++ [d] = earlier ++ c :: later) (hne : c ≠ d) :
    ∃ gap, xs = earlier ++ c :: gap ∧ later = gap ++ [d] := by
  rcases split_cases h with ⟨gap, -, hgap⟩ | hxs
  · cases gap with
    | nil => exact absurd (List.cons.inj hgap).1.symm hne
    | cons e gap => cases gap <;> cases hgap
  · exact hxs

/-- The error that ended the handling of a message tells how the run goes on: no error and a message
that could not be acknowledged do not stop it. -/
theorem Ends.fatal {calls : List Call} {e : Option AlerterError} (h : Ends Call.failure? calls e) :
    (e = none ∧ ∀ c ∈ calls, c.failure? = none) ∨
    (∃ fault, e = some (.acknowledge fault) ∧ ∀ c ∈ calls, c.fatal? = none) ∨
    ∃ fault, e = some (.publish fault) ∧ Ends Call.fatal? calls e := by
  cases h with
  | well h => exact Or.inl ⟨rfl, h⟩
  | badly _ h hc =>
      have hfatal := fun d hd => Call.fatal?_of_failure?_eq_none (h d hd)
      rcases Call.failure?_cases hc with ⟨fault, rfl, hnone⟩ | ⟨⟨fault, rfl⟩, hsome⟩
      · exact Or.inr (Or.inl ⟨fault, rfl,
          List.forall_mem_append.2 ⟨hfatal, List.forall_mem_singleton.2 hnone⟩⟩)
      · exact Or.inr (Or.inr ⟨fault, rfl, .badly _ hfatal hsome⟩)

/-! ## Connections -/

/-- The calls leave a connection: one was made, and no call since showed that it is lost. -/
def Linked (calls : List Call) : Prop :=
  ∃ before since, calls = before ++ .connect (.ok ()) :: since ∧
    ∀ c ∈ since, c.losesConnection = false

/-- Every call that needs a connection has one. -/
def Orderly (calls : List Call) : Prop :=
  ∀ earlier c later, calls = earlier ++ c :: later → c.needsConnection = true → Linked earlier

theorem linked_connect (calls : List Call) : Linked (calls ++ [.connect (.ok ())]) :=
  ⟨calls, [], rfl, by simp⟩

theorem Linked.append {xs ys : List Call} (hx : Linked xs)
    (hy : ∀ c ∈ ys, c.losesConnection = false) : Linked (xs ++ ys) := by
  obtain ⟨before, since, rfl, hsince⟩ := hx
  exact ⟨before, since ++ ys, by simp, List.forall_mem_append.2 ⟨hsince, hy⟩⟩

theorem Orderly.append {xs ys : List Call} (hx : Orderly xs)
    (hy : ∀ earlier c later, ys = earlier ++ c :: later → c.needsConnection = true →
      Linked (xs ++ earlier)) : Orderly (xs ++ ys) := by
  intro earlier c later h hc
  rcases split_cases h with ⟨gap, rfl, hys⟩ | ⟨gap, hxs, -⟩
  · exact hy gap c later hys hc
  · exact hx earlier c gap hxs hc

theorem Orderly.concat {xs : List Call} (hx : Orderly xs) {c : Call}
    (hc : c.needsConnection = true → Linked xs) : Orderly (xs ++ [c]) := by
  refine hx.append fun earlier d later h hd => ?_
  obtain ⟨rfl, h⟩ | ⟨gap, -, h⟩ := List.cons_eq_append_iff.1 h
  · obtain ⟨rfl, -⟩ := List.cons.inj h
    rw [List.append_nil]
    exact hc hd
  · cases gap <;> cases h

/-- Only the last of the calls may lose the connection. -/
theorem Orderly.append_ends {xs ys : List Call} (hx : Orderly xs) (hlinked : Linked xs)
    {e : Option AlerterError} (he : Ends Call.failure? ys e)
    (hwork : ∀ c ∈ ys, c.isWork = true) : Orderly (xs ++ ys) := by
  refine hx.append fun earlier c later h _ => hlinked.append fun d hd => ?_
  rw [h] at he hwork
  exact Call.losesConnection_of_isWork (hwork d (List.mem_append_left _ hd)) (he.of_split d hd)

/-- Calls that need no connection may be made at any time. -/
theorem Orderly.append_free {xs ys : List Call} (hx : Orderly xs)
    (hy : ∀ c ∈ ys, c.needsConnection = false) : Orderly (xs ++ ys) := by
  refine hx.append fun earlier c later h hc => ?_
  rw [h] at hy
  rw [hy c (List.mem_append_right _ (List.mem_cons_self ..))] at hc
  cases hc

/-! ## A run up to some point -/

variable {M : Type}

namespace Session

/-- A run so far keeps the protocol. -/
structure Conforms (s : Session M) : Prop where
  /-- Every call that needs a connection has one. -/
  orderly : Orderly s.calls
  /-- While a message is waited for there is a connection. -/
  linked : s.phase = .connected → Linked s.calls
  /-- The run stopped with an error if and only if its last call had it. -/
  ends : Ends Call.fatal? s.calls s.failure
  /-- The run did not come to its end yet. -/
  ongoing : ∀ c ∈ s.calls, c.endsRun = false
  /-- If it stopped without an error, it was asked to. -/
  asked : s.phase = .stopped none → s.cancelled = true

theorem conforms_start (a : Alerter M) (b : Broker) (cancelled : Bool) :
    (start a b cancelled).Conforms where
  orderly := by simp [Orderly, start]
  linked := fun h => by cases h
  ends := .well (by simp [start])
  ongoing := by simp [start]
  asked := fun h => by cases h

namespace Conforms

variable {s t : Session M}

/-- Connecting keeps what is said about calls. -/
theorem connects (hs : s.Conforms) (hfailure : s.failure = none) {connects : List Call}
    (hconnects : ∀ c ∈ connects, ∃ reply, c = .connect reply) :
    Orderly (s.calls ++ connects) ∧ Ends Call.fatal? (s.calls ++ connects) none ∧
      ∀ c ∈ s.calls ++ connects, c.endsRun = false := by
  have hends := hs.ends
  rw [hfailure] at hends
  refine ⟨hs.orderly.append_free fun c hc => ?_,
    Ends.append hends.of_none (.well fun c hc => ?_),
    List.forall_mem_append.2 ⟨hs.ongoing, fun c hc => ?_⟩⟩
  all_goals obtain ⟨reply, rfl⟩ := hconnects c hc; rfl

/-- Getting ready keeps the protocol. -/
theorem readies (hs : s.Conforms) (h : s.Readies t) : t.Conforms := by
  cases h with
  | done => exact hs
  | waits => exact hs
  | connects failed attempts hp hc hfailed =>
      have hconnects : ∀ c ∈ failed ++ [Call.connect (.ok ())], ∃ reply, c = .connect reply := by
        refine List.forall_mem_append.2 ⟨fun c hc => ?_, List.forall_mem_singleton.2 ⟨_, rfl⟩⟩
        obtain ⟨fault, rfl⟩ := hfailed c hc
        exact ⟨_, rfl⟩
      obtain ⟨horderly, hends, hongoing⟩ := hs.connects (by rw [failure, hp]) hconnects
      exact {
        orderly := horderly
        linked := fun _ => by
          rw [← List.append_assoc]
          exact linked_connect _
        ends := hends
        ongoing := hongoing
        asked := fun h => by cases h }
  | stops connects attempts hp hconnects hnone =>
      obtain ⟨horderly, hends, hongoing⟩ := hs.connects (failure_of_not_stopped hp) hconnects
      exact {
        orderly := horderly
        linked := fun h => by cases h
        ends := hends
        ongoing := hongoing
        asked := fun _ => rfl }

variable [DecidableEq M]

omit [DecidableEq M] in
/-- Losing the connection keeps the protocol. -/
theorem lose (hs : s.Conforms) (hp : s.phase = .connected) {d : Delivery}
    (hd : (Call.next d).endsRun = false) (cancels : Bool) :
    { s.record (.next d) with phase := .unconnected, cancelled := cancels }.Conforms := by
  have hends := hs.ends
  rw [failure, hp] at hends
  exact {
    orderly := hs.orderly.concat fun _ => hs.linked hp
    linked := fun h => by cases h
    ends := Ends.append hends.of_none (.single rfl)
    ongoing := List.forall_mem_append.2 ⟨hs.ongoing, List.forall_mem_singleton.2 hd⟩
    asked := fun h => by cases h }

/-- An arrival keeps the protocol. -/
theorem receive (hs : s.Conforms) (hp : s.phase = .connected) {x : Arrival}
    (h : s.receive x = .ok t) : t.Conforms := by
  cases x with
  | ended cancels => cases h; exact hs.lose hp rfl cancels
  | failed cancels => cases h; exact hs.lose hp rfl cancels
  | message m cancels =>
      obtain ⟨handled, hh, ht⟩ := exists_of_bind_eq_ok h
      cases ht
      have hwork := Alerter.isWork_handle hh
      have hhandled := Alerter.ends_handle hh
      have hends := hs.ends
      rw [failure, hp] at hends
      have hlinked : Linked (s.calls ++ [.next (.message m.tag)]) :=
        (hs.linked hp).append (List.forall_mem_singleton.2 rfl)
      have horderly : Orderly (s.calls ++ [.next (.message m.tag)] ++ handled.calls) :=
        (hs.orderly.concat fun _ => hs.linked hp).append_ends hlinked hhandled hwork
      have hongoing : ∀ c ∈ s.calls ++ [.next (.message m.tag)] ++ handled.calls,
          c.endsRun = false :=
        List.forall_mem_append.2 ⟨List.forall_mem_append.2
          ⟨hs.ongoing, List.forall_mem_singleton.2 rfl⟩,
          fun c hc => Call.endsRun_of_isWork (hwork c hc)⟩
      have hbefore : ∀ c ∈ s.calls ++ [.next (.message m.tag)], c.fatal? = none :=
        List.forall_mem_append.2 ⟨hends.of_none, List.forall_mem_singleton.2 rfl⟩
      rw [List.append_cons]
      rcases hhandled.fatal with ⟨hnone, hwell⟩ | ⟨fault, hack, hwell⟩ | ⟨fault, hpublish, hfatal⟩
      · rw [hnone]
        exact {
          orderly := horderly
          linked := fun _ => hlinked.append fun c hc =>
            Call.losesConnection_of_isWork (hwork c hc) (hwell c hc)
          ends := Ends.append hbefore
            (.well fun c hc => Call.fatal?_of_failure?_eq_none (hwell c hc))
          ongoing := hongoing
          asked := fun h => by cases h }
      · rw [hack]
        exact {
          orderly := horderly
          linked := fun h => by cases h
          ends := Ends.append hbefore (.well hwell)
          ongoing := hongoing
          asked := fun h => by cases h }
      · rw [hpublish] at hfatal ⊢
        exact {
          orderly := horderly
          linked := fun h => by cases h
          ends := Ends.append hbefore hfatal
          ongoing := hongoing
          asked := fun h => by cases h }

/-- **One arrival.** -/
theorem step (hs : s.Conforms) {x : Arrival} (h : s.step x = .ok t) : t.Conforms := by
  have hready := hs.readies s.readies_ready
  rcases s.readies_ready.phase with hp | ⟨failure, hp⟩
  · rw [step_of_connected hp] at h
    exact hready.receive hp h
  · rw [step_of_stopped hp] at h
    cases h
    exact hready

end Conforms

end Session

/-! ## Whole runs -/

namespace Session

/-- The end of a run closes the connection. -/
theorem Conforms.finish {s : Session M} (hs : s.Conforms) :
    ∃ calls reply, s.finish.calls = calls ++ [.disconnect reply] ∧ Orderly calls ∧
      (∀ c ∈ calls, ∀ reply, c ≠ .disconnect reply) ∧
      (∀ before after, calls = before ++ .next .cancelled :: after → after = []) ∧
      Ends Call.fatal? calls s.finish.failure ∧
      (s.finish.failure = none → s.finish.cancelled = true) := by
  have hready := hs.readies s.readies_ready
  have hends := hready.ends
  have hclosing : ∀ c ∈ s.ready.calls, ∀ reply, c ≠ .disconnect reply := by
    rintro c hc reply rfl
    cases hready.ongoing _ hc
  have hwaiting : .next .cancelled ∉ s.ready.calls := fun hc => by cases hready.ongoing _ hc
  rcases s.readies_ready.phase with hp | ⟨failure, hp⟩
  · rw [failure, hp] at hends
    rw [finish_of_connected hp]
    refine ⟨s.ready.calls ++ [.next .cancelled], _, rfl,
      hready.orderly.concat fun _ => hready.linked hp,
      List.forall_mem_append.2 ⟨hclosing, List.forall_mem_singleton.2 (by simp)⟩, ?_,
      Ends.append hends.of_none (.single rfl), fun _ => rfl⟩
    intro before after h
    rcases split_cases h with ⟨gap, -, hgap⟩ | ⟨gap, hgap, -⟩
    · cases gap with
      | nil => exact (List.cons.inj hgap).2.symm
      | cons e gap => cases gap <;> cases hgap
    · rw [hgap] at hwaiting
      exact absurd (List.mem_append_right _ (List.mem_cons_self ..)) hwaiting
  · rw [finish_of_stopped hp]
    refine ⟨s.ready.calls, _, rfl, hready.orderly, hclosing, ?_, hends, fun hnone => ?_⟩
    · intro before after h
      rw [h] at hwaiting
      exact absurd (List.mem_append_right _ (List.mem_cons_self ..)) hwaiting
    · refine hready.asked ?_
      have hfailure : failure = none := by simpa [Session.failure, record, hp] using hnone
      rw [hp, hfailure]

variable [DecidableEq M]

/-- The last session `s` of a run keeps the protocol with the broker. -/
structure KeepsProtocol (a : Alerter M) (b : Broker) (cancelled : Bool) (arrivals : List Arrival)
    (s : Session M) : Prop where
  /-- A message is waited for, acknowledged or published only over a connection: connecting
  succeeded, and since then no message could not be acknowledged, and waiting neither failed nor
  found the stream ended. -/
  connected : ∀ earlier c later, s.calls = earlier ++ c :: later → c.needsConnection = true →
    Linked earlier
  /-- The connection is closed once, by the last call. -/
  closed : ∃ calls reply, s.calls = calls ++ [.disconnect reply] ∧
    ∀ c ∈ calls, ∀ reply, c ≠ .disconnect reply
  /-- Once the alerter finds that it is asked to stop, it only closes the connection. -/
  asked : ∀ earlier later t, arrivals = earlier ++ later → a.upTo b cancelled earlier = .ok t →
    t.ready.cancelled = true →
      s.alerter = t.alerter ∧ ∃ reply, s.calls = t.ready.calls ++ [.disconnect reply]
  /-- So it does if it is asked to stop while it waits for a message. -/
  interrupted : ∀ before after, s.calls = before ++ .next .cancelled :: after →
    ∃ reply, after = [.disconnect reply]
  /-- A message that is handed out is handled to its end, also if the alerter is asked to stop
  meanwhile; then it is the last one. -/
  finished : ∀ earlier m cancels later t, arrivals = earlier ++ .message m cancels :: later →
    a.upTo b cancelled earlier = .ok t → t.ready.phase = .connected →
      ∃ h rest, t.alerter.handle t.ready.broker m = .ok h ∧
        s.calls = t.ready.calls ++ .next (.message m.tag) :: (h.calls ++ rest) ∧
        (cancels = true → s.alerter = h.alerter ∧ ∃ reply, rest = [.disconnect reply])
  /-- The run fails if and only if a message could not be published for another reason than that it
  could not be delivered, and with that error. -/
  failed : ∀ e, s.failure = some e ↔ ∃ c ∈ s.calls, c.fatal? = some e
  /-- After such an error the alerter only closes the connection. -/
  fatal : ∀ before c after, s.calls = before ++ c :: after → c.fatal? ≠ none →
    ∃ reply, after = [.disconnect reply]
  /-- A run that does not fail stops because it was asked to. -/
  stopped : s.failure = none → s.cancelled = true

end Session

namespace Alerter

variable [DecidableEq M] {a : Alerter M} {b : Broker} {cancelled : Bool} {arrivals : List Arrival}

/-- **Any number of arrivals.** -/
theorem conforms_upTo {s : Session M} (h : a.upTo b cancelled arrivals = .ok s) : s.Conforms :=
  foldlM_induction (fun _ _ _ hs hstep => hs.step hstep) arrivals _ _
    (Session.conforms_start a b cancelled) h

end Alerter

/-- **A run keeps the protocol with the broker.**  This holds of every run that comes to its end,
whatever the broker replies, whatever arrives, and whenever the alerter is asked to stop. -/
theorem run_keeps_protocol {M : Type} [DecidableEq M] (a : Alerter M) (b : Broker)
    (cancelled : Bool) (arrivals : List Arrival) {s : Session M}
    (h : a.run b cancelled arrivals = .ok s) : s.KeepsProtocol a b cancelled arrivals := by
  obtain ⟨u, hu, hs⟩ := exists_of_bind_eq_ok h
  cases hs
  obtain ⟨calls, reply, hcalls, horderly, hclosing, hinterrupted, hends, hstopped⟩ :=
    (Alerter.conforms_upTo hu).finish
  have hrest : ∀ earlier later t, arrivals = earlier ++ later →
      a.upTo b cancelled earlier = .ok t → t.complete later = .ok u.finish := by
    rintro earlier later t rfl ht
    rw [← Session.complete_append ht later]
    exact h
  exact {
    connected := by
      rw [hcalls]
      exact horderly.append_free (List.forall_mem_singleton.2 rfl)
    closed := ⟨calls, reply, hcalls, hclosing⟩
    asked := fun earlier later t harrivals ht hc =>
      Session.complete_of_cancelled hc (hrest earlier later t harrivals ht)
    interrupted := by
      rw [hcalls]
      intro before after hsplit
      obtain ⟨gap, hgap, rfl⟩ := split_concat hsplit nofun
      rw [hinterrupted before gap hgap]
      exact ⟨reply, rfl⟩
    finished := fun earlier m cancels later t harrivals ht hp =>
      Session.complete_message hp (hrest earlier _ t harrivals ht)
    failed := by
      intro e
      have hlast : (Call.disconnect reply).fatal? ≠ some e := nofun
      simp only [hends.eq_some_iff, hcalls, List.mem_append, List.mem_singleton, or_and_right,
        exists_or, exists_eq_left, hlast, or_false]
    fatal := by
      rw [hcalls]
      intro before c after hsplit hc
      obtain ⟨gap, hgap, rfl⟩ := split_concat hsplit (by rintro rfl; exact hc rfl)
      rw [hgap] at hends
      rw [hends.eq_nil_of_split hc]
      exact ⟨reply, rfl⟩
    stopped := hstopped }

/-- A broker that fails to connect once, to acknowledge the second message, and to publish the
second alert. -/
def unsteady : Broker where
  attempts := [⟨.error .transport, false⟩]
  acks := [.ok (), .error .notConnected]
  publishes := [.ok (), .error .transport]
  disconnects := []

/-- Three messages with interruptions, and one more. -/
def interruptions : List Arrival :=
  [.message Sample.configuration false, .ended, .message (Sample.measurement 8 1) false, .failed,
    .message (Sample.measurement 5 2) false, .message (Sample.measurement 1 3) true]

/-- This run connects five times and fails when it publishes the second alert, before the last
message. -/
theorem run_keeps_protocol_unsteady :
    ∃ s, (Alerter.new Sample.family (Sample.settings 3)).run unsteady false interruptions = .ok s ∧
      s.failure = some (.publish .transport) ∧ s.calls.countP Call.isConnect = 5 ∧
      s.KeepsProtocol (.new Sample.family (Sample.settings 3)) unsteady false interruptions := by
  have hrun : ((Alerter.new Sample.family (Sample.settings 3)).run unsteady false
      interruptions).map (fun s => (s.failure, s.calls.countP Call.isConnect)) =
        .ok (some (.publish .transport), 5) := by decide +kernel
  obtain ⟨s, hs, hpair⟩ := exists_of_map_eq_ok hrun
  obtain ⟨hfailure, hconnects⟩ := Prod.mk.inj hpair
  exact ⟨s, hs, hfailure, hconnects, run_keeps_protocol _ _ _ _ hs⟩

end NodeAlerts
