import Mathlib.Data.List.Induction
import NodeAlerts.Proofs.Families
import NodeAlerts.Proofs.History
import NodeAlerts.Proofs.OpenRaise
import NodeAlerts.Proofs.Update

/-!
# The log of a history

The log of a history (`History.log`) tells what was found and which chains were configured anew.
`openRaises` follows a metric of a node through the log: which of its raises are open by then.  What
it finds open was found, and neither closed nor forgotten since (`unresolved_of_mem_openRaises`).

A log is justified if every resolution in it closes a raise that is open by then (`LogJustified`).
-/

namespace NodeAlerts

/-! ## The log -/

/-- A metric of a node. -/
structure Subject (M : Type) where
  /-- The chain of the node. -/
  parentId : String
  /-- The node. -/
  originId : String
  /-- The metric. -/
  metric : M
  deriving DecidableEq

/-- The metric of a node that a finding is about. -/
def Finding.subject {M : Type} (x : Finding M) : Subject M :=
  ⟨x.origin.parentId, x.origin.originId, x.metric⟩

/-- What happened, as far as it matters to what is open. -/
inductive LogEntry (M : Type) where
  /-- Something was found. -/
  | found (x : Finding M)
  /-- The configuration of a chain was replaced or removed. -/
  | reconfigured (parentId : String)

/-- What a handled message adds to the log. -/
def Round.entries {M : Type} (r : Round M) : List (LogEntry M) :=
  (match r.before.routing.route r.turn.message.routingKey with
    | .config name => (r.before.reconfigured name r.turn.message.payload).map LogEntry.reconfigured
    | _ => []) ++ r.handled.findings.map LogEntry.found

/-- What happened so far, in order. -/
def History.log {M : Type} (H : History M) : List (LogEntry M) := H.rounds.flatMap Round.entries

variable {M : Type} [DecidableEq M]

/-- The open raises of a metric after one more entry. -/
def LogEntry.follow (subject : Subject M) (raises : List Event) : LogEntry M → List Event
  | .found x => if x.subject = subject then x.event.follow raises else raises
  | .reconfigured p => if p = subject.parentId then [] else raises

/-- The raises of a metric that are open at the end of a log. -/
def openRaises (subject : Subject M) (log : List (LogEntry M)) : List Event :=
  log.foldl (LogEntry.follow subject) []

theorem openRaises_concat (subject : Subject M) (log : List (LogEntry M)) (e : LogEntry M) :
    openRaises subject (log ++ [e]) = e.follow subject (openRaises subject log) := by
  rw [openRaises, List.foldl_append]
  rfl

/-- A raise of a metric was found, and since then no resolution closed it and its chain was not
configured anew. -/
def Unresolved (subject : Subject M) (raise : Event) (log : List (LogEntry M)) : Prop :=
  ∃ before x after, log = before ++ .found x :: after ∧ x.subject = subject ∧ x.event = raise ∧
    raise.isResolution = false ∧ .reconfigured subject.parentId ∉ after ∧
    ∀ y, .found y ∈ after → y.subject = subject → y.event.closes raise = false

omit [DecidableEq M] in
/-- A raise stays unresolved over an entry that does not end it. -/
theorem Unresolved.concat {subject : Subject M} {raise : Event} {log : List (LogEntry M)}
    (h : Unresolved subject raise log) {e : LogEntry M}
    (hchain : e ≠ .reconfigured subject.parentId)
    (hcloses : ∀ y, e = .found y → y.subject = subject → y.event.closes raise = false) :
    Unresolved subject raise (log ++ [e]) := by
  obtain ⟨before, x, after, rfl, hx, hevent, hraise, hafter, hclosed⟩ := h
  refine ⟨before, x, after ++ [e], by simp, hx, hevent, hraise, ?_, fun y hy hsubject => ?_⟩
  · simp [hafter, hchain.symm]
  · rcases List.mem_append.1 hy with hy | hy
    · exact hclosed y hy hsubject
    · exact hcloses y (List.mem_singleton.1 hy).symm hsubject

/-- **What open means.**  Open raises are unresolved. -/
theorem unresolved_of_mem_openRaises {subject : Subject M} {log : List (LogEntry M)} {raise : Event}
    (h : raise ∈ openRaises subject log) : Unresolved subject raise log := by
  induction log using List.reverseRecOn with
  | nil => cases h
  | append_singleton log e ih =>
      rw [openRaises_concat] at h
      cases e with
      | reconfigured p =>
          rw [LogEntry.follow] at h
          by_cases hp : p = subject.parentId
          · rw [if_pos hp] at h
            cases h
          · rw [if_neg hp] at h
            exact (ih h).concat (by simpa using hp) (by simp)
      | found x =>
          rw [LogEntry.follow] at h
          by_cases hx : x.subject = subject
          · rw [if_pos hx, Event.follow] at h
            cases hres : x.event.isResolution with
            | true =>
                rw [hres, if_pos rfl, List.mem_filter] at h
                refine (ih h.1).concat (by simp) fun y hy _ => ?_
                cases hy
                simpa using h.2
            | false =>
                rw [hres] at h
                rcases List.mem_append.1 h with hold | hnew
                · refine (ih hold).concat (by simp) fun y hy _ => ?_
                  cases hy
                  simp [Event.closes, hres]
                · rw [List.mem_singleton.1 hnew]
                  exact ⟨log, x, [], rfl, hx, rfl, hres, by simp, by simp⟩
          · rw [if_neg hx] at h
            refine (ih h).concat (by simp) fun y hy hsubject => ?_
            cases hy
            exact absurd hsubject hx

/-! ## Justified logs -/

/-- Every resolution closes a raise that is open by then. -/
def LogJustified (log : List (LogEntry M)) : Prop :=
  ∀ before x after, log = before ++ .found x :: after → x.event.isResolution = true →
    ∃ raise ∈ openRaises x.subject before, x.event.closes raise = true

theorem logJustified_nil : LogJustified ([] : List (LogEntry M)) := by
  intro before x after h
  simp at h

theorem LogJustified.concat {log : List (LogEntry M)} (h : LogJustified log) {e : LogEntry M}
    (he : ∀ x, e = .found x → x.event.isResolution = true →
      ∃ raise ∈ openRaises x.subject log, x.event.closes raise = true) :
    LogJustified (log ++ [e]) := by
  intro before x after hsplit hres
  rcases List.eq_nil_or_concat after with rfl | ⟨rest, last, rfl⟩
  · obtain ⟨rfl, hlast⟩ := List.append_inj' hsplit rfl
    exact he x (List.singleton_inj.1 hlast) hres
  · have hsplit' : log ++ [e] = (before ++ .found x :: rest) ++ [last] := by simpa using hsplit
    obtain ⟨hlog, -⟩ := List.append_inj' hsplit' rfl
    exact h before x rest hlog hres

/-- Configurations resolve nothing. -/
theorem LogJustified.reconfigured {log : List (LogEntry M)} (h : LogJustified log)
    (chains : List String) : LogJustified (log ++ chains.map LogEntry.reconfigured) := by
  induction chains generalizing log with
  | nil => simpa using h
  | cons p chains ih =>
      have hnext := ih (h.concat (e := .reconfigured p) fun x hx => by cases hx)
      simpa using hnext

/-- A chain that is configured anew has no open raises, and the others have those of before. -/
theorem openRaises_reconfigured (subject : Subject M) (log : List (LogEntry M))
    (chains : List String) (h : subject.parentId ∉ chains) :
    openRaises subject (log ++ chains.map LogEntry.reconfigured) = openRaises subject log := by
  induction chains generalizing log with
  | nil => simp
  | cons p chains ih =>
      rw [List.mem_cons, not_or] at h
      have hnext := ih (log ++ [.reconfigured p]) h.2
      rw [openRaises_concat, LogEntry.follow, if_neg (Ne.symm h.1)] at hnext
      simpa using hnext

/-! ## Findings about one node -/

section Events

variable {origin : Origin} {now : Instant} {m : M}

/-- Findings about other metrics and nodes leave the open raises as they are. -/
theorem openRaises_found_of_ne (subject : Subject M) (log : List (LogEntry M))
    (found : List (Finding M)) (h : ∀ x ∈ found, x.subject ≠ subject) :
    openRaises subject (log ++ found.map LogEntry.found) = openRaises subject log := by
  induction found generalizing log with
  | nil => simp
  | cons x found ih =>
      have hnext := ih (log ++ [.found x]) fun y hy => h y (List.mem_cons_of_mem _ hy)
      rw [openRaises_concat, LogEntry.follow, if_neg (h x (List.mem_cons_self ..))] at hnext
      simpa using hnext

/-- An event about a metric changes its open raises. -/
theorem openRaises_event (log : List (LogEntry M)) (e : Event) :
    openRaises ⟨origin.parentId, origin.originId, m⟩ (log ++ [.found ⟨origin, now, m, e⟩]) =
      e.follow (openRaises ⟨origin.parentId, origin.originId, m⟩ log) :=
  (openRaises_concat _ log _).trans (if_pos rfl)

/-- The events of a reading change the open raises of its metric one after another. -/
theorem openRaises_events (log : List (LogEntry M)) (events : List Event) :
    openRaises ⟨origin.parentId, origin.originId, m⟩
        (log ++ (events.map (Finding.mk origin now m)).map LogEntry.found) =
      Event.followAll (openRaises ⟨origin.parentId, origin.originId, m⟩ log) events := by
  induction events generalizing log with
  | nil => simp
  | cons e events ih =>
      have hnext := ih (log ++ [.found ⟨origin, now, m, e⟩])
      rw [openRaises_event] at hnext
      simpa using hnext

/-- Events that are justified among themselves are justified in the log. -/
theorem LogJustified.events {log : List (LogEntry M)} (h : LogJustified log) {events : List Event}
    (he : Justified (openRaises ⟨origin.parentId, origin.originId, m⟩ log) events) :
    LogJustified (log ++ (events.map (Finding.mk origin now m)).map LogEntry.found) := by
  induction events generalizing log with
  | nil => simpa using h
  | cons e events ih =>
      have hone : LogJustified (log ++ [.found ⟨origin, now, m, e⟩]) := by
        refine h.concat fun x hx hres => ?_
        cases hx
        exact he.1 hres
      have hrest : Justified (openRaises ⟨origin.parentId, origin.originId, m⟩
          (log ++ [.found ⟨origin, now, m, e⟩])) events := by
        rw [openRaises_event]
        exact he.2
      simpa using ih hone hrest

end Events

end NodeAlerts
