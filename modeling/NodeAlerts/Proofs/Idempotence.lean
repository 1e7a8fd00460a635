import NodeAlerts.Family.Sample
import NodeAlerts.Proofs.Locality
import NodeAlerts.Proofs.Settled

/-!
# Classifying a reading twice adds nothing

A reading that neither counts occurrences nor is reported each time (`Reading.Abiding`) has done all
that it can do once it is classified: at the same time it is found quiet, whatever the state of its
metric was before.  The only alert that the rules of such readings repeat is a critical one, and its
gate is closed at the time at which it was passed, as long as there is an interval between repeats
(`MetricState.Spaced`).

Beyond `Reading.classify_again` this is about arbitrary states: nothing ties the gate of the state
to the configuration.
-/

namespace NodeAlerts

/-- Critical alerts about a metric in this state are not repeated, or only after some time. -/
def MetricState.Spaced (s : MetricState) (c : MetricConfig) : Prop :=
  c.repeats = false ∨ 0 < s.repeatGate.interval.micros

theorem MetricState.Spaced.not_repeatsAtOnce {s : MetricState} {c : MetricConfig}
    (h : s.Spaced c) : ¬ s.RepeatsAtOnce c := by
  rintro ⟨-, hrepeats, hinterval⟩
  rcases h with hno | hpositive
  · rw [hrepeats] at hno
    cases hno
  · rw [Span.le_def] at hinterval
    exact Int.not_le.2 hpositive hinterval

/-- A reading of something that abides: of a value with thresholds, of one that ought to change, of
downtime, or of a condition that is reported when it starts and ends to hold. -/
def Reading.Abiding : Reading → Prop
  | .gauge .. => True
  | .progress .. => True
  | .downtime .. => True
  | .transition .. => True
  | _ => False

/-- A rule that settles without an event is quiet when it is applied again. -/
theorem Settles.quiet {rule : MetricState → Step} {s : MetricState}
    (h : Settles rule (fun _ => False) s) : rule (rule s).state = .quiet (rule s).state := by
  have hevents : (rule (rule s).state).events = [] := List.eq_nil_iff_forall_not_mem.2 h.events
  calc rule (rule s).state
      = ⟨(rule (rule s).state).state, (rule (rule s).state).events⟩ := rfl
    _ = .quiet (rule s).state := by rw [h.state, hevents]; rfl

/-- **An abiding reading settles its metric**, without an event that is found again. -/
theorem Reading.Abiding.classify_quiet {r : Reading} (hr : r.Abiding) {c : MetricConfig}
    {s : MetricState} (hs : s.Spaced c) (now : Instant) :
    ∃ step, r.classify c now s = .ok step ∧
      r.classify c now step.state = .ok (.quiet step.state) := by
  have hnever : ∀ e : Event, s.RepeatsAtOnce c ∧ e.severity = .critical → False :=
    fun _ he => hs.not_repeatsAtOnce he.1
  cases r with
  | gauge value direction windowed =>
      have hsettles := settles_measure c s now (.value value windowed) direction
      exact ⟨_, rfl, congrArg Except.ok (hsettles.mono hnever).quiet⟩
  | progress current previous =>
      have hsettles := settles_stuck c s now current previous
      exact ⟨_, rfl, congrArg Except.ok (hsettles.mono hnever).quiet⟩
  | downtime wentDownAt =>
      have hsettles := settles_downtime c s now wentDownAt
      exact ⟨_, rfl, congrArg Except.ok (hsettles.mono hnever).quiet⟩
  | transition holds detail cleared =>
      have hsettles := settles_transition c s holds detail cleared
      exact ⟨_, rfl, congrArg Except.ok hsettles.quiet⟩
  | counter current previous => exact hr.elim
  | fault tracked received message => exact hr.elim
  | condition holds detail cleared => exact hr.elim

/-- **Classifying is idempotent.**  Whatever the configuration and the state of a metric are, as
long as critical alerts are not repeated at once: classifying an abiding reading finds nothing the
second time, and leaves the state of the metric as it was after the first.  So it is for every node
that remembers the state for a metric with the configuration; if the metric is disabled, the reading
is passed over. -/
theorem classification_idempotent {c : MetricConfig} {s : MetricState} (hspaced : s.Spaced c)
    {r : Reading} (hr : r.Abiding) (now : Instant) :
    (∃ step, r.classify c now s = .ok step ∧
      r.classify c now step.state = .ok (.quiet step.state)) ∧
    ∀ {M : Type} [DecidableEq M] (f : Family M) (config : ChainConfig) (origin : Origin) {m : M}
      {node : NodeState M}, config.metric? (f.metricName m) = some c → node.get? m = some s →
      ∃ node' findings, f.classifyOne config origin now node m r = .ok ⟨node', findings, none⟩ ∧
        f.classifyOne config origin now node' m r = .ok ⟨node', [], none⟩ := by
  obtain ⟨step, hfirst, hsecond⟩ := hr.classify_quiet hspaced now
  refine ⟨⟨step, hfirst, hsecond⟩, ?_⟩
  intro M _ f config origin m node hc hs
  cases henabled : c.enabled with
  | true =>
      have hc' : config.enabled? (f.metricName m) = some c := by
        rw [ChainConfig.enabled?, hc, Option.filter_some, if_pos henabled]
      have hget : (node.set m step.state).get? m = some step.state := by
        rw [NodeState.get?_set, if_pos rfl, hs]
        rfl
      refine ⟨node.set m step.state, step.events.map (Finding.mk origin now m), ?_, ?_⟩
      · simp only [Family.classifyOne, hc', hs, hfirst]
        rfl
      · simp only [Family.classifyOne, hc', hget, hsecond]
        simp only [bind, Except.bind, pure, Except.pure, Step.state_quiet, Step.events_quiet,
          List.map_nil, NodeState.set_set]
  | false =>
      have hc' : config.enabled? (f.metricName m) = none := by
        rw [ChainConfig.enabled?, hc, Option.filter_some, henabled]
        rfl
      have hone : f.classifyOne config origin now node m r = .ok ⟨node, [], none⟩ := by
        rw [Family.classifyOne, hc']
      exact ⟨node, [], hone, hone⟩

/-- Critical alerts from 7 on, repeated after a minute. -/
def repeatedLevels : MetricConfig :=
  ⟨"value", "hub", true, ⟨true, 3, Span.zero⟩, ⟨true, 7, Span.zero⟩, true, ⟨60000000⟩, none⟩

/-- A node whose critical alert is open for two minutes. -/
def openForMinutes : MetricState :=
  { MetricState.new repeatedLevels with
    critical := { Alarm.new repeatedLevels.critical with sent := true }
    repeatGate := ⟨⟨60000000⟩, some ⟨0⟩⟩ }

/-- A critical alert that is due to be repeated is repeated once. -/
theorem classification_idempotent_repeated :
    openForMinutes.Spaced repeatedLevels ∧ (Reading.gauge 9 .above false).Abiding ∧
      (∃ step, (Reading.gauge 9 .above false).classify repeatedLevels ⟨120000000⟩ openForMinutes =
          .ok step ∧ step.events.length = 1 ∧
        (Reading.gauge 9 .above false).classify repeatedLevels ⟨120000000⟩ step.state =
          .ok (.quiet step.state)) ∧
      (ChainConfig.ofMetrics "hub" [repeatedLevels]).metric? (Sample.family.metricName .value) =
        some repeatedLevels ∧
      (⟨[(.value, openForMinutes)]⟩ : NodeState Sample.Metric).get? .value = some openForMinutes ∧
      ∃ node' findings, Sample.family.classifyOne (ChainConfig.ofMetrics "hub" [repeatedLevels])
          ⟨"hub", "v", "validator"⟩ ⟨120000000⟩ ⟨[(.value, openForMinutes)]⟩ .value
          (.gauge 9 .above false) = .ok ⟨node', findings, none⟩ ∧
        Sample.family.classifyOne (ChainConfig.ofMetrics "hub" [repeatedLevels])
          ⟨"hub", "v", "validator"⟩ ⟨120000000⟩ node' .value (.gauge 9 .above false) =
            .ok ⟨node', [], none⟩ := by
  have hspaced : openForMinutes.Spaced repeatedLevels := Or.inr (by decide)
  have habiding : (Reading.gauge 9 .above false).Abiding := trivial
  have hc : (ChainConfig.ofMetrics "hub" [repeatedLevels]).metric?
      (Sample.family.metricName .value) = some repeatedLevels := rfl
  have hs : (⟨[(.value, openForMinutes)]⟩ : NodeState Sample.Metric).get? .value =
      some openForMinutes := rfl
  have honce : ∀ step, (Reading.gauge 9 .above false).classify repeatedLevels ⟨120000000⟩
      openForMinutes = .ok step → step.events.length = 1 := by
    intro step hstep
    cases hstep
    decide +kernel
  obtain ⟨⟨step, hfirst, hsecond⟩, hnode⟩ :=
    classification_idempotent hspaced habiding ⟨120000000⟩
  exact ⟨hspaced, habiding, ⟨step, hfirst, honce step hfirst, hsecond⟩, hc, hs,
    hnode Sample.family _ ⟨"hub", "v", "validator"⟩ hc hs⟩

end NodeAlerts
