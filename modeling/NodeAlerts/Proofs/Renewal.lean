import NodeAlerts.Proofs.Agreement
import NodeAlerts.Proofs.Independence
import NodeAlerts.Proofs.Recounting

/-!
# Processing a message twice

A message that is processed again reads every metric again, at the same time and with the same
value.  What this changes is told for one reading by `Reading.classify_again` and
`Reading.Accumulates.classify_again`: nothing, or an increase is counted once more.  As the readings
of a report are of different metrics, and the reports of a message come through different channels,
each of them finds its metric as it left it.  So the same carries over to a report
(`Family.renews_classifyAll`) and to a message (`Family.renews_process`), which is processed again
to the same end.
-/

namespace NodeAlerts

variable {M : Type} [DecidableEq M]

/-! ## What is remembered -/

/-- What is remembered about a metric of a node. -/
def Store.state? (s : Store M) (parentId originId : String) (m : M) : Option MetricState :=
  (s.node? parentId originId).bind (·.get? m)

namespace Store

variable {s : Store M} {parentId originId : String} {m : M} {t : MetricState}

theorem state?_of_node? {n : NodeState M} (h : s.node? parentId originId = some n) :
    s.state? parentId originId = n.get? := by
  funext m
  rw [state?, h, Option.bind_some]

/-- What amendments of other metrics leave alone. -/
theorem state?_amendAll_of_some :
    ∀ (xs : List (Amendment M)) {s : Store M}, s.state? parentId originId m = some t →
      (∀ x ∈ xs, x.parentId = parentId → x.originId = originId → ∀ w ∈ x.writes, w.1 ≠ m) →
      (s.amendAll xs).state? parentId originId m = some t := by
  intro xs
  induction xs with
  | nil => exact fun hs _ => hs
  | cons x rest ih =>
      intro s hs h
      refine ih (s := s.amend x) ?_ fun y hy => h y (List.mem_cons_of_mem _ hy)
      obtain ⟨n, hn, ht⟩ := Option.bind_eq_some_iff.1 hs
      rw [state?, node?_amend]
      by_cases hx : parentId = x.parentId ∧ originId = x.originId
      · have hother := h x (List.mem_cons_self ..) hx.1.symm hx.2.symm
        rw [if_pos hx, hn, Option.getD_some, Option.bind_some, NodeState.get?_setAll _ n hother]
        exact ht
      · rw [if_neg hx]
        exact hs

end Store

/-! ## Readings -/

/-- A finding that readings of a node bring each time they are classified, where `state?` tells what
was remembered before. -/
structure Finding.Renewed (x : Finding M) (f : Family M) (config : ChainConfig) (origin : Origin)
    (now : Instant) (state? : M → Option MetricState) (readings : List (M × Reading)) : Prop where
  /-- It is about the node. -/
  origin : x.origin = origin
  /-- It has the time of the readings. -/
  time : x.time = now
  /-- Its metric is enabled and read, and its event recurs, or an increase that is counted once more
  brings it. -/
  recurs : ∃ c r, config.enabled? (f.metricName x.metric) = some c ∧ (x.metric, r) ∈ readings ∧
    (r.Recurs c x.event ∨ ∃ t, state? x.metric = some t ∧ r.Exceeds c now t x.event)

/-- A state that readings of a node write when they are classified again, where `state?` tells what
was remembered before: an increase is counted once more. -/
def Family.Rewrites (f : Family M) (config : ChainConfig) (now : Instant)
    (state? : M → Option MetricState) (readings : List (M × Reading)) (w : M × MetricState) :
    Prop :=
  ∃ c r t, config.enabled? (f.metricName w.1) = some c ∧ (w.1, r) ∈ readings ∧
    state? w.1 = some t ∧ r.Recounts c now t w.2

section Mono

variable {f : Family M} {config : ChainConfig} {origin : Origin} {now : Instant}
  {state? state?' : M → Option MetricState} {readings readings' : List (M × Reading)}

omit [DecidableEq M] in
theorem Finding.Renewed.mono {x : Finding M} (h : x.Renewed f config origin now state? readings)
    (hstate : ∀ e ∈ readings, ∀ t, state? e.1 = some t → state?' e.1 = some t)
    (hsub : ∀ e ∈ readings, e ∈ readings') : x.Renewed f config origin now state?' readings' := by
  obtain ⟨horigin, htime, c, r, hc, hmem, hr⟩ := h
  refine ⟨horigin, htime, c, r, hc, hsub _ hmem, hr.imp id ?_⟩
  rintro ⟨t, ht, hexceeds⟩
  exact ⟨t, hstate _ hmem t ht, hexceeds⟩

omit [DecidableEq M] in
theorem Family.Rewrites.mono {w : M × MetricState} (h : f.Rewrites config now state? readings w)
    (hstate : ∀ e ∈ readings, ∀ t, state? e.1 = some t → state?' e.1 = some t)
    (hsub : ∀ e ∈ readings, e ∈ readings') : f.Rewrites config now state?' readings' w := by
  obtain ⟨c, r, t, hc, hmem, ht, hrecounts⟩ := h
  exact ⟨c, r, t, hc, hsub _ hmem, hstate _ hmem t ht, hrecounts⟩

omit [DecidableEq M] in
theorem Family.Rewrites.read {w : M × MetricState}
    (h : f.Rewrites config now state? readings w) : ∃ e ∈ readings, w.1 = e.1 := by
  obtain ⟨c, r, t, -, hmem, -⟩ := h
  exact ⟨(w.1, r), hmem, rfl⟩

end Mono

/-- What classifying readings for the second time comes to: it ends alike, and only increases that
are counted once more are written. -/
structure Batch.Renews (b b' : Batch M) (f : Family M) (config : ChainConfig) (origin : Origin)
    (now : Instant) (readings : List (M × Reading)) : Prop where
  /-- It ends alike. -/
  failure : b'.failure = b.failure
  /-- Only increases that are counted once more are written. -/
  node : ∃ ws : List (M × MetricState), b'.node = b.node.setAll ws ∧
    ∀ w ∈ ws, f.Rewrites config now b.node.get? readings w
  /-- The findings. -/
  findings : ∀ x ∈ b'.findings, x.Renewed f config origin now b.node.get? readings

/-- A metric that is read has the configured windows, periods and interval. -/
theorem NodeState.Agrees.lengths {n : NodeState M} {f : Family M} {config : ChainConfig}
    (hn : n.Agrees f config) {m : M} {s : MetricState} (hs : n.get? m = some s) {c : MetricConfig}
    (hc : config.enabled? (f.metricName m) = some c) : s.lengths = c.lengths := by
  have hlengths := hn m
  rw [hs, ChainConfig.metric?_of_enabled? hc, Option.map_some, Option.map_some] at hlengths
  split at hlengths
  · exact Option.some.inj hlengths
  · cases hlengths

namespace Family

variable {f : Family M} {config : ChainConfig} {origin : Origin} {now : Instant}

theorem renews_classifyOne (hk : config.NonNegative) {node : NodeState M}
    (hn : node.Agrees f config) {m : M} {r : Reading} {b : Batch M}
    (h : f.classifyOne config origin now node m r = .ok b) :
    ∃ b', f.classifyOne config origin now b.node m r = .ok b' ∧
      b.Renews b' f config origin now [(m, r)] := by
  rcases classifyOne_cases h with ⟨-, rfl⟩ | ⟨c, -, -, rfl⟩ | ⟨c, s, step, hc, hs, hstep, rfl⟩
  · exact ⟨_, h, rfl, ⟨[], rfl, by simp⟩, by simp⟩
  · exact ⟨_, h, rfl, ⟨[], rfl, by simp⟩, by simp⟩
  · have hlengths : s.lengths = c.lengths := hn.lengths hs hc
    have hget : (node.set m step.state).get? m = some step.state := by
      rw [NodeState.get?_set, if_pos rfl, hs]
      rfl
    have hone : ∀ {again}, r.classify c now step.state = .ok again →
        f.classifyOne config origin now (node.set m step.state) m r =
          .ok ⟨(node.set m step.state).set m again.state,
            again.events.map (Finding.mk origin now m), none⟩ := by
      intro again hagain
      simp only [classifyOne, hc, hget, hagain]
      rfl
    by_cases haccumulates : r.Accumulates
    · obtain ⟨again, hagain, hrecounts, hevents⟩ :=
        haccumulates.classify_again (hk _ c (ChainConfig.metric?_of_enabled? hc)) hlengths hstep
      refine ⟨_, hone hagain, rfl, ⟨[(m, again.state)], rfl, fun w hw => ?_⟩, fun x hx => ?_⟩
      · obtain rfl := List.mem_singleton.1 hw
        exact ⟨c, r, step.state, hc, List.mem_singleton_self _, hget, hrecounts⟩
      · obtain ⟨e, he, rfl⟩ := List.mem_map.1 hx
        exact ⟨rfl, rfl, c, r, hc, List.mem_singleton_self _,
          (hevents e he).imp id fun hexceeds => ⟨step.state, hget, hexceeds⟩⟩
    · obtain ⟨again, hagain, hstate, hevents⟩ :=
        Reading.classify_again haccumulates (congrArg (·.2.2) hlengths) hstep
      refine ⟨_, hone hagain, rfl, ⟨[], ?_, by simp⟩, fun x hx => ?_⟩
      · rw [hstate, NodeState.set_set]
        rfl
      · obtain ⟨e, he, rfl⟩ := List.mem_map.1 hx
        exact ⟨rfl, rfl, c, r, hc, List.mem_singleton_self _, Or.inl (hevents e he)⟩

/-- If no metric is read twice, the first reading does not see what the others wrote, nor they what
it writes again. -/
theorem classifyAll_again {m : M} {r : Reading} {rest : List (M × Reading)}
    {one one' others others' : Batch M} {vs : List (M × MetricState)}
    (hnot : m ∉ rest.map Prod.fst)
    (hone : f.classifyOne config origin now one.node m r = .ok one')
    (hfailure : one'.failure = none) (hnode : one'.node = one.node.setAll vs)
    (hvs : ∀ v ∈ vs, v.1 = m)
    (hothers : f.classifyAll config origin now rest one.node = .ok others)
    (hagain : f.classifyAll config origin now rest others.node = .ok others') :
    f.classifyAll config origin now ((m, r) :: rest) others.node =
      .ok ⟨others'.node.setAll vs, one'.findings ++ others'.findings, others'.failure⟩ := by
  obtain ⟨ws, hws, hwritten⟩ := exists_writes hothers
  have hwsm : ∀ w ∈ ws, w.1 ≠ m := by
    intro w hw heq
    obtain ⟨e, he, hwe⟩ := hws w hw
    exact hnot (heq ▸ hwe ▸ List.mem_map_of_mem he)
  have hvsrest : ∀ v ∈ vs, ∀ e ∈ rest, v.1 ≠ e.1 := by
    intro v hv e he heq
    exact hnot (hvs v hv ▸ heq ▸ List.mem_map_of_mem he)
  have hfirst : f.classifyOne config origin now others.node m r = .ok (one'.setAll ws) := by
    rw [hwritten, classifyOne_setAll hwsm, hone]
    rfl
  have hbetween : (one'.setAll ws).node = others.node.setAll vs := by
    rw [Batch.setAll, hnode, hwritten]
    exact NodeState.setAll_comm one.node fun v hv w hw heq =>
      hwsm w hw (heq.symm.trans (hvs v hv))
  have hrest : f.classifyAll config origin now rest (one'.setAll ws).node =
      .ok (others'.setAll vs) := by
    rw [hbetween, classifyAll_setAll rest _ hvsrest, hagain]
    rfl
  rw [classifyAll_of_ok hfirst hfailure, hrest]
  rfl

/-- **Readings that are classified again.**  No metric is read twice, so each reading finds its
metric as it left it. -/
theorem renews_classifyAll (hk : config.NonNegative) :
    ∀ (readings : List (M × Reading)) {node : NodeState M} {b : Batch M}, node.Agrees f config →
      (readings.map Prod.fst).Nodup → f.classifyAll config origin now readings node = .ok b →
      ∃ b', f.classifyAll config origin now readings b.node = .ok b' ∧
        b.Renews b' f config origin now readings := by
  intro readings
  induction readings with
  | nil =>
      intro node b _ _ h
      cases h
      exact ⟨_, rfl, rfl, ⟨[], rfl, by simp⟩, by simp⟩
  | cons e rest ih =>
      obtain ⟨m, r⟩ := e
      intro node b hn hnodup h
      obtain ⟨hnot, hnodup⟩ := List.nodup_cons.1 hnodup
      obtain ⟨one, hone, -⟩ := classifyAll_cons h
      obtain ⟨one', hone', hrenews⟩ := renews_classifyOne hk hn hone
      obtain ⟨vs, hvs, hrewrites⟩ := hrenews.node
      have hvsm : ∀ w ∈ vs, w.1 = m := by
        intro w hw
        obtain ⟨e, he, hwe⟩ := (hrewrites w hw).read
        rw [hwe, List.mem_singleton.1 he]
      have hfirst : ∀ e ∈ [(m, r)], e ∈ (m, r) :: rest := by simp
      by_cases hfailure : one.failure = none
      · rw [classifyAll_of_ok hone hfailure] at h
        obtain ⟨others, hothers, rfl⟩ := exists_of_map_eq_ok h
        obtain ⟨others', hothers', hrenews'⟩ :=
          ih (agrees_classifyOne hn hone) hnodup hothers
        obtain ⟨us, hus, hrewrites'⟩ := hrenews'.node
        -- the others leave the metric of the first reading as it was
        have hkept : ∀ e ∈ [(m, r)], ∀ t, one.node.get? e.1 = some t →
            others.node.get? e.1 = some t := by
          intro e he t ht
          rw [List.mem_singleton.1 he] at ht ⊢
          rwa [get?_classifyAll hothers fun e he heq =>
            hnot (List.mem_map.2 ⟨e, he, heq⟩)]
        have hrest : ∀ e ∈ rest, e ∈ (m, r) :: rest := fun e he => List.mem_cons_of_mem _ he
        have hall := classifyAll_again hnot hone' (hrenews.failure.trans hfailure) hvs hvsm hothers
          hothers'
        refine ⟨_, hall, hrenews'.failure, ⟨us ++ vs, ?_, fun w hw => ?_⟩, fun x hx => ?_⟩
        · rw [NodeState.setAll_append, ← hus]
        · rcases List.mem_append.1 hw with hw | hw
          · exact (hrewrites' w hw).mono (fun _ _ _ => id) hrest
          · exact (hrewrites w hw).mono hkept hfirst
        · rcases List.mem_append.1 hx with hx | hx
          · exact (hrenews.findings x hx).mono hkept hfirst
          · exact (hrenews'.findings x hx).mono (fun _ _ _ => id) hrest
      · rw [classifyAll_of_failure hone hfailure] at h
        cases h
        have hfailure' : one'.failure ≠ none := hrenews.failure ▸ hfailure
        exact ⟨one', classifyAll_of_failure hone' hfailure' rest, hrenews.failure,
          ⟨vs, hvs, fun w hw => (hrewrites w hw).mono (fun _ _ _ => id) hfirst⟩,
          fun x hx => (hrenews.findings x hx).mono (fun _ _ _ => id) hfirst⟩

end Family

/-! ## Reports -/

/-- What is remembered about the metrics of the node of a report. -/
def Report.remembered (report : Report M) (store : Store M) : M → Option MetricState :=
  store.state? report.monitoring.origin.parentId report.monitoring.origin.originId

/-- A finding that a report brings each time it is classified, where the store is what was
remembered before. -/
def Report.Brings (report : Report M) (f : Family M) (registry : Registry) (store : Store M)
    (x : Finding M) : Prop :=
  ∃ config now, registry.configFor? report.monitoring.origin.parentId = some config ∧
    report.monitoring.timestamp = .ok now ∧
    x.Renewed f config report.monitoring.origin now (report.remembered store) report.readings

/-- An amendment of a node by increases in a report that are counted once more. -/
structure Amendment.Accrues (x : Amendment M) (report : Report M) (f : Family M)
    (registry : Registry) (store : Store M) : Prop where
  /-- The chain of the report. -/
  parentId : x.parentId = report.monitoring.origin.parentId
  /-- The node of the report. -/
  originId : x.originId = report.monitoring.origin.originId
  /-- Something is written. -/
  nonempty : x.writes ≠ []
  /-- Only increases that are counted once more are written. -/
  writes : ∃ config now, registry.configFor? report.monitoring.origin.parentId = some config ∧
    report.monitoring.timestamp = .ok now ∧
    ∀ w ∈ x.writes, f.Rewrites config now (report.remembered store) report.readings w

theorem Amendment.Accrues.within {x : Amendment M} {report : Report M} {f : Family M}
    {registry : Registry} {store : Store M} (h : x.Accrues report f registry store) :
    x.Within report where
  parentId := h.parentId
  originId := h.originId
  writes := fun w hw => by
    obtain ⟨config, now, -, -, hwrites⟩ := h.writes
    exact (hwrites w hw).read

section Mono

variable {f : Family M} {registry : Registry} {report : Report M} {store store' : Store M}

/-- Only the metrics that the report reads matter. -/
theorem Report.Brings.mono {x : Finding M} (h : report.Brings f registry store x)
    (hstate : ∀ e ∈ report.readings, ∀ t, report.remembered store e.1 = some t →
      report.remembered store' e.1 = some t) :
    report.Brings f registry store' x := by
  obtain ⟨config, now, hconfig, htime, hrenewed⟩ := h
  exact ⟨config, now, hconfig, htime, hrenewed.mono hstate fun _ => id⟩

@[inherit_doc Report.Brings.mono]
theorem Amendment.Accrues.mono {x : Amendment M} (h : x.Accrues report f registry store)
    (hstate : ∀ e ∈ report.readings, ∀ t, report.remembered store e.1 = some t →
      report.remembered store' e.1 = some t) :
    x.Accrues report f registry store' := by
  obtain ⟨config, now, hconfig, htime, hwrites⟩ := h.writes
  exact ⟨h.parentId, h.originId, h.nonempty, config, now, hconfig, htime,
    fun w hw => (hwrites w hw).mono hstate fun _ => id⟩

end Mono

/-- The node of an amendment is remembered. -/
def Store.Remembers (s : Store M) (x : Amendment M) : Prop :=
  (s.node? x.parentId x.originId).isSome = true

theorem Store.Remembers.amendAll {x : Amendment M} :
    ∀ {s : Store M}, s.Remembers x → ∀ ys : List (Amendment M), (s.amendAll ys).Remembers x := by
  intro s hx ys
  induction ys generalizing s with
  | nil => exact hx
  | cons y rest ih =>
      have hy : (s.amend y).Remembers x := by
        rw [Remembers, node?_amend]
        split
        · rfl
        · exact hx
      exact ih hy

/-- What processing reports for the second time comes to: it ends alike, and only increases that are
counted once more are amended. -/
structure Processed.Renews (p p' : Processed M) (f : Family M) (registry : Registry)
    (reports : List (Report M)) : Prop where
  /-- It ends alike. -/
  failure : p'.failure = p.failure
  /-- Only increases that are counted once more are amended. -/
  store : ∃ xs : List (Amendment M), p'.store = p.store.amendAll xs ∧
    ∀ x ∈ xs, x.Fits f registry ∧ p.store.Remembers x ∧
      ∃ report ∈ reports, x.Accrues report f registry p.store
  /-- The findings. -/
  findings : ∀ x ∈ p'.findings, ∃ report ∈ reports, report.Brings f registry p.store x

namespace Family

variable {f : Family M} {registry : Registry}

theorem renews_processReport (hr : registry.Valid) {store : Store M}
    (hs : store.Agrees f registry) {report : Report M}
    (hnodup : (report.readings.map Prod.fst).Nodup) {p : Processed M}
    (h : f.processReport registry store report = .ok p) :
    ∃ p', f.processReport registry p.store report = .ok p' ∧
      p.Renews p' f registry [report] := by
  rcases processReport_cases h with
    ⟨-, rfl⟩ | ⟨e, -, rfl⟩ | ⟨config, now, batch, hconfig, htime, hbatch, rfl⟩
  · exact ⟨_, h, rfl, ⟨[], rfl, by simp⟩, by simp⟩
  · exact ⟨_, h, rfl, ⟨[], rfl, by simp⟩, by simp⟩
  · obtain ⟨name, hname, -⟩ := (Registry.configFor?_eq_some_iff hr.owned).1 hconfig
    obtain ⟨batch', hbatch', hrenews⟩ := renews_classifyAll (hr.nonNegative name config hname)
      report.readings (hs.nodeState hconfig) hnodup hbatch
    obtain ⟨ws, hws, hrewrites⟩ := hrenews.node
    generalize hstore : store.setNode report.monitoring.origin.parentId
      report.monitoring.origin.originId batch.node = s
    have hnode : s.node? report.monitoring.origin.parentId report.monitoring.origin.originId =
        some batch.node := by
      rw [← hstore, Store.node?_setNode, if_pos ⟨rfl, rfl⟩]
    have hremembered : report.remembered s = batch.node.get? := Store.state?_of_node? hnode
    have hreport : f.processReport registry s report = .ok ⟨
        s.setNode report.monitoring.origin.parentId report.monitoring.origin.originId batch'.node,
        batch'.findings, batch'.failure.or report.defect⟩ := by
      simp only [processReport, hconfig, htime, nodeState, hnode, Option.getD_some, hbatch', bind,
        Except.bind, pure, Except.pure]
    refine ⟨_, hreport, by rw [hrenews.failure], ?_, fun x hx =>
      ⟨report, List.mem_singleton_self _, config, now, hconfig, htime, ?_⟩⟩
    · by_cases hempty : ws = []
      · refine ⟨[], ?_, by simp⟩
        show s.setNode _ _ batch'.node = s
        rw [hws, hempty, ← hstore, Store.setNode_setNode]
        rfl
      · let x : Amendment M := {
          parentId := report.monitoring.origin.parentId
          originId := report.monitoring.origin.originId
          fresh := NodeState.new f.metrics f.metricName config
          writes := ws }
        have hx : x.Accrues report f registry s :=
          ⟨rfl, rfl, hempty, config, now, hconfig, htime, hremembered ▸ hrewrites⟩
        refine ⟨[x], ?_, fun y hy => ?_⟩
        · have hamend : s.amendAll [x] = s.amend x := rfl
          rw [hamend, Store.amend, hnode, Option.getD_some, ← hws]
        · obtain rfl := List.mem_singleton.1 hy
          exact ⟨⟨config, hconfig, rfl⟩, by rw [Store.Remembers, hnode]; rfl, report,
            List.mem_singleton_self _, hx⟩
    · show x.Renewed f config report.monitoring.origin now (report.remembered s) report.readings
      rw [hremembered]
      exact hrenews.findings x hx

/-! ## Messages -/

/-- If reports come through different channels, the first one does not see what the others did, nor
they what it does again. -/
theorem processReports_again {source : M → String} {report : Report M} {rest : List (Report M)}
    {one one' others others' : Processed M} {vs : List (Amendment M)}
    (hkeep : report.Keeps source) (hkeeps : ∀ other ∈ rest, other.Keeps source)
    (hchannel : ∀ other ∈ rest, report.channel ≠ other.channel)
    (hone : f.processReport registry one.store report = .ok one') (hfailure : one'.failure = none)
    (hstore : one'.store = one.store.amendAll vs)
    (hvs : ∀ v ∈ vs, v.Fits f registry ∧ v.Within report)
    (hothers : f.processReports registry rest one.store = .ok others)
    (hagain : f.processReports registry rest others.store = .ok others') :
    f.processReports registry (report :: rest) others.store =
      .ok ⟨others'.store.amendAll vs, one'.findings ++ others'.findings, others'.failure⟩ := by
  obtain ⟨ws, hamended, hws⟩ := exists_amendments rest hothers
  have hwsOut : ∀ w ∈ ws, w.Fits f registry ∧ w.Outside report := by
    intro w hw
    obtain ⟨hfits, other, hmem, hwithin⟩ := hws w hw
    exact ⟨hfits, Amendment.outside_of_within hwithin (hkeeps other hmem) hkeep
      (hchannel other hmem).symm⟩
  have hvsOut : ∀ v ∈ vs, v.Fits f registry ∧ ∀ other ∈ rest, v.Outside other := by
    intro v hv
    refine ⟨(hvs v hv).1, fun other hmem => ?_⟩
    exact Amendment.outside_of_within (hvs v hv).2 hkeep (hkeeps other hmem) (hchannel other hmem)
  have hapart : ∀ v ∈ vs, ∀ w ∈ ws, v.Apart w := by
    intro v hv w hw
    obtain ⟨hfits, other, hmem, hwithin⟩ := hws w hw
    exact Amendment.apart_of_within (hvs v hv).2 hwithin (hvs v hv).1 hfits hkeep
      (hkeeps other hmem) (hchannel other hmem)
  have hfirst : f.processReport registry others.store report = .ok (one'.amendAll ws) := by
    rw [hamended, processReport_amendAll hwsOut, hone]
    rfl
  have hbetween : (one'.amendAll ws).store = others.store.amendAll vs := by
    rw [Processed.amendAll, hstore, hamended]
    exact Store.amendAll_comm vs one.store hapart
  have hrest : f.processReports registry rest (one'.amendAll ws).store =
      .ok (others'.amendAll vs) := by
    rw [hbetween, processReports_amendAll hvsOut, hagain]
    rfl
  rw [processReports_of_ok hfirst hfailure, hrest]
  rfl

/-- **Reports that are processed again.**  They come through different channels, so each report
finds what it reads as it left it. -/
theorem renews_processReports (hr : registry.Valid) {source : M → String} :
    ∀ (reports : List (Report M)) {store : Store M} {p : Processed M}, store.Agrees f registry →
      (∀ report ∈ reports, report.Keeps source) → (reports.map (·.source)).Nodup →
      f.processReports registry reports store = .ok p →
      ∃ p', f.processReports registry reports p.store = .ok p' ∧
        p.Renews p' f registry reports := by
  intro reports
  induction reports with
  | nil =>
      intro store p _ _ _ h
      cases h
      exact ⟨_, rfl, rfl, ⟨[], rfl, by simp⟩, by simp⟩
  | cons report rest ih =>
      intro store p hs hkeeps hnodup h
      obtain ⟨hnot, hnodup⟩ := List.nodup_cons.1 hnodup
      have hkeep : report.Keeps source := hkeeps report (List.mem_cons_self ..)
      have hkeeps' : ∀ report ∈ rest, report.Keeps source := fun report hmem =>
        hkeeps report (List.mem_cons_of_mem _ hmem)
      have hchannel : ∀ other ∈ rest, report.channel ≠ other.channel := by
        intro other hmem heq
        have hsource : report.source = other.source := congrArg (·.2.2) heq
        exact hnot (List.mem_map.2 ⟨other, hmem, hsource.symm⟩)
      obtain ⟨one, hone, -⟩ := processReports_cons h
      obtain ⟨one', hone', hrenews⟩ := renews_processReport hr hs hkeep.nodup hone
      obtain ⟨vs, hvs, haccrue⟩ := hrenews.store
      have hvsAccrue : ∀ v ∈ vs, v.Accrues report f registry one.store := by
        intro v hv
        obtain ⟨-, -, report', hmem, hv⟩ := haccrue v hv
        rwa [List.mem_singleton.1 hmem] at hv
      have hfound : ∀ x ∈ one'.findings, report.Brings f registry one.store x := by
        intro x hx
        obtain ⟨report', hmem, hbrings⟩ := hrenews.findings x hx
        rwa [List.mem_singleton.1 hmem] at hbrings
      by_cases hfailure : one.failure = none
      · rw [processReports_of_ok hone hfailure] at h
        obtain ⟨others, hothers, rfl⟩ := exists_of_map_eq_ok h
        obtain ⟨others', hothers', hrenews'⟩ :=
          ih (hs.processReport hr hone) hkeeps' hnodup hothers
        obtain ⟨us, hus, haccrue'⟩ := hrenews'.store
        have hall := processReports_again hkeep hkeeps' hchannel hone'
          (hrenews.failure.trans hfailure) hvs
          (fun v hv => ⟨(haccrue v hv).1, (hvsAccrue v hv).within⟩) hothers hothers'
        obtain ⟨ws, hstore, hws⟩ := exists_amendments rest hothers
        -- the others leave the metrics of the first report as they were
        have hkept : ∀ e ∈ report.readings, ∀ t, report.remembered one.store e.1 = some t →
            report.remembered others.store e.1 = some t := by
          intro e he t ht
          rw [hstore]
          refine Store.state?_amendAll_of_some ws ht fun w hw hparent horigin v hv => ?_
          obtain ⟨-, other, hmem, hwithin⟩ := hws w hw
          exact Amendment.outside_of_within hwithin (hkeeps' other hmem) hkeep
            (hchannel other hmem).symm hparent horigin v hv e he
        refine ⟨_, hall, hrenews'.failure, ⟨us ++ vs, ?_, fun x hx => ?_⟩, fun x hx => ?_⟩
        · rw [Store.amendAll_append, ← hus]
        · rcases List.mem_append.1 hx with hx | hx
          · obtain ⟨hfits, hremembers, other, hmem, haccrues⟩ := haccrue' x hx
            exact ⟨hfits, hremembers, other, List.mem_cons_of_mem _ hmem, haccrues⟩
          · obtain ⟨hfits, hremembers, -⟩ := haccrue x hx
            refine ⟨hfits, ?_, report, List.mem_cons_self .., (hvsAccrue x hx).mono hkept⟩
            rw [hstore]
            exact Store.Remembers.amendAll hremembers ws
        · rcases List.mem_append.1 hx with hx | hx
          · exact ⟨report, List.mem_cons_self .., (hfound x hx).mono hkept⟩
          · obtain ⟨other, hmem, hbrings⟩ := hrenews'.findings x hx
            exact ⟨other, List.mem_cons_of_mem _ hmem, hbrings⟩
      · rw [processReports_of_failure hone hfailure] at h
        cases h
        have hfailure' : one'.failure ≠ none := hrenews.failure ▸ hfailure
        refine ⟨one', processReports_of_failure hone' hfailure' rest, hrenews.failure,
          ⟨vs, hvs, fun v hv => ?_⟩, fun x hx => ⟨report, List.mem_cons_self .., hfound x hx⟩⟩
        obtain ⟨hfits, hremembers, -⟩ := haccrue v hv
        exact ⟨hfits, hremembers, report, List.mem_cons_self .., hvsAccrue v hv⟩

/-- The reports of a message; there are none if it cannot be read. -/
def reports (f : Family M) (payload : List UInt8) : List (Report M) :=
  (f.reports? payload).getD []

/-- **A message that is processed again** is processed to the same end, and all that it amends are
increases that are counted once more. -/
theorem renews_process (sources : f.Sources) (hr : registry.Valid) {store : Store M}
    (hs : store.Agrees f registry) {payload : List UInt8} {p : Processed M}
    (h : f.process registry store payload = .ok p) :
    ∃ p', f.process registry p.store payload = .ok p' ∧
      p.Renews p' f registry (f.reports payload) := by
  rcases process_cases h with ⟨-, rfl⟩ | ⟨reports, hreports, hp⟩
  · exact ⟨_, h, rfl, ⟨[], rfl, by simp⟩, by simp⟩
  · obtain ⟨p', hp', hrenews⟩ := renews_processReports hr reports hs (sources.keeps hreports)
      (sources.nodup hreports) hp
    refine ⟨p', ?_, ?_⟩
    · rw [process, hreports]
      exact hp'
    · rw [Family.reports, hreports]
      exact hrenews

end Family

end NodeAlerts
