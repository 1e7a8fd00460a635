import NodeAlerts.Family.Process
import NodeAlerts.Proofs.Computation

/-!
# How a message is processed, step by step

Processing a message is a sequence of small steps: one for each reading of each report.  A step
either leaves the node alone or replaces the state of one metric by what its rule makes of it
(`classifyOne_cases`), and a report touches one node (`processReport_cases`).  What every step
keeps, a batch of readings and a whole message keep (`classifyAll_induction`, `process_induction`).
-/

namespace NodeAlerts.Family

variable {M : Type} [DecidableEq M] {f : Family M} {config : ChainConfig} {origin : Origin}
  {now : Instant}

/-! ## Readings -/

/-- A reading is passed over, lacks a state, or is classified. -/
theorem classifyOne_cases {node : NodeState M} {m : M} {r : Reading} {b : Batch M}
    (h : f.classifyOne config origin now node m r = .ok b) :
    (config.enabled? (f.metricName m) = none ∧ b = ⟨node, [], none⟩) ∨
    (∃ c, config.enabled? (f.metricName m) = some c ∧ node.get? m = none ∧
      b = ⟨node, [], some (.missingState origin.originId (f.metricName m))⟩) ∨
    ∃ c s step, config.enabled? (f.metricName m) = some c ∧ node.get? m = some s ∧
      r.classify c now s = .ok step ∧
      b = ⟨node.set m step.state, step.events.map (Finding.mk origin now m), none⟩ := by
  rw [classifyOne] at h
  cases hc : config.enabled? (f.metricName m) with
  | none => rw [hc] at h; cases h; exact Or.inl ⟨rfl, rfl⟩
  | some c =>
      rw [hc] at h
      cases hs : node.get? m with
      | none => simp only [hs] at h; cases h; exact Or.inr (Or.inl ⟨c, rfl, rfl, rfl⟩)
      | some s =>
          simp only [hs] at h
          obtain ⟨step, hstep, hb⟩ := exists_of_bind_eq_ok h
          cases hb
          exact Or.inr (Or.inr ⟨c, s, step, rfl, rfl, hstep, rfl⟩)

/-- A batch goes on behind a reading that did not fail. -/
theorem classifyAll_cons {m : M} {r : Reading} {rest : List (M × Reading)} {node : NodeState M}
    {b : Batch M} (h : f.classifyAll config origin now ((m, r) :: rest) node = .ok b) :
    ∃ one, f.classifyOne config origin now node m r = .ok one ∧
      ((one.failure ≠ none ∧ b = one) ∨
        ∃ others, f.classifyAll config origin now rest one.node = .ok others ∧
          b = { others with findings := one.findings ++ others.findings }) := by
  rw [classifyAll] at h
  obtain ⟨one, hone, h⟩ := exists_of_bind_eq_ok h
  refine ⟨one, hone, ?_⟩
  cases hf : one.failure with
  | some e => rw [hf] at h; cases h; exact Or.inl ⟨by simp, rfl⟩
  | none =>
      rw [hf] at h
      obtain ⟨others, hothers, hb⟩ := exists_of_bind_eq_ok h
      cases hb
      exact Or.inr ⟨others, hothers, rfl⟩

theorem classifyAll_of_failure {m : M} {r : Reading} {node : NodeState M} {one : Batch M}
    (hone : f.classifyOne config origin now node m r = .ok one) (hfailure : one.failure ≠ none)
    (rest : List (M × Reading)) :
    f.classifyAll config origin now ((m, r) :: rest) node = .ok one := by
  obtain ⟨e, he⟩ := Option.ne_none_iff_exists'.1 hfailure
  rw [classifyAll, hone]
  simp only [bind, Except.bind, he]
  rfl

theorem classifyAll_of_ok {m : M} {r : Reading} {node : NodeState M} {one : Batch M}
    (hone : f.classifyOne config origin now node m r = .ok one) (hfailure : one.failure = none)
    (rest : List (M × Reading)) :
    f.classifyAll config origin now ((m, r) :: rest) node =
      (f.classifyAll config origin now rest one.node).map fun others =>
        { others with findings := one.findings ++ others.findings } := by
  rw [classifyAll, hone]
  simp only [bind, Except.bind, hfailure]
  cases f.classifyAll config origin now rest one.node <;> rfl

/-- **Induction over the readings of a report.**  The property is one of the node and of what was
found on the way. -/
theorem classifyAll_induction {P : NodeState M → List (Finding M) → Prop} :
    ∀ (readings : List (M × Reading)),
      (∀ node found m r one, (m, r) ∈ readings → P node found →
        f.classifyOne config origin now node m r = .ok one → P one.node (found ++ one.findings)) →
      ∀ node found b, P node found → f.classifyAll config origin now readings node = .ok b →
        P b.node (found ++ b.findings) := by
  intro readings
  induction readings with
  | nil =>
      intro _ node found b hP h
      cases h
      rwa [List.append_nil]
  | cons e rest ih =>
      obtain ⟨m, r⟩ := e
      intro hstep node found b hP h
      obtain ⟨one, hone, hend | ⟨others, hothers, rfl⟩⟩ := classifyAll_cons h
      · rw [hend.2]
        exact hstep node found m r one (List.mem_cons_self ..) hP hone
      · have hP' := hstep node found m r one (List.mem_cons_self ..) hP hone
        rw [← List.append_assoc]
        exact ih (fun node found m r one hmem => hstep node found m r one
          (List.mem_cons_of_mem _ hmem)) one.node (found ++ one.findings) others hP' hothers

/-- The findings of a report are about its node. -/
theorem origin_classifyAll {readings : List (M × Reading)} {node : NodeState M} {b : Batch M}
    (h : f.classifyAll config origin now readings node = .ok b) :
    ∀ x ∈ b.findings, x.origin = origin := by
  have hall : ∀ x ∈ [] ++ b.findings, x.origin = origin := by
    refine classifyAll_induction (P := fun _ found => ∀ x ∈ found, x.origin = origin) readings ?_
      node [] b (by simp) h
    intro node found m r one _ hfound hone x hx
    rcases List.mem_append.1 hx with hx | hx
    · exact hfound x hx
    · rcases classifyOne_cases hone with
        ⟨-, rfl⟩ | ⟨c, -, -, rfl⟩ | ⟨c, s, step, -, -, -, rfl⟩
      · cases hx
      · cases hx
      · obtain ⟨e, -, rfl⟩ := List.mem_map.1 hx
        rfl
  simpa using hall

/-- Where a batch fails, one of its readings fails. -/
theorem classifyAll_failure {P : NodeState M → Prop} {e : ProcessingError} :
    ∀ (readings : List (M × Reading)),
      (∀ node m r one, (m, r) ∈ readings → P node →
        f.classifyOne config origin now node m r = .ok one → P one.node ∧ one.failure ≠ some e) →
      ∀ node b, P node → f.classifyAll config origin now readings node = .ok b →
        b.failure ≠ some e := by
  intro readings
  induction readings with
  | nil => intro _ node b _ h; cases h; simp
  | cons d rest ih =>
      obtain ⟨m, r⟩ := d
      intro hstep node b hP h
      obtain ⟨one, hone, hend | ⟨others, hothers, rfl⟩⟩ := classifyAll_cons h
      · rw [hend.2]
        exact (hstep node m r one (List.mem_cons_self ..) hP hone).2
      · have hP' := (hstep node m r one (List.mem_cons_self ..) hP hone).1
        exact ih (fun node m r one hmem => hstep node m r one (List.mem_cons_of_mem _ hmem))
          one.node others hP' hothers

/-! ## Reports -/

variable {registry : Registry}

/-- A report is passed over, has no time, or touches the one node that it is about. -/
theorem processReport_cases {store : Store M} {report : Report M} {p : Processed M}
    (h : f.processReport registry store report = .ok p) :
    (registry.configFor? report.monitoring.origin.parentId = none ∧ p = ⟨store, [], none⟩) ∨
    (∃ e, report.monitoring.timestamp = .error e ∧ p = ⟨store, [], some e⟩) ∨
    ∃ config now batch,
      registry.configFor? report.monitoring.origin.parentId = some config ∧
      report.monitoring.timestamp = .ok now ∧
      f.classifyAll config report.monitoring.origin now report.readings
        (f.nodeState config store report.monitoring.origin) = .ok batch ∧
      p = ⟨store.setNode report.monitoring.origin.parentId report.monitoring.origin.originId
        batch.node, batch.findings, batch.failure.or report.defect⟩ := by
  rw [processReport] at h
  cases hc : registry.configFor? report.monitoring.origin.parentId with
  | none => simp only [hc] at h; cases h; exact Or.inl ⟨rfl, rfl⟩
  | some config =>
      simp only [hc] at h
      cases ht : report.monitoring.timestamp with
      | error e => rw [ht] at h; cases h; exact Or.inr (Or.inl ⟨e, rfl, rfl⟩)
      | ok now =>
          rw [ht] at h
          obtain ⟨batch, hbatch, hp⟩ := exists_of_bind_eq_ok h
          cases hp
          exact Or.inr (Or.inr ⟨config, now, batch, rfl, rfl, hbatch, rfl⟩)

/-- A message goes on behind a report that did not fail. -/
theorem processReports_cons {report : Report M} {rest : List (Report M)} {store : Store M}
    {p : Processed M} (h : f.processReports registry (report :: rest) store = .ok p) :
    ∃ one, f.processReport registry store report = .ok one ∧
      ((one.failure ≠ none ∧ p = one) ∨
        ∃ others, f.processReports registry rest one.store = .ok others ∧
          p = { others with findings := one.findings ++ others.findings }) := by
  rw [processReports] at h
  obtain ⟨one, hone, h⟩ := exists_of_bind_eq_ok h
  refine ⟨one, hone, ?_⟩
  cases hf : one.failure with
  | some e => rw [hf] at h; cases h; exact Or.inl ⟨by simp, rfl⟩
  | none =>
      rw [hf] at h
      obtain ⟨others, hothers, hp⟩ := exists_of_bind_eq_ok h
      cases hp
      exact Or.inr ⟨others, hothers, rfl⟩

theorem processReports_of_failure {report : Report M} {store : Store M} {one : Processed M}
    (hone : f.processReport registry store report = .ok one) (hfailure : one.failure ≠ none)
    (rest : List (Report M)) :
    f.processReports registry (report :: rest) store = .ok one := by
  obtain ⟨e, he⟩ := Option.ne_none_iff_exists'.1 hfailure
  rw [processReports, hone]
  simp only [bind, Except.bind, he]
  rfl

theorem processReports_of_ok {report : Report M} {store : Store M} {one : Processed M}
    (hone : f.processReport registry store report = .ok one) (hfailure : one.failure = none)
    (rest : List (Report M)) :
    f.processReports registry (report :: rest) store =
      (f.processReports registry rest one.store).map fun others =>
        { others with findings := one.findings ++ others.findings } := by
  rw [processReports, hone]
  simp only [bind, Except.bind, hfailure]
  cases f.processReports registry rest one.store <;> rfl

/-- The reports of a message can be processed in two parts, if none of the first part fails. -/
theorem processReports_append {earlier : List (Report M)} {store : Store M} {q : Processed M}
    (hq : f.processReports registry earlier store = .ok q) (hfailure : q.failure = none)
    (later : List (Report M)) :
    f.processReports registry (earlier ++ later) store =
      (f.processReports registry later q.store).map fun others =>
        { others with findings := q.findings ++ others.findings } := by
  induction earlier generalizing store q with
  | nil =>
      cases hq
      rw [List.nil_append]
      cases f.processReports registry later store <;> rfl
  | cons report rest ih =>
      obtain ⟨one, hone, ⟨hne, rfl⟩ | ⟨others, hothers, rfl⟩⟩ := processReports_cons hq
      · exact absurd hfailure hne
      · by_cases hf : one.failure = none
        · rw [List.cons_append, processReports_of_ok hone hf, ih hothers hfailure]
          cases f.processReports registry later others.store with
          | error e => rfl
          | ok p => simp [Except.map]
        · rw [processReports_of_failure hone hf] at hq
          exact absurd ((congrArg Processed.failure (Except.ok.inj hq)).trans hfailure) hf

theorem processReports_induction {P : Store M → List (Finding M) → Prop} :
    ∀ (reports : List (Report M)),
      (∀ store found report one, report ∈ reports → P store found →
        f.processReport registry store report = .ok one → P one.store (found ++ one.findings)) →
      ∀ store found p, P store found → f.processReports registry reports store = .ok p →
        P p.store (found ++ p.findings) := by
  intro reports
  induction reports with
  | nil =>
      intro _ store found p hP h
      cases h
      rwa [List.append_nil]
  | cons report rest ih =>
      intro hstep store found p hP h
      obtain ⟨one, hone, hend | ⟨others, hothers, rfl⟩⟩ := processReports_cons h
      · rw [hend.2]
        exact hstep store found report one (List.mem_cons_self ..) hP hone
      · have hP' := hstep store found report one (List.mem_cons_self ..) hP hone
        rw [← List.append_assoc]
        exact ih (fun store found report one hmem => hstep store found report one
          (List.mem_cons_of_mem _ hmem)) one.store (found ++ one.findings) others hP' hothers

theorem processReports_failure {P : Store M → Prop} {e : ProcessingError} :
    ∀ (reports : List (Report M)),
      (∀ store report one, report ∈ reports → P store →
        f.processReport registry store report = .ok one → P one.store ∧ one.failure ≠ some e) →
      ∀ store p, P store → f.processReports registry reports store = .ok p →
        p.failure ≠ some e := by
  intro reports
  induction reports with
  | nil => intro _ store p _ h; cases h; simp
  | cons report rest ih =>
      intro hstep store p hP h
      obtain ⟨one, hone, hend | ⟨others, hothers, rfl⟩⟩ := processReports_cons h
      · rw [hend.2]
        exact (hstep store report one (List.mem_cons_self ..) hP hone).2
      · exact ih (fun store report one hmem => hstep store report one (List.mem_cons_of_mem _ hmem))
          one.store others (hstep store report one (List.mem_cons_self ..) hP hone).1 hothers

/-! ## Messages -/

/-- A message cannot be read, or is the list of its reports. -/
theorem process_cases {store : Store M} {payload : List UInt8} {p : Processed M}
    (h : f.process registry store payload = .ok p) :
    (f.reports? payload = none ∧ p = ⟨store, [], some .malformed⟩) ∨
    ∃ reports, f.reports? payload = some reports ∧
      f.processReports registry reports store = .ok p := by
  rw [process] at h
  cases hr : f.reports? payload with
  | none => rw [hr] at h; cases h; exact Or.inl ⟨rfl, rfl⟩
  | some reports => rw [hr] at h; exact Or.inr ⟨reports, rfl, h⟩

/-- **Induction over the reports of a message.** -/
theorem process_induction {P : Store M → List (Finding M) → Prop} {store : Store M}
    {payload : List UInt8} {p : Processed M} (h : f.process registry store payload = .ok p)
    (hstart : P store [])
    (hstep : ∀ reports, f.reports? payload = some reports → ∀ store found report one,
      report ∈ reports → P store found → f.processReport registry store report = .ok one →
        P one.store (found ++ one.findings)) :
    P p.store p.findings := by
  rcases process_cases h with ⟨-, rfl⟩ | ⟨reports, hr, hp⟩
  · exact hstart
  · exact processReports_induction reports (hstep reports hr) store [] p hstart hp

end NodeAlerts.Family
