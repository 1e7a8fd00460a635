import NodeAlerts.Proofs.Agreement
import NodeAlerts.Proofs.Locality
import NodeAlerts.Proofs.Volume

/-!
# The most alerts that one message can give

A `Family.Budget` tells what every node keeps and how much a report can give of a node that keeps
it.  What new nodes have and reports keep, all nodes have after every history, since a changed
configuration forgets its nodes; so no message gives more findings than its reports may spend
(`Alerter.length_findings_le`).

For most reports the rules of their readings tell how much that is.  Prometheus is different: it
reports one code to two metrics, which track different errors.  So never are both errors open
(`Family.not_faultsOpen_classifyAll`), and a round in which Prometheus is monitored resolves one of
them at most (`Family.length_classifyAll_faults_le`).
-/

namespace NodeAlerts

variable {M : Type} [DecidableEq M]

/-! ## Errors of one source -/

namespace Family

/-- The error of a metric is open: the metric is enabled, and what was raised is not resolved. -/
def faultOpen (f : Family M) (k : ChainConfig) (n : NodeState M) (m : M) : Bool :=
  (k.enabled? (f.metricName m)).isSome && (n.get? m).any (·.errorSent)

variable {f : Family M} {k : ChainConfig} {origin : Origin} {now : Instant}

theorem faultOpen_congr {n n' : NodeState M} {m : M} (h : n'.get? m = n.get? m) :
    f.faultOpen k n' m = f.faultOpen k n m := by
  rw [faultOpen, faultOpen, h]

/-- A new node has no open error. -/
theorem faultOpen_new (m : M) :
    f.faultOpen k (.new f.metrics f.metricName k) m = false := by
  rw [faultOpen, NodeState.get?_new]
  by_cases hm : m ∈ f.metrics
  · rw [if_pos hm]
    cases k.metric? (f.metricName m) with
    | none => exact Bool.and_false _
    | some c => exact Bool.and_false _
  · rw [if_neg hm]
    exact Bool.and_false _

/-- What a code makes of the error that a metric tracks. -/
structure Settles (f : Family M) (k : ChainConfig) (m : M) (tracked : Int) (received : Option Int)
    (n : NodeState M) (b : Batch M) : Prop where
  /-- An error that is open was received. -/
  received_of_open : f.faultOpen k b.node m = true → received = some tracked
  /-- The error of a metric that lacks a state is not open. -/
  closed_of_failure : b.failure ≠ none → f.faultOpen k b.node m = false
  /-- Without a code an open error is resolved, and nothing else is found. -/
  length_findings : received = none → b.findings.length = (f.faultOpen k n m).toNat
  /-- Other metrics stay as they are. -/
  get?_other : ∀ other, other ≠ m → b.node.get? other = n.get? other

theorem settles_classifyOne {n : NodeState M} {m : M} {tracked : Int} {received : Option Int}
    {text : String} {b : Batch M}
    (h : f.classifyOne k origin now n m (.fault tracked received text) = .ok b) :
    f.Settles k m tracked received n b := by
  have hclosed : f.faultOpen k n m = false →
      (f.faultOpen k n m = true → received = some tracked) ∧
        (received = none → (0 : Nat) = (f.faultOpen k n m).toNat) := by
    intro hclosed
    rw [hclosed]
    exact ⟨fun hopen => absurd hopen Bool.false_ne_true, fun _ => rfl⟩
  rcases classifyOne_cases h with
    ⟨hc, rfl⟩ | ⟨c, hc, hs, rfl⟩ | ⟨c, s, step, hc, hs, hstep, rfl⟩
  · obtain ⟨hopen, hlength⟩ := hclosed (by rw [faultOpen, hc]; rfl)
    exact ⟨hopen, fun hne => absurd rfl hne, hlength, fun _ _ => rfl⟩
  · have hnone : f.faultOpen k n m = false := by rw [faultOpen, hs]; exact Bool.and_false _
    obtain ⟨hopen, hlength⟩ := hclosed hnone
    exact ⟨hopen, fun _ => hnone, hlength, fun _ _ => rfl⟩
  · have hbefore : f.faultOpen k n m = s.errorSent := by rw [faultOpen, hc, hs]; rfl
    have hafter : f.faultOpen k (n.set m step.state) m = step.state.errorSent := by
      rw [faultOpen, hc, NodeState.get?_set, if_pos rfl, hs]
      rfl
    cases hstep
    refine ⟨fun hopen => ?_, fun hne => absurd rfl hne, fun hnone => ?_, fun other hne => ?_⟩
    · rw [hafter, classifyFault] at hopen
      by_cases hreceived : received = some tracked
      · exact hreceived
      · rw [if_neg hreceived] at hopen
        cases hsent : s.errorSent with
        | true => simp [hsent] at hopen
        | false => simp [hsent] at hopen
    · rw [hbefore, hnone, classifyFault, if_neg (Option.some_ne_none tracked).symm,
        List.length_map]
      cases s.errorSent <;> rfl
    · rw [NodeState.get?_set, if_neg hne]

variable {a b : M} {codeA codeB : Int} {received : Option Int} {text : String}
  {rest : List (M × Reading)} {n : NodeState M} {batch : Batch M}

/-- **Two errors with different codes are not both open** behind a code that is reported to both. -/
theorem not_faultsOpen_classifyAll (hab : a ≠ b) (hcodes : codeA ≠ codeB)
    (ha : ∀ e ∈ rest, e.1 ≠ a) (hb : ∀ e ∈ rest, e.1 ≠ b)
    (h : f.classifyAll k origin now
      ((a, .fault codeA received text) :: (b, .fault codeB received text) :: rest) n =
        .ok batch) :
    ¬ (f.faultOpen k batch.node a = true ∧ f.faultOpen k batch.node b = true) := by
  rintro ⟨hopenA, hopenB⟩
  obtain ⟨one, hone, ⟨hfailure, rfl⟩ | ⟨others, hothers, rfl⟩⟩ := classifyAll_cons h
  · cases hopenA.symm.trans ((settles_classifyOne hone).closed_of_failure hfailure)
  obtain ⟨two, htwo, ⟨hfailure, rfl⟩ | ⟨further, hfurther, rfl⟩⟩ := classifyAll_cons hothers
  · cases hopenB.symm.trans ((settles_classifyOne htwo).closed_of_failure hfailure)
  rw [faultOpen_congr (get?_classifyAll hfurther ha),
    faultOpen_congr ((settles_classifyOne htwo).get?_other a hab)] at hopenA
  rw [faultOpen_congr (get?_classifyAll hfurther hb)] at hopenB
  have hreceivedA := (settles_classifyOne hone).received_of_open hopenA
  have hreceivedB := (settles_classifyOne htwo).received_of_open hopenB
  exact hcodes (Option.some.inj (hreceivedA.symm.trans hreceivedB))

/-- **Of two errors that are not both open one is resolved at most** where no code is received. -/
theorem length_classifyAll_faults_le (hab : a ≠ b)
    (hn : ¬ (f.faultOpen k n a = true ∧ f.faultOpen k n b = true))
    (h : f.classifyAll k origin now
      ((a, .fault codeA none text) :: (b, .fault codeB none text) :: rest) n = .ok batch) :
    batch.findings.length ≤ 1 + mostEvents rest := by
  have hpair : (f.faultOpen k n a).toNat + (f.faultOpen k n b).toNat ≤ 1 := by
    cases hopenA : f.faultOpen k n a with
    | false => simpa using (f.faultOpen k n b).toNat_le
    | true =>
        have hclosedB : f.faultOpen k n b = false := by
          rw [← Bool.not_eq_true]
          exact fun hopenB => hn ⟨hopenA, hopenB⟩
        rw [hclosedB]
        exact Nat.le_refl 1
  obtain ⟨one, hone, ⟨-, rfl⟩ | ⟨others, hothers, rfl⟩⟩ := classifyAll_cons h
  · have hfirst := (settles_classifyOne hone).length_findings rfl
    omega
  have hfirst := (settles_classifyOne hone).length_findings rfl
  have hother := faultOpen_congr (f := f) (k := k)
    ((settles_classifyOne hone).get?_other b (Ne.symm hab))
  obtain ⟨two, htwo, ⟨-, rfl⟩ | ⟨further, hfurther, rfl⟩⟩ := classifyAll_cons hothers
  · have hsecond := (settles_classifyOne htwo).length_findings rfl
    rw [hother] at hsecond
    simp only [List.length_append]
    omega
  · have hsecond := (settles_classifyOne htwo).length_findings rfl
    have hrest := length_classifyAll_le rest _ _ hfurther
    rw [hother] at hsecond
    simp only [List.length_append]
    omega

end Family

/-! ## Budgets -/

/-- What every node of a family keeps, and how much the reports of a message give of nodes that keep
it. -/
structure Family.Budget (f : Family M) where
  /-- What every node keeps under the configuration of its chain. -/
  Keeps : ChainConfig → NodeState M → Prop
  /-- The most findings of a report. -/
  spend : Report M → Nat
  /-- The most findings of a message. -/
  most : Nat
  /-- New nodes keep it. -/
  keeps_new : ∀ k, Keeps k (.new f.metrics f.metricName k)
  /-- A report keeps it, and gives no more than it may spend. -/
  classifyAll : ∀ {payload reports}, f.reports? payload = some reports → ∀ report ∈ reports,
    ∀ {k origin now n b}, Keeps k n → f.classifyAll k origin now report.readings n = .ok b →
      Keeps k b.node ∧ b.findings.length ≤ spend report
  /-- The reports of a message spend no more than the message has. -/
  sum_spend_le : ∀ {payload reports}, f.reports? payload = some reports →
    (reports.map spend).sum ≤ most

namespace Family.Budget

variable {f : Family M} (B : f.Budget) {registry : Registry} {payload : List UInt8}
  {store : Store M}

theorem processReport {reports : List (Report M)} (hreports : f.reports? payload = some reports)
    {report : Report M} (hmem : report ∈ reports) (hs : store.Forall registry B.Keeps)
    {p : Processed M} (h : f.processReport registry store report = .ok p) :
    p.store.Forall registry B.Keeps ∧ p.findings.length ≤ B.spend report := by
  rcases processReport_cases h with ⟨-, rfl⟩ | ⟨e, -, rfl⟩ | ⟨k, now, b, hk, -, hb, rfl⟩
  · exact ⟨hs, Nat.zero_le _⟩
  · exact ⟨hs, Nat.zero_le _⟩
  · obtain ⟨hkeeps, hle⟩ := B.classifyAll hreports report hmem (hs.nodeState B.keeps_new hk) hb
    exact ⟨hs.setNode _ hk hkeeps, hle⟩

theorem processReports {reports : List (Report M)} (hreports : f.reports? payload = some reports) :
    ∀ (later : List (Report M)), later ⊆ reports → ∀ {store : Store M} {p : Processed M},
      store.Forall registry B.Keeps → f.processReports registry later store = .ok p →
        p.store.Forall registry B.Keeps ∧ p.findings.length ≤ (later.map B.spend).sum := by
  intro later
  induction later with
  | nil =>
      intro _ store p hs h
      cases h
      exact ⟨hs, Nat.le_refl 0⟩
  | cons report rest ih =>
      intro hsubset store p hs h
      obtain ⟨one, hone, hcases⟩ := processReports_cons h
      obtain ⟨hkeeps, hle⟩ := B.processReport hreports (hsubset (List.mem_cons_self ..)) hs hone
      rw [List.map_cons, List.sum_cons]
      rcases hcases with ⟨-, rfl⟩ | ⟨others, hothers, rfl⟩
      · exact ⟨hkeeps, by omega⟩
      · obtain ⟨hkeeps', hle'⟩ :=
          ih (fun r hr => hsubset (List.mem_cons_of_mem _ hr)) hkeeps hothers
        rw [List.length_append]
        exact ⟨hkeeps', by omega⟩

/-- **A message keeps what nodes keep, and gives no more than it has.** -/
theorem process (hs : store.Forall registry B.Keeps) {p : Processed M}
    (h : f.process registry store payload = .ok p) :
    p.store.Forall registry B.Keeps ∧ p.findings.length ≤ B.most := by
  rcases process_cases h with ⟨-, rfl⟩ | ⟨reports, hreports, hp⟩
  · exact ⟨hs, Nat.zero_le _⟩
  · obtain ⟨hkeeps, hle⟩ := B.processReports hreports reports (List.Subset.refl reports) hs hp
    exact ⟨hkeeps, Nat.le_trans hle (B.sum_spend_le hreports)⟩

end Family.Budget

namespace Alerter

/-- One message. -/
theorem keeps_handle {f : Family M} (B : f.Budget) {a : Alerter M} (hfamily : a.family = f)
    (howned : a.registry.Owned) (ha : a.store.Forall a.registry B.Keeps) {b : Broker} {m : Message}
    {h : Handled M} (hh : a.handle b m = .ok h) :
    h.alerter.store.Forall h.alerter.registry B.Keeps ∧ h.findings.length ≤ B.most := by
  rcases handle_cases hh with ⟨-, hd⟩ | ⟨name, -, rfl⟩ | ⟨-, rfl⟩
  · obtain ⟨p, hp, rfl⟩ := handleData_eq_ok hd
    obtain ⟨n, -, halerter, -⟩ := settle_eq (a.classified p) b m.tag p.failure.isNone
    rw [hfamily] at hp
    simp only [halerter]
    exact B.process ha hp
  · exact ⟨ha.applyConfig howned name m.payload, Nat.zero_le _⟩
  · exact ⟨ha, Nat.zero_le _⟩

/-- **No message of a history gives more than a message has.** -/
theorem length_findings_le {f : Family M} (B : f.Budget) {settings : Settings} {turns : List Turn}
    {H : History M} (h : (new f settings).history turns = .ok H) :
    ∀ r ∈ H.rounds, r.handled.findings.length ≤ B.most := by
  let P (H : History M) : Prop := (H.alerter.family = f ∧ H.alerter.Agrees ∧
    H.alerter.store.Forall H.alerter.registry B.Keeps) ∧
      ∀ r ∈ H.rounds, r.handled.findings.length ≤ B.most
  have hP : P H := by
    refine history_induction h
      ⟨⟨rfl, agrees_new f settings, Store.Forall.empty _ _⟩, by simp [History.start]⟩ ?_
    rintro K t handled ⟨⟨hfamily, hagrees, hkeeps⟩, hrounds⟩ hh
    obtain ⟨hkeeps', hle⟩ := keeps_handle B hfamily hagrees.registry.owned hkeeps hh
    refine ⟨⟨(sameSetup_handle hh).family.trans hfamily, hagrees.handle hh, hkeeps'⟩, ?_⟩
    simp only [History.add, List.forall_mem_append, List.forall_mem_singleton]
    exact ⟨hrounds, hle⟩
  exact hP.2

end Alerter

/-! ## The families -/

/-- Where the rules alone tell how much a report gives, nodes have nothing to keep. -/
def Family.Budget.ofRules (f : Family M) (most : Nat)
    (hmost : ∀ {payload reports}, f.reports? payload = some reports →
      (reports.map fun report => mostEvents report.readings).sum ≤ most) : f.Budget where
  Keeps _ _ := True
  spend report := mostEvents report.readings
  most := most
  keeps_new _ := trivial
  classifyAll _ report _ _ _ _ n b _ h :=
    ⟨trivial, Family.length_classifyAll_le report.readings n b h⟩
  sum_spend_le := hmost

theorem mostEvents_append {M : Type} (earlier later : List (M × Reading)) :
    mostEvents (earlier ++ later) = mostEvents earlier + mostEvents later := by
  rw [mostEvents, List.map_append, List.sum_append]
  rfl

/-- A failure reports the tracked errors, and the downtime at most. -/
theorem SourceFault.exists_readings_report {M : Type} (f : SourceFault) (source : String)
    (tracked : List (M × Reading)) (m : M) :
    ∃ rest, (f.report source tracked m).readings = tracked ++ rest ∧ (∀ e ∈ rest, e.1 = m) ∧
      mostEvents rest ≤ 1 := by
  have hnone : ∃ rest, tracked = tracked ++ rest ∧ (∀ e ∈ rest, e.1 = m) ∧ mostEvents rest ≤ 1 :=
    ⟨[], (List.append_nil _).symm, nofun, Nat.zero_le 1⟩
  rw [report]
  split
  · exact hnone
  · exact ⟨_, rfl, by simp, Nat.le_refl 1⟩
  · exact hnone

namespace Cosmos

/-- The errors of Prometheus are not both open. -/
def OneFault (k : ChainConfig) (n : NodeState Metric) : Prop :=
  ¬ (family.faultOpen k n .prometheusInvalidUrl = true ∧
    family.faultOpen k n .prometheusMetricNotFound = true)

theorem oneFault_congr {k : ChainConfig} {n n' : NodeState Metric}
    (hurl : n'.get? .prometheusInvalidUrl = n.get? .prometheusInvalidUrl)
    (hmetric : n'.get? .prometheusMetricNotFound = n.get? .prometheusMetricNotFound)
    (h : OneFault k n) : OneFault k n' := by
  rw [OneFault, Family.faultOpen_congr hurl, Family.faultOpen_congr hmetric]
  exact h

theorem oneFault_new (k : ChainConfig) :
    OneFault k (.new family.metrics family.metricName k) := by
  rw [OneFault, Family.faultOpen_new]
  exact fun h => nomatch h.1

/-- Prometheus reports its code to both of its errors, and none if it was monitored. -/
theorem exists_readings_prometheusReport (o : Outcome PrometheusData) :
    ∃ received text rest, (prometheusReport o).readings =
        (.prometheusInvalidUrl, .fault FaultCode.invalidUrl received text) ::
          (.prometheusMetricNotFound, .fault FaultCode.metricNotFound received text) :: rest ∧
      (∀ e ∈ rest, e.1 ≠ .prometheusInvalidUrl) ∧ (∀ e ∈ rest, e.1 ≠ .prometheusMetricNotFound) ∧
      ((received = none ∧ mostEvents rest ≤ 6) ∨ mostEvents rest ≤ 1) := by
  cases o with
  | result m d =>
      obtain ⟨height, peers, mempool⟩ := d
      refine ⟨none, "", _, rfl, ?_, ?_, Or.inl ⟨rfl, ?_⟩⟩
      · cases height <;> cases peers <;> cases mempool <;> simp
      · cases height <;> cases peers <;> cases mempool <;> simp
      · cases height <;> cases peers <;> cases mempool <;>
          simp [mostEvents, Reading.rule, Rule.mostEvents]
  | fault f =>
      obtain ⟨rest, hreadings, hrest, hle⟩ := f.exists_readings_report "prometheus"
        [(.prometheusInvalidUrl, .fault FaultCode.invalidUrl (some f.code) f.message),
          (.prometheusMetricNotFound, .fault FaultCode.metricNotFound (some f.code) f.message)]
        Metric.nodeIsDown
      refine ⟨some f.code, f.message, rest, hreadings, ?_, ?_, Or.inr hle⟩
      · intro e he
        rw [hrest e he]
        exact nofun
      · intro e he
        rw [hrest e he]
        exact nofun

section

variable {k : ChainConfig} {origin : Origin} {now : Instant} {n : NodeState Metric}
  {b : Batch Metric}

/-- Prometheus gives one of two errors, downtime, the height, the peers, and the waiting
transactions. -/
theorem classifyAll_prometheusReport (o : Outcome PrometheusData) (hn : OneFault k n)
    (h : family.classifyAll k origin now (prometheusReport o).readings n = .ok b) :
    OneFault k b.node ∧ b.findings.length ≤ 7 := by
  obtain ⟨received, text, rest, hreadings, hurl, hmetric, hmost⟩ :=
    exists_readings_prometheusReport o
  rw [hreadings] at h
  have hne : Metric.prometheusInvalidUrl ≠ .prometheusMetricNotFound := nofun
  refine ⟨Family.not_faultsOpen_classifyAll hne (by decide) hurl hmetric h, ?_⟩
  rcases hmost with ⟨rfl, hle⟩ | hle
  · have hfindings := Family.length_classifyAll_faults_le hne hn h
    omega
  · have hfindings := Family.length_classifyAll_le _ _ _ h
    have hfaults : mostEvents ((Metric.prometheusInvalidUrl,
        Reading.fault FaultCode.invalidUrl received text) :: (.prometheusMetricNotFound,
          .fault FaultCode.metricNotFound received text) :: rest) = 2 + mostEvents rest :=
      mostEvents_append [_, _] rest
    omega

/-- The other sources leave the errors of Prometheus alone. -/
theorem classifyAll_otherReport {report : Report Metric}
    (hurl : ∀ e ∈ report.readings, e.1 ≠ .prometheusInvalidUrl)
    (hmetric : ∀ e ∈ report.readings, e.1 ≠ .prometheusMetricNotFound)
    (hle : mostEvents report.readings ≤ 4) (hn : OneFault k n)
    (h : family.classifyAll k origin now report.readings n = .ok b) :
    OneFault k b.node ∧ b.findings.length ≤ 4 :=
  ⟨oneFault_congr (Family.get?_classifyAll h hurl) (Family.get?_classifyAll h hmetric) hn,
    Nat.le_trans (Family.length_classifyAll_le _ _ _ h) hle⟩

/-- The REST interface gives an error, slashing, jail, and the active set. -/
theorem classifyAll_cosmosRestReport (o : Outcome CosmosRestData) (hn : OneFault k n)
    (h : family.classifyAll k origin now (cosmosRestReport o).readings n = .ok b) :
    OneFault k b.node ∧ b.findings.length ≤ 4 := by
  cases o with
  | result m d =>
      obtain ⟨slashed, jailed, bond⟩ := d
      refine classifyAll_otherReport ?_ ?_ ?_ hn h <;>
        cases slashed <;> cases jailed <;> cases bond <;>
        simp [cosmosRestReport, mostEvents, Reading.rule, Rule.mostEvents]
  | fault f =>
      refine classifyAll_otherReport ?_ ?_ ?_ hn h <;>
        simp [cosmosRestReport, mostEvents, Reading.rule, Rule.mostEvents]

/-- The RPC interface gives an error, syncing, and the missed blocks. -/
theorem classifyAll_tendermintRpcReport (o : Outcome TendermintRpcData) (hn : OneFault k n)
    (h : family.classifyAll k origin now (tendermintRpcReport o).readings n = .ok b) :
    OneFault k b.node ∧ b.findings.length ≤ 4 := by
  cases o with
  | result m d =>
      obtain ⟨syncing, missed⟩ := d
      refine classifyAll_otherReport ?_ ?_ ?_ hn h <;>
        cases syncing <;> cases missed <;>
        simp [tendermintRpcReport, mostEvents, Reading.rule, Rule.mostEvents]
  | fault f =>
      refine classifyAll_otherReport ?_ ?_ ?_ hn h <;>
        simp [tendermintRpcReport, mostEvents, Reading.rule, Rule.mostEvents]

end

/-- What a report of a source may spend. -/
def spend (report : Report Metric) : Nat := if report.source = "prometheus" then 7 else 4

theorem spend_prometheusReport (o : Outcome PrometheusData) : spend (prometheusReport o) = 7 := by
  have hsource : (prometheusReport o).source = "prometheus" := by
    cases o with
    | result m d => rfl
    | fault f =>
        rw [prometheusReport]
        split <;> rfl
  rw [spend, if_pos hsource]

theorem spend_cosmosRestReport (o : Outcome CosmosRestData) : spend (cosmosRestReport o) = 4 := by
  cases o <;> rfl

theorem spend_tendermintRpcReport (o : Outcome TendermintRpcData) :
    spend (tendermintRpcReport o) = 4 := by
  cases o <;> rfl

/-- The budget of Cosmos messages. -/
def budget : family.Budget where
  Keeps := OneFault
  spend := spend
  most := 15
  keeps_new := oneFault_new
  classifyAll := by
    intro payload reports hreports report hmem k origin now n b hn hb
    obtain ⟨d, -, rfl⟩ := Option.map_eq_some_iff.1 hreports
    simp only [NodeData.reports, List.mem_append, Option.mem_toList, Option.map_eq_some_iff] at hmem
    obtain (⟨o, -, rfl⟩ | ⟨o, -, rfl⟩) | ⟨o, -, rfl⟩ := hmem
    · rw [spend_prometheusReport]
      exact classifyAll_prometheusReport o hn hb
    · rw [spend_cosmosRestReport]
      exact classifyAll_cosmosRestReport o hn hb
    · rw [spend_tendermintRpcReport]
      exact classifyAll_tendermintRpcReport o hn hb
  sum_spend_le := by
    intro payload reports hreports
    obtain ⟨⟨prometheus, rest, rpc⟩, -, rfl⟩ := Option.map_eq_some_iff.1 hreports
    cases prometheus <;> cases rest <;> cases rpc <;>
      simp [NodeData.reports, spend_prometheusReport, spend_cosmosRestReport,
        spend_tendermintRpcReport]

end Cosmos

namespace Substrate

/-- An error, downtime, both heights, the peers, syncing, and slashing. -/
theorem mostEvents_websocketReport_le (o : Outcome WebsocketData) :
    mostEvents (websocketReport o).readings ≤ 8 := by
  cases o with
  | result m d =>
      obtain ⟨best, finalized, peers, syncing, slashed⟩ := d
      cases best <;> cases finalized <;> cases peers <;> cases syncing <;> cases slashed <;>
        simp [websocketReport, mostEvents, Reading.rule, Rule.mostEvents]
  | fault f =>
      obtain ⟨rest, hreadings, -, hle⟩ := f.exists_readings_report "websocket"
        [(.websocketInvalidUrl, .fault FaultCode.invalidUrl (some f.code) f.message)]
        Metric.nodeIsDown
      have hreport : (websocketReport (.fault f)).readings =
          (.websocketInvalidUrl, .fault FaultCode.invalidUrl (some f.code) f.message) :: rest :=
        hreadings
      have hfault : mostEvents ((Metric.websocketInvalidUrl,
          Reading.fault FaultCode.invalidUrl (some f.code) f.message) :: rest) =
            1 + mostEvents rest := mostEvents_append [_] rest
      rw [hreport]
      omega

/-- The budget of Substrate messages. -/
def budget : family.Budget := .ofRules family 8 <| by
  intro payload reports hreports
  obtain ⟨⟨websocket⟩, -, rfl⟩ := Option.map_eq_some_iff.1 hreports
  cases websocket with
  | none => simp [NodeData.reports]
  | some o => simpa [NodeData.reports] using mostEvents_websocketReport_le o

end Substrate

/-- The budget of messages of the sample family: the value. -/
def Sample.budget : Sample.family.Budget := .ofRules Sample.family 2 <| by
  intro payload reports hreports
  obtain ⟨d, -, rfl⟩ := Option.map_eq_some_iff.1 hreports
  simp [NodeData.report, mostEvents, Reading.rule, Rule.mostEvents]

namespace FamilyKind

/-- **Every family has a budget.** -/
def budget : (k : FamilyKind) → k.family.Budget
  | .cosmos => Cosmos.budget
  | .substrate => Substrate.budget
  | .sample => Sample.budget

/-- The most alerts that one message can give: 15 for Cosmos, 8 for Substrate, and 2 for the sample
family. -/
def mostAlerts (k : FamilyKind) : Nat := k.budget.most

end FamilyKind

end NodeAlerts
