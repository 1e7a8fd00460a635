import NodeAlerts.Proofs.Process
import NodeAlerts.Proofs.Store

/-!
# What a message changes, and what it does not see

What processing does to the store is a list of amendments: each remembers a node, as a new one if it
was not remembered before, and replaces the states of some of its metrics (`Amendment`).  A report
amends its own node at the metrics that it reads (`Family.exists_amendment`).

Whatever is amended elsewhere is not seen: processing a message after such amendments gives the
same result as processing it before them, and the amendments come on top
(`Family.process_amendAll`).  This holds also where processing fails or has no result.  Amendments
of different things can be made in any order (`Store.amendAll_comm`).
-/

namespace NodeAlerts

variable {M : Type} [DecidableEq M]

/-! ## Nodes -/

namespace NodeState

/-- Replaces the states of metrics, one after another. -/
def setAll (n : NodeState M) (writes : List (M × MetricState)) : NodeState M :=
  writes.foldl (fun n w => n.set w.1 w.2) n

theorem setAll_append (n : NodeState M) (ws ws' : List (M × MetricState)) :
    n.setAll (ws ++ ws') = (n.setAll ws).setAll ws' :=
  List.foldl_append

/-- Of two states for one metric the later counts. -/
theorem set_set (n : NodeState M) (m : M) (s s' : MetricState) :
    (n.set m s).set m s' = n.set m s' := by
  obtain ⟨metrics⟩ := n
  simp only [set, List.map_map, NodeState.mk.injEq]
  apply List.map_congr_left
  intro e _
  by_cases hm : e.1 = m
  · simp [hm]
  · simp [hm]

/-- States of different metrics can be replaced in any order. -/
theorem set_comm (n : NodeState M) {m m' : M} (h : m ≠ m') (s s' : MetricState) :
    (n.set m s).set m' s' = (n.set m' s').set m s := by
  obtain ⟨metrics⟩ := n
  simp only [set, List.map_map, NodeState.mk.injEq]
  apply List.map_congr_left
  intro e _
  by_cases hm : e.1 = m
  · have hm' : e.1 ≠ m' := fun he => h (hm.symm.trans he)
    simp [hm, h]
  · by_cases hm' : e.1 = m'
    · simp [hm', Ne.symm h]
    · simp [hm, hm']

theorem set_setAll {m : M} {s : MetricState} :
    ∀ (ws : List (M × MetricState)) (n : NodeState M), (∀ w ∈ ws, w.1 ≠ m) →
      (n.setAll ws).set m s = (n.set m s).setAll ws := by
  intro ws
  induction ws with
  | nil => intro n _; rfl
  | cons w rest ih =>
      intro n h
      have hw : w.1 ≠ m := h w (List.mem_cons_self ..)
      have hrest : ∀ w ∈ rest, w.1 ≠ m := fun w hmem => h w (List.mem_cons_of_mem _ hmem)
      calc (n.setAll (w :: rest)).set m s
          = ((n.set w.1 w.2).setAll rest).set m s := rfl
        _ = ((n.set w.1 w.2).set m s).setAll rest := ih _ hrest
        _ = ((n.set m s).set w.1 w.2).setAll rest := by rw [set_comm n hw]
        _ = (n.set m s).setAll (w :: rest) := rfl

theorem setAll_comm {ws ws' : List (M × MetricState)} :
    ∀ n : NodeState M, (∀ w ∈ ws, ∀ w' ∈ ws', w.1 ≠ w'.1) →
      (n.setAll ws).setAll ws' = (n.setAll ws').setAll ws := by
  induction ws' with
  | nil => intro n _; rfl
  | cons w' rest ih =>
      intro n h
      have hw' : ∀ w ∈ ws, w.1 ≠ w'.1 := fun w hw => h w hw w' (List.mem_cons_self ..)
      have hrest : ∀ w ∈ ws, ∀ w₁ ∈ rest, w.1 ≠ w₁.1 := fun w hw w₁ hmem =>
        h w hw w₁ (List.mem_cons_of_mem _ hmem)
      calc (n.setAll ws).setAll (w' :: rest)
          = ((n.setAll ws).set w'.1 w'.2).setAll rest := rfl
        _ = ((n.set w'.1 w'.2).setAll ws).setAll rest := by rw [set_setAll ws n hw']
        _ = ((n.set w'.1 w'.2).setAll rest).setAll ws := ih _ hrest
        _ = (n.setAll (w' :: rest)).setAll ws := rfl

theorem get?_setAll {m : M} :
    ∀ (ws : List (M × MetricState)) (n : NodeState M), (∀ w ∈ ws, w.1 ≠ m) →
      (n.setAll ws).get? m = n.get? m := by
  intro ws
  induction ws with
  | nil => intro n _; rfl
  | cons w rest ih =>
      intro n h
      have hw : m ≠ w.1 := Ne.symm (h w (List.mem_cons_self ..))
      have hrest := ih (n.set w.1 w.2) fun w hmem => h w (List.mem_cons_of_mem _ hmem)
      rw [get?_set, if_neg hw] at hrest
      exact hrest

/-- A state is as it was, or as it was set. -/
theorem get?_setAll_cases {m : M} :
    ∀ (ws : List (M × MetricState)) (n : NodeState M), (n.setAll ws).get? m = n.get? m ∨
      ∃ w ∈ ws, w.1 = m ∧ (n.setAll ws).get? m = some w.2 := by
  intro ws
  induction ws with
  | nil => exact fun n => Or.inl rfl
  | cons w rest ih =>
      intro n
      rcases ih (n.set w.1 w.2) with hsame | ⟨v, hv, hset⟩
      · rw [get?_set] at hsame
        split at hsame
        case isTrue hm =>
          subst hm
          cases hs : n.get? w.1 with
          | none => exact Or.inl (hsame.trans (congrArg _ hs))
          | some s => exact Or.inr ⟨w, List.mem_cons_self .., rfl, hsame.trans (congrArg _ hs)⟩
        case isFalse => exact Or.inl hsame
      · exact Or.inr ⟨v, List.mem_cons_of_mem _ hv, hset⟩

end NodeState

/-! ## Stores -/

/-- A change of what is remembered about one node. -/
structure Amendment (M : Type) where
  /-- The chain. -/
  parentId : String
  /-- The node. -/
  originId : String
  /-- What the node starts with, if nothing is remembered about it. -/
  fresh : NodeState M
  /-- The metrics whose states are replaced, with their new states. -/
  writes : List (M × MetricState)

/-- Two amendments are about different metrics, or about different nodes; nodes of one chain start
alike. -/
structure Amendment.Apart (x y : Amendment M) : Prop where
  /-- Nodes of one chain start alike. -/
  fresh : x.parentId = y.parentId → x.fresh = y.fresh
  /-- No metric is amended twice. -/
  writes : x.parentId = y.parentId → x.originId = y.originId →
    ∀ w ∈ x.writes, ∀ w' ∈ y.writes, w.1 ≠ w'.1

namespace Store

/-- Makes an amendment. -/
def amend (s : Store M) (x : Amendment M) : Store M :=
  s.setNode x.parentId x.originId
    (((s.node? x.parentId x.originId).getD x.fresh).setAll x.writes)

/-- Makes amendments one after another. -/
def amendAll (s : Store M) (xs : List (Amendment M)) : Store M := xs.foldl amend s

omit [DecidableEq M] in
/-- Of two states for one node the later counts. -/
theorem setNode_setNode (s : Store M) (p o : String) (n n' : NodeState M) :
    (s.setNode p o n).setNode p o n' = s.setNode p o n' := by
  refine ext_node? (fun p' => ?_) fun p' o' => ?_
  · simp only [hasChain_setNode]
    cases decide (p' = p) <;> rfl
  · simp only [node?_setNode]
    split <;> rfl

omit [DecidableEq M] in
/-- Different nodes can be remembered in any order. -/
theorem setNode_comm (s : Store M) {p o p' o' : String} (h : ¬ (p = p' ∧ o = o'))
    (n n' : NodeState M) :
    (s.setNode p o n).setNode p' o' n' = (s.setNode p' o' n').setNode p o n := by
  refine ext_node? (fun q => ?_) fun q r => ?_
  · simp only [hasChain_setNode]
    exact Bool.or_left_comm ..
  · simp only [node?_setNode]
    by_cases hq : q = p ∧ r = o
    · have hq' : ¬ (q = p' ∧ r = o') := fun hq' => h ⟨hq.1 ▸ hq'.1, hq.2 ▸ hq'.2⟩
      rw [if_neg hq', if_pos hq, if_pos hq]
    · rw [if_neg hq, if_neg hq]

theorem node?_amend (s : Store M) (x : Amendment M) (p o : String) :
    (s.amend x).node? p o =
      if p = x.parentId ∧ o = x.originId then some (((s.node? p o).getD x.fresh).setAll x.writes)
      else s.node? p o := by
  rw [amend, node?_setNode]
  by_cases h : p = x.parentId ∧ o = x.originId
  · rw [if_pos h, if_pos h, h.1, h.2]
  · rw [if_neg h, if_neg h]

theorem hasChain_amend (s : Store M) (x : Amendment M) (p : String) :
    (s.amend x).hasChain p = (decide (p = x.parentId) || s.hasChain p) :=
  hasChain_setNode s x.parentId x.originId p _

theorem amend_comm (s : Store M) {x y : Amendment M} (h : x.Apart y) :
    (s.amend x).amend y = (s.amend y).amend x := by
  refine ext_node? (fun p => ?_) fun p o => ?_
  · simp only [hasChain_amend]
    exact Bool.or_left_comm ..
  · simp only [node?_amend]
    by_cases hx : p = x.parentId ∧ o = x.originId
    · by_cases hy : p = y.parentId ∧ o = y.originId
      · have hparent : x.parentId = y.parentId := hx.1.symm.trans hy.1
        have horigin : x.originId = y.originId := hx.2.symm.trans hy.2
        have hcomm := NodeState.setAll_comm ((s.node? p o).getD y.fresh) (h.writes hparent horigin)
        simp only [if_pos hx, if_pos hy, Option.getD_some, h.fresh hparent, hcomm]
      · simp only [if_pos hx, if_neg hy]
    · simp only [if_neg hx]

theorem amendAll_append (s : Store M) (xs ys : List (Amendment M)) :
    s.amendAll (xs ++ ys) = (s.amendAll xs).amendAll ys :=
  List.foldl_append

theorem amendAll_amend {x : Amendment M} :
    ∀ (ys : List (Amendment M)) (s : Store M), (∀ y ∈ ys, x.Apart y) →
      (s.amend x).amendAll ys = (s.amendAll ys).amend x := by
  intro ys
  induction ys with
  | nil => intro s _; rfl
  | cons y rest ih =>
      intro s h
      have hy : x.Apart y := h y (List.mem_cons_self ..)
      have hrest : ∀ y ∈ rest, x.Apart y := fun y hmem => h y (List.mem_cons_of_mem _ hmem)
      calc (s.amend x).amendAll (y :: rest)
          = ((s.amend x).amend y).amendAll rest := rfl
        _ = ((s.amend y).amend x).amendAll rest := by rw [amend_comm s hy]
        _ = ((s.amend y).amendAll rest).amend x := ih _ hrest
        _ = (s.amendAll (y :: rest)).amend x := rfl

/-- **Amendments of different things can be made in any order.** -/
theorem amendAll_comm {ys : List (Amendment M)} :
    ∀ (xs : List (Amendment M)) (s : Store M), (∀ x ∈ xs, ∀ y ∈ ys, x.Apart y) →
      (s.amendAll xs).amendAll ys = (s.amendAll ys).amendAll xs := by
  intro xs
  induction xs with
  | nil => intro s _; rfl
  | cons x rest ih =>
      intro s h
      have hx : ∀ y ∈ ys, x.Apart y := h x (List.mem_cons_self ..)
      have hrest : ∀ x ∈ rest, ∀ y ∈ ys, x.Apart y := fun x hmem =>
        h x (List.mem_cons_of_mem _ hmem)
      calc (s.amendAll (x :: rest)).amendAll ys
          = ((s.amend x).amendAll rest).amendAll ys := rfl
        _ = ((s.amend x).amendAll ys).amendAll rest := ih _ hrest
        _ = ((s.amendAll ys).amend x).amendAll rest := by rw [amendAll_amend ys s hx]
        _ = (s.amendAll ys).amendAll (x :: rest) := rfl

end Store

/-! ## Readings -/

/-- The outcome of readings of a node at which the states of other metrics are replaced too. -/
def Batch.setAll (b : Batch M) (ws : List (M × MetricState)) : Batch M :=
  { b with node := b.node.setAll ws }

namespace Family

variable {f : Family M} {config : ChainConfig} {origin : Origin} {now : Instant}

theorem classifyOne_setAll {ws : List (M × MetricState)} {m : M} (h : ∀ w ∈ ws, w.1 ≠ m)
    (n : NodeState M) (r : Reading) :
    f.classifyOne config origin now (n.setAll ws) m r =
      (f.classifyOne config origin now n m r).map (·.setAll ws) := by
  rw [classifyOne, classifyOne, NodeState.get?_setAll ws n h]
  cases config.enabled? (f.metricName m) with
  | none => rfl
  | some c =>
      cases n.get? m with
      | none => rfl
      | some s =>
          cases hstep : r.classify c now s with
          | error e => simp only [hstep]; rfl
          | ok step =>
              simp only [hstep, bind, Except.bind, pure, Except.pure, Except.map, Batch.setAll,
                NodeState.set_setAll ws n h]

/-- **Readings see their own metrics only.** -/
theorem classifyAll_setAll {ws : List (M × MetricState)} :
    ∀ (readings : List (M × Reading)) (n : NodeState M),
      (∀ w ∈ ws, ∀ e ∈ readings, w.1 ≠ e.1) →
      f.classifyAll config origin now readings (n.setAll ws) =
        (f.classifyAll config origin now readings n).map (·.setAll ws) := by
  intro readings
  induction readings with
  | nil => intro n _; rfl
  | cons e rest ih =>
      obtain ⟨m, r⟩ := e
      intro n h
      have hone : f.classifyOne config origin now (n.setAll ws) m r =
          (f.classifyOne config origin now n m r).map (·.setAll ws) :=
        classifyOne_setAll (fun w hw => h w hw (m, r) (List.mem_cons_self ..)) n r
      rw [classifyAll, classifyAll, hone]
      cases f.classifyOne config origin now n m r with
      | error e => rfl
      | ok one =>
          obtain ⟨node, findings, failure⟩ := one
          cases failure with
          | some e => rfl
          | none =>
              have hrest := ih node fun w hw e hmem => h w hw e (List.mem_cons_of_mem _ hmem)
              simp only [bind, Except.bind, Except.map, Batch.setAll, hrest]
              cases f.classifyAll config origin now rest node with
              | error e => rfl
              | ok others => rfl

/-- Readings replace states of the metrics that they read. -/
theorem exists_writes {readings : List (M × Reading)} {n : NodeState M} {b : Batch M}
    (h : f.classifyAll config origin now readings n = .ok b) :
    ∃ ws : List (M × MetricState), (∀ w ∈ ws, ∃ e ∈ readings, w.1 = e.1) ∧
      b.node = n.setAll ws := by
  refine classifyAll_induction (P := fun node _ => ∃ ws : List (M × MetricState),
    (∀ w ∈ ws, ∃ e ∈ readings, w.1 = e.1) ∧ node = n.setAll ws) readings ?_ n [] b
    ⟨[], by simp, rfl⟩ h
  rintro node found m r one hmem ⟨ws, hws, rfl⟩ hone
  rcases classifyOne_cases hone with ⟨-, rfl⟩ | ⟨c, -, -, rfl⟩ | ⟨c, s, step, -, -, -, rfl⟩
  · exact ⟨ws, hws, rfl⟩
  · exact ⟨ws, hws, rfl⟩
  · refine ⟨ws ++ [(m, step.state)], fun w hw => ?_, by rw [NodeState.setAll_append]; rfl⟩
    rcases List.mem_append.1 hw with hw | hw
    · exact hws w hw
    · exact ⟨(m, r), hmem, congrArg Prod.fst (List.mem_singleton.1 hw)⟩

/-- A metric that is not read stays as it is. -/
theorem get?_classifyAll {readings : List (M × Reading)} {n : NodeState M} {b : Batch M}
    (h : f.classifyAll config origin now readings n = .ok b) {m : M}
    (hm : ∀ e ∈ readings, e.1 ≠ m) : b.node.get? m = n.get? m := by
  obtain ⟨ws, hws, hnode⟩ := exists_writes h
  rw [hnode]
  refine NodeState.get?_setAll ws n fun w hw => ?_
  obtain ⟨e, he, hwe⟩ := hws w hw
  rw [hwe]
  exact hm e he

end Family

/-! ## Reports -/

/-- An amendment is about a node of a chain that is configured, and such a node starts as the
configuration wants it. -/
def Amendment.Fits (x : Amendment M) (f : Family M) (registry : Registry) : Prop :=
  ∃ config, registry.configFor? x.parentId = some config ∧
    x.fresh = NodeState.new f.metrics f.metricName config

/-- An amendment is about the node of a report, and about metrics that the report reads. -/
structure Amendment.Within (x : Amendment M) (report : Report M) : Prop where
  /-- The chain of the report. -/
  parentId : x.parentId = report.monitoring.origin.parentId
  /-- The node of the report. -/
  originId : x.originId = report.monitoring.origin.originId
  /-- Only metrics that the report reads. -/
  writes : ∀ w ∈ x.writes, ∃ e ∈ report.readings, w.1 = e.1

/-- An amendment is about nothing that a report reads. -/
def Amendment.Outside (x : Amendment M) (report : Report M) : Prop :=
  x.parentId = report.monitoring.origin.parentId → x.originId = report.monitoring.origin.originId →
    ∀ w ∈ x.writes, ∀ e ∈ report.readings, w.1 ≠ e.1

/-- The outcome of a message in a store that is amended elsewhere too. -/
def Processed.amend (p : Processed M) (x : Amendment M) : Processed M :=
  { p with store := p.store.amend x }

@[inherit_doc Processed.amend]
def Processed.amendAll (p : Processed M) (xs : List (Amendment M)) : Processed M :=
  { p with store := p.store.amendAll xs }

/-- What does not see an amendment does not see many of them. -/
theorem amendAll_of_amend {F : Store M → Except Overrun (Processed M)} :
    ∀ (xs : List (Amendment M)) (store : Store M),
      (∀ x ∈ xs, ∀ s, F (s.amend x) = (F s).map (·.amend x)) →
      F (store.amendAll xs) = (F store).map (·.amendAll xs) := by
  intro xs
  induction xs with
  | nil =>
      intro store _
      have hnil : store.amendAll [] = store := rfl
      rw [hnil]
      cases F store with
      | error e => rfl
      | ok p => rfl
  | cons x rest ih =>
      intro store h
      have hrest := ih (store.amend x) fun x hmem => h x (List.mem_cons_of_mem _ hmem)
      rw [h x (List.mem_cons_self ..) store] at hrest
      refine hrest.trans ?_
      cases F store with
      | error e => rfl
      | ok p => rfl

namespace Family

variable {f : Family M} {registry : Registry}

/-- What a report does to the store is an amendment of what it reads, or nothing. -/
theorem exists_amendment {store : Store M} {report : Report M} {p : Processed M}
    (h : f.processReport registry store report = .ok p) :
    ∃ xs : List (Amendment M), p.store = store.amendAll xs ∧
      ∀ x ∈ xs, x.Fits f registry ∧ x.Within report := by
  rcases processReport_cases h with
    ⟨-, rfl⟩ | ⟨e, -, rfl⟩ | ⟨config, now, batch, hconfig, -, hbatch, rfl⟩
  · exact ⟨[], rfl, by simp⟩
  · exact ⟨[], rfl, by simp⟩
  · obtain ⟨ws, hws, hnode⟩ := exists_writes hbatch
    let x : Amendment M := {
      parentId := report.monitoring.origin.parentId
      originId := report.monitoring.origin.originId
      fresh := NodeState.new f.metrics f.metricName config
      writes := ws }
    have hx : x.Fits f registry ∧ x.Within report := ⟨⟨config, hconfig, rfl⟩, rfl, rfl, hws⟩
    refine ⟨[x], ?_, fun y hy => List.mem_singleton.1 hy ▸ hx⟩
    simp only [hnode]
    rfl

/-- **A report sees its own node and metrics only.** -/
theorem processReport_amend {x : Amendment M} {report : Report M} (hfits : x.Fits f registry)
    (hout : x.Outside report) (store : Store M) :
    f.processReport registry (store.amend x) report =
      (f.processReport registry store report).map (·.amend x) := by
  obtain ⟨config', hconfig', hfresh⟩ := hfits
  rw [processReport, processReport]
  cases hconfig : registry.configFor? report.monitoring.origin.parentId with
  | none => rfl
  | some config =>
      cases report.monitoring.timestamp with
      | error e => rfl
      | ok now =>
          by_cases hnode : report.monitoring.origin.parentId = x.parentId ∧
              report.monitoring.origin.originId = x.originId
          · -- the same node: its state is amended at other metrics
            have hsame : config' = config := by
              rw [← hnode.1, hconfig] at hconfig'
              exact (Option.some.inj hconfig').symm
            have hstate : f.nodeState config (store.amend x) report.monitoring.origin =
                (f.nodeState config store report.monitoring.origin).setAll x.writes := by
              rw [nodeState, nodeState, Store.node?_amend, if_pos hnode, hfresh, hsame]
              rfl
            have hbatch : f.classifyAll config report.monitoring.origin now report.readings
                ((f.nodeState config store report.monitoring.origin).setAll x.writes) =
                (f.classifyAll config report.monitoring.origin now report.readings
                  (f.nodeState config store report.monitoring.origin)).map (·.setAll x.writes) :=
              classifyAll_setAll report.readings _ (hout hnode.1.symm hnode.2.symm)
            simp only [hstate, hbatch]
            cases f.classifyAll config report.monitoring.origin now report.readings
              (f.nodeState config store report.monitoring.origin) with
            | error e => rfl
            | ok batch =>
                simp only [bind, Except.bind, pure, Except.pure, Except.map, Processed.amend,
                  Batch.setAll, Store.amend, hnode.1, hnode.2, Store.setNode_setNode,
                  Store.node?_setNode, and_self, if_true, Option.getD_some]
          · -- another node: neither sees the other
            have hnode' : ¬ (x.parentId = report.monitoring.origin.parentId ∧
                x.originId = report.monitoring.origin.originId) := fun he =>
              hnode ⟨he.1.symm, he.2.symm⟩
            have hstate : f.nodeState config (store.amend x) report.monitoring.origin =
                f.nodeState config store report.monitoring.origin := by
              rw [nodeState, nodeState, Store.node?_amend, if_neg hnode]
            simp only [hstate]
            cases f.classifyAll config report.monitoring.origin now report.readings
              (f.nodeState config store report.monitoring.origin) with
            | error e => rfl
            | ok batch =>
                simp only [bind, Except.bind, pure, Except.pure, Except.map, Processed.amend,
                  Store.amend, Store.setNode_comm store hnode', Store.node?_setNode, if_neg hnode']

theorem processReport_amendAll {xs : List (Amendment M)} {report : Report M}
    (h : ∀ x ∈ xs, x.Fits f registry ∧ x.Outside report) (store : Store M) :
    f.processReport registry (store.amendAll xs) report =
      (f.processReport registry store report).map (·.amendAll xs) :=
  amendAll_of_amend (F := fun s => f.processReport registry s report) xs store fun x hx s =>
    processReport_amend (h x hx).1 (h x hx).2 s

/-! ## Messages -/

/-- What reports do to the store are amendments of what they read. -/
theorem exists_amendments :
    ∀ (reports : List (Report M)) {store : Store M} {p : Processed M},
      f.processReports registry reports store = .ok p →
      ∃ xs : List (Amendment M), p.store = store.amendAll xs ∧
        ∀ x ∈ xs, x.Fits f registry ∧ ∃ report ∈ reports, x.Within report := by
  intro reports store p h
  refine processReports_induction (P := fun s _ => ∃ xs : List (Amendment M),
    s = store.amendAll xs ∧ ∀ x ∈ xs, x.Fits f registry ∧ ∃ report ∈ reports, x.Within report)
    reports ?_ store [] p ⟨[], rfl, by simp⟩ h
  rintro s found report one hmem ⟨xs, rfl, hxs⟩ hone
  obtain ⟨ys, hys, hwithin⟩ := exists_amendment hone
  refine ⟨xs ++ ys, by rw [hys, Store.amendAll_append], fun x hx => ?_⟩
  rcases List.mem_append.1 hx with hx | hx
  · exact hxs x hx
  · exact ⟨(hwithin x hx).1, report, hmem, (hwithin x hx).2⟩

theorem processReports_amend {x : Amendment M} (hfits : x.Fits f registry) :
    ∀ (reports : List (Report M)) (store : Store M), (∀ report ∈ reports, x.Outside report) →
      f.processReports registry reports (store.amend x) =
        (f.processReports registry reports store).map (·.amend x) := by
  intro reports
  induction reports with
  | nil => intro store _; rfl
  | cons report rest ih =>
      intro store hout
      have hone := processReport_amend hfits (hout report (List.mem_cons_self ..)) store
      rw [processReports, processReports, hone]
      cases f.processReport registry store report with
      | error e => rfl
      | ok one =>
          obtain ⟨store', findings, failure⟩ := one
          cases failure with
          | some e => rfl
          | none =>
              have hrest := ih store' fun report hmem => hout report (List.mem_cons_of_mem _ hmem)
              simp only [bind, Except.bind, Except.map, Processed.amend, hrest]
              cases f.processReports registry rest store' with
              | error e => rfl
              | ok others => rfl

/-- **Messages see their own nodes and metrics only.**  This also holds where processing them fails
or has no result. -/
theorem processReports_amendAll {reports : List (Report M)} {xs : List (Amendment M)}
    (h : ∀ x ∈ xs, x.Fits f registry ∧ ∀ report ∈ reports, x.Outside report) (store : Store M) :
    f.processReports registry reports (store.amendAll xs) =
      (f.processReports registry reports store).map (·.amendAll xs) :=
  amendAll_of_amend (F := f.processReports registry reports) xs store fun x hx s =>
    processReports_amend (h x hx).1 reports s (h x hx).2

theorem process_amendAll {payload : List UInt8} {xs : List (Amendment M)}
    (h : ∀ reports, f.reports? payload = some reports → ∀ x ∈ xs, x.Fits f registry ∧
      ∀ report ∈ reports, x.Outside report) (store : Store M) :
    f.process registry (store.amendAll xs) payload =
      (f.process registry store payload).map (·.amendAll xs) := by
  rw [process, process]
  cases hreports : f.reports? payload with
  | none => rfl
  | some reports => exact processReports_amendAll (h reports hreports) store

/-- What a message does to the store are amendments of what its reports read. -/
theorem exists_amendments_of_process {payload : List UInt8} {store : Store M} {p : Processed M}
    (h : f.process registry store payload = .ok p) :
    ∃ xs : List (Amendment M), p.store = store.amendAll xs ∧
      ∀ x ∈ xs, x.Fits f registry ∧ ∃ reports, f.reports? payload = some reports ∧
        ∃ report ∈ reports, x.Within report := by
  rcases process_cases h with ⟨-, rfl⟩ | ⟨reports, hreports, hp⟩
  · exact ⟨[], rfl, by simp⟩
  · obtain ⟨xs, hstore, hxs⟩ := exists_amendments reports hp
    refine ⟨xs, hstore, fun x hx => ?_⟩
    obtain ⟨hfits, hwithin⟩ := hxs x hx
    exact ⟨hfits, reports, hreports, hwithin⟩

end Family

end NodeAlerts
