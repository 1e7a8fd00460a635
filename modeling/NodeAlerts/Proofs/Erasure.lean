import NodeAlerts.Proofs.Reconfiguration

/-!
# A configuration erases the history of its chain

What data about a chain brings is decided by the configuration in force for the chain and by what is
remembered about its nodes (`Alerter.Alike`): two alerters that agree on both answer alike, and
agree again afterwards (`Alerter.alike_step`).  A configuration that is put in force settles both:
it is the configuration, and nothing is remembered (`Alerter.alike_of_update`).  So two alerters of
one family that accept the same configuration cannot be told apart by data about its chain, whatever
came before (`update_erases_history`).
-/

namespace NodeAlerts

variable {M : Type} [DecidableEq M]

/-! ## Data about one chain -/

/-- What processing a message leaves behind for one chain: its nodes, what was found, and what
failed. -/
def Processed.about (p : Processed M) (parentId : String) :
    Table (NodeState M) × List (Finding M) × Option ProcessingError :=
  (p.store.nodes parentId, p.findings, p.failure)

namespace Family

variable {f : Family M} {r r' : Registry} {parentId : String}

/-- A report reads the configuration of its chain and the nodes of its chain, and nothing else. -/
theorem processReport_congr (hr : r.configFor? parentId = r'.configFor? parentId)
    {s s' : Store M} (hs : s.nodes parentId = s'.nodes parentId) {report : Report M}
    (hreport : report.monitoring.origin.parentId = parentId) :
    (f.processReport r s report).map (·.about parentId) =
      (f.processReport r' s' report).map (·.about parentId) := by
  subst hreport
  rw [processReport, processReport, hr]
  cases r'.configFor? report.monitoring.origin.parentId with
  | none => simp [Except.map, Processed.about, hs]
  | some config =>
      cases report.monitoring.timestamp with
      | error e => simp [Except.map, Processed.about, hs]
      | ok now =>
          have hnode : f.nodeState config s report.monitoring.origin =
              f.nodeState config s' report.monitoring.origin := by
            rw [nodeState, nodeState, Store.node?, Store.node?, hs]
          simp only [hnode]
          cases f.classifyAll config report.monitoring.origin now report.readings
            (f.nodeState config s' report.monitoring.origin) with
          | error e => rfl
          | ok batch =>
              simp [Except.map, bind, Except.bind, pure, Except.pure, Processed.about,
                Store.nodes_setNode, hs]

theorem processReports_congr (hr : r.configFor? parentId = r'.configFor? parentId) :
    ∀ (reports : List (Report M)),
      (∀ report ∈ reports, report.monitoring.origin.parentId = parentId) →
      ∀ s s' : Store M, s.nodes parentId = s'.nodes parentId →
        (f.processReports r reports s).map (·.about parentId) =
          (f.processReports r' reports s').map (·.about parentId) := by
  intro reports
  induction reports with
  | nil => intro _ s s' hs; simp [processReports, Except.map, Processed.about, hs]
  | cons report rest ih =>
      intro hreports s s' hs
      have hone := processReport_congr (f := f) hr hs (hreports report (List.mem_cons_self ..))
      rcases cases_of_map_eq_map hone with ⟨e, h, h'⟩ | ⟨p, p', h, h', hpp⟩
      · rw [processReports, processReports, h, h']
        rfl
      · obtain ⟨hnodes, hrest⟩ := Prod.mk.inj hpp
        obtain ⟨hfindings, hfailure⟩ := Prod.mk.inj hrest
        rw [processReports, processReports, h, h']
        simp only [bind, Except.bind, hfailure]
        cases hf : p'.failure with
        | some e => simp [pure, Except.pure, Except.map, Processed.about, hnodes, hfindings,
            hfailure]
        | none =>
            have hothers := ih (fun report hmem => hreports report (List.mem_cons_of_mem _ hmem))
              p.store p'.store hnodes
            rcases cases_of_map_eq_map hothers with ⟨e, g, g'⟩ | ⟨q, q', g, g', hqq⟩
            · simp only [g, g']
            · simp only [Processed.about, Prod.mk.injEq] at hqq
              simp [g, g', pure, Except.pure, Except.map, Processed.about, hqq, hfindings]

/-- **Data reads its own chain.** -/
theorem process_congr (hr : r.configFor? parentId = r'.configFor? parentId) {s s' : Store M}
    (hs : s.nodes parentId = s'.nodes parentId) {payload : List UInt8}
    (hreports : ∀ reports, f.reports? payload = some reports → ∀ report ∈ reports,
      report.monitoring.origin.parentId = parentId) :
    (f.process r s payload).map (·.about parentId) =
      (f.process r' s' payload).map (·.about parentId) := by
  rw [process, process]
  cases h : f.reports? payload with
  | none => simp [Except.map, Processed.about, hs]
  | some reports => exact processReports_congr hr reports (hreports reports h) s s' hs

/-- A message with data whose sources all name one chain. -/
structure IsDataAbout (f : Family M) (parentId : String) (m : Message) : Prop where
  /-- It is data. -/
  route : (⟨f.name⟩ : Routing).route m.routingKey = .data
  /-- Its sources name the chain. -/
  reports : ∀ reports, f.reports? m.payload = some reports → ∀ report ∈ reports,
    report.monitoring.origin.parentId = parentId

end Family

namespace Alerter

/-! ## Answers -/

/-- What an alerter answers to data: the alerts and the failure, or that it cannot go on. -/
def answer (a : Alerter M) (m : Message) :
    Except Overrun (List Record × Option ProcessingError) :=
  (a.family.process a.registry a.store m.payload).map fun p =>
    (p.findings.map a.family.record, p.failure)

/-- The answers to messages that are handled one after another, as long as the alerter goes on. -/
def answers (a : Alerter M) :
    List Turn → List (Except Overrun (List Record × Option ProcessingError))
  | [] => []
  | t :: rest =>
    a.answer t.message ::
      match a.handle t.broker t.message with
      | .ok handled => handled.alerter.answers rest
      | .error _ => []

/-- Two alerters of one family have the same configuration in force for a chain, and remember the
same about its nodes. -/
structure Alike (a a' : Alerter M) (parentId : String) : Prop where
  /-- They have one family. -/
  family : a'.family = a.family
  /-- They have the same configuration in force. -/
  config : a'.registry.configFor? parentId = a.registry.configFor? parentId
  /-- They remember the same. -/
  nodes : a'.store.nodes parentId = a.store.nodes parentId

variable {a a' : Alerter M} {parentId : String}

/-- **Alike alerters answer alike and stay alike**, whatever their brokers reply. -/
theorem alike_step (h : a.Alike a' parentId) {m : Message}
    (hm : a.family.IsDataAbout parentId m) (b b' : Broker) :
    a'.answer m = a.answer m ∧
      ((∃ e, a.handle b m = .error e ∧ a'.handle b' m = .error e) ∨
        ∃ g g', a.handle b m = .ok g ∧ a'.handle b' m = .ok g' ∧
          g.alerter.family = a.family ∧ g.alerter.Alike g'.alerter parentId) := by
  have hroute : a.routing.route m.routingKey = .data := hm.route
  have hroute' : a'.routing.route m.routingKey = .data := by
    rw [routing, h.family]
    exact hm.route
  have hprocess := Family.process_congr (f := a.family) h.config h.nodes hm.reports
  rcases cases_of_map_eq_map hprocess with ⟨e, hp', hp⟩ | ⟨p', p, hp', hp, hpp⟩
  · have ha' : a'.family.process a'.registry a'.store m.payload = .error e := by
      rw [h.family, hp']
    refine ⟨by rw [answer, answer, ha', hp]; rfl, Or.inl ⟨e, ?_, ?_⟩⟩
    · exact handle_of_process_error hroute hp b
    · exact handle_of_process_error hroute' ha' b'
  · have ha' : a'.family.process a'.registry a'.store m.payload = .ok p' := by
      rw [h.family, hp']
    simp only [Processed.about, Prod.mk.injEq] at hpp
    obtain ⟨hnodes, hfindings, hfailure⟩ := hpp
    refine ⟨?_, Or.inr ?_⟩
    · rw [answer, answer, ha', hp]
      simp only [Except.map, hfindings, hfailure, h.family]
    · obtain ⟨g, outbox, hg, -, hga⟩ := exists_handle_of_process hroute hp b
      obtain ⟨g', outbox', hg', -, hga'⟩ := exists_handle_of_process hroute' ha' b'
      refine ⟨g, g', hg, hg', by rw [hga], ?_⟩
      rw [hga, hga']
      exact ⟨h.family, h.config, hnodes⟩

/-- **Alike alerters answer alike for ever.** -/
theorem answers_of_alike (f : Family M) :
    ∀ (data data' : List Turn) (a a' : Alerter M), a.family = f → a.Alike a' parentId →
      data.map (·.message) = data'.map (·.message) →
      (∀ t ∈ data, f.IsDataAbout parentId t.message) → a'.answers data' = a.answers data := by
  intro data
  induction data with
  | nil =>
      intro data' a a' _ _ hdata _
      have hnil : data' = [] := by simpa using hdata.symm
      rw [hnil]
      rfl
  | cons t rest ih =>
      intro data' a a' hf halike hdata habout
      cases data' with
      | nil => cases hdata
      | cons t' rest' =>
          simp only [List.map_cons, List.cons.injEq] at hdata
          obtain ⟨hmessage, hrest⟩ := hdata
          have hm : a.family.IsDataAbout parentId t.message := by
            rw [hf]
            exact habout t (List.mem_cons_self ..)
          obtain ⟨hanswer, hstep⟩ := alike_step halike hm t.broker t'.broker
          rw [answers, answers, ← hmessage, hanswer]
          rcases hstep with ⟨e, hg, hg'⟩ | ⟨g, g', hg, hg', hfamily, hagain⟩
          · rw [hg, hg']
          · have hothers := ih rest' g.alerter g'.alerter (hfamily.trans hf) hagain hrest
              fun t hmem => habout t (List.mem_cons_of_mem _ hmem)
            rw [hg, hg']
            exact congrArg _ hothers

/-! ## What a configuration settles -/

omit [DecidableEq M] in
/-- An accepted message that leaves its chain name with a chain has put its configuration in
force. -/
theorem earns_of_update (hr : a.registry.Owned) {name : String} {payload : List UInt8}
    {a₁ : Alerter M} (hu : a.update name payload = .ok a₁)
    (hp : a₁.registry.parentOf? name = some parentId) :
    ∃ config, config.parentId = parentId ∧ a.Earns name payload (.installed config) ∧
      a₁.Installed (a.registry.parentOf? name) name config := by
  obtain ⟨v, hv⟩ := a.exists_earns name payload
  have hholds := holds_of_earns hr hv
  cases v with
  | refused =>
      obtain ⟨⟨e, he⟩, -⟩ := hholds
      rw [hu] at he
      cases he
  | installed config =>
      obtain ⟨a₂, hu₂, -, hinstalled⟩ := hholds
      rw [hu] at hu₂
      cases hu₂
      rw [Registry.parentOf?, hinstalled.inForce] at hp
      exact ⟨config, Option.some.inj hp, hv, hinstalled⟩
  | removed =>
      obtain ⟨a₂, hu₂, -, hremoved⟩ := hholds
      rw [hu] at hu₂
      cases hu₂
      rw [Registry.parentOf?, hremoved.noneInForce] at hp
      cases hp

omit [DecidableEq M] in
/-- The configuration that a message puts in force is the one that it carries, whoever accepts
it. -/
theorem installed_unique {name : String} {payload : List UInt8} {config config' : ChainConfig}
    (h : a.Earns name payload (.installed config))
    (h' : a'.Earns name payload (.installed config')) : config' = config := by
  cases h with
  | free hread hdocument _ =>
      cases h' with
      | free hread' hdocument' _ =>
          rw [hread] at hread'
          cases hread'
          rw [hdocument] at hdocument'
          cases hdocument'
          rfl

omit [DecidableEq M] in
/-- **A configuration in force makes alike.** -/
theorem alike_of_update (hr : a.registry.Owned) (hr' : a'.registry.Owned)
    (hfamily : a'.family = a.family) {name : String} {payload : List UInt8} {a₁ a₁' : Alerter M}
    (hu : a.update name payload = .ok a₁) (hp : a₁.registry.parentOf? name = some parentId)
    (hu' : a'.update name payload = .ok a₁') (hp' : a₁'.registry.parentOf? name = some parentId) :
    a₁.Alike a₁' parentId := by
  obtain ⟨config, hparent, hearns, hinstalled⟩ := earns_of_update hr hu hp
  obtain ⟨config', -, hearns', hinstalled'⟩ := earns_of_update hr' hu' hp'
  have hconfig : config' = config := installed_unique hearns hearns'
  subst hconfig
  subst hparent
  refine ⟨?_, ?_, by rw [hinstalled.nodes, hinstalled'.nodes]⟩
  · rw [update_eq_ok hu, update_eq_ok hu']
    exact hfamily
  · have hforce : a₁.registry.configFor? config'.parentId = some config' :=
      (congrArg (· >>= a₁.registry.config?) hinstalled.owner).trans hinstalled.inForce
    have hforce' : a₁'.registry.configFor? config'.parentId = some config' :=
      (congrArg (· >>= a₁'.registry.config?) hinstalled'.owner).trans hinstalled'.inForce
    rw [hforce, hforce']

/-- A configuration message is handled without an alert: nothing is found, no alert is published,
and the outbox stays as it is. -/
theorem handle_config (a : Alerter M) {m : Message} {name : String}
    (hroute : a.routing.route m.routingKey = .config name) (b : Broker) :
    ∃ g, a.handle b m = .ok g ∧ g.alerter = a.applyConfig name m.payload ∧ g.findings = [] ∧
      g.alerter.outbox = a.outbox ∧ g.calls.filterMap Call.alert? = [] := by
  refine ⟨(a.applyConfig name m.payload).acknowledge b m.tag, by rw [handle, hroute], rfl, rfl,
    ?_, rfl⟩
  rw [alerter_acknowledge, applyConfig_eq]

end Alerter

/-- **A configuration erases history.**  Let two alerters of one family have any histories, and let
both accept a configuration message that leaves its chain name with the chain `parentId`.  Handling
it brings no alert.  From then on both answer alike to every sequence of data about the chain,
message by message, whatever their brokers reply: with the same alerts and the same failure, or by
not going on. -/
theorem update_erases_history {f : Family M} {settings settings' : Settings}
    {turns turns' : List Turn} {H H' : History M}
    (h : (Alerter.new f settings).history turns = .ok H)
    (h' : (Alerter.new f settings').history turns' = .ok H') {m : Message} {name parentId : String}
    (hroute : (⟨f.name⟩ : Routing).route m.routingKey = .config name) {a a' : Alerter M}
    (hu : H.alerter.update name m.payload = .ok a)
    (hp : a.registry.parentOf? name = some parentId)
    (hu' : H'.alerter.update name m.payload = .ok a')
    (hp' : a'.registry.parentOf? name = some parentId) (b b' : Broker) :
    ∃ g g', H.alerter.handle b m = .ok g ∧ H'.alerter.handle b' m = .ok g' ∧
      (g.findings = [] ∧ g.alerter.outbox = H.alerter.outbox ∧
        g.calls.filterMap Call.alert? = []) ∧
      (g'.findings = [] ∧ g'.alerter.outbox = H'.alerter.outbox ∧
        g'.calls.filterMap Call.alert? = []) ∧
      ∀ data data' : List Turn, data.map (·.message) = data'.map (·.message) →
        (∀ t ∈ data, f.IsDataAbout parentId t.message) →
        g.alerter.answers data = g'.alerter.answers data' := by
  have hfamily : H.alerter.family = f := (Alerter.sameSetup_history h).family
  have hfamily' : H'.alerter.family = f := (Alerter.sameSetup_history h').family
  have hconfig : H.alerter.routing.route m.routingKey = .config name :=
    ((Alerter.sameSetup_history h).route_eq _).trans hroute
  have hconfig' : H'.alerter.routing.route m.routingKey = .config name :=
    ((Alerter.sameSetup_history h').route_eq _).trans hroute
  obtain ⟨g, hg, hga, hsilent⟩ := H.alerter.handle_config hconfig b
  obtain ⟨g', hg', hga', hsilent'⟩ := H'.alerter.handle_config hconfig' b'
  refine ⟨g, g', hg, hg', hsilent, hsilent', fun data data' hdata habout => ?_⟩
  have halike : a.Alike a' parentId :=
    Alerter.alike_of_update (Alerter.agrees_history h).registry.owned
      (Alerter.agrees_history h').registry.owned (hfamily'.trans hfamily.symm) hu hp hu' hp'
  have hf : a.family = f := by
    rw [Alerter.update_eq_ok hu]
    exact hfamily
  rw [hga, hga', Alerter.applyConfig_of_ok hu, Alerter.applyConfig_of_ok hu']
  exact (Alerter.answers_of_alike f data data' a a' hf halike hdata habout).symm

/-- Every value of a node of `hub` is data about the chain `hub`. -/
theorem isDataAbout_measurement {value seconds : Nat}
    (h : (Sample.family.reports? (Sample.measurement value seconds).payload).map
      (·.map (·.monitoring.origin.parentId)) = some ["hub"]) :
    Sample.family.IsDataAbout "hub" (Sample.measurement value seconds) where
  route := by
    have hkey : (Sample.measurement value seconds).routingKey =
        (⟨Sample.family.name⟩ : Routing).dataKey := rfl
    rw [Routing.route, if_pos hkey]
  reports := by
    intro reports hreports report hmem
    rw [hreports, Option.map_some, Option.some.injEq] at h
    have hparent : report.monitoring.origin.parentId ∈ ["hub"] := h ▸ List.mem_map_of_mem hmem
    exact List.mem_singleton.1 hparent

/-- The value of a node of `hub` falls from 8 to 5. -/
def falling : List Turn :=
  [⟨Sample.measurement 8 2, .agreeing⟩, ⟨Sample.measurement 5 3, .agreeing⟩]

/-- An alerter with an open critical alert and a fresh one: once both have the configuration of
`hub`, both raise a critical alert for the value 8, and replace it by a warning for the value 5. -/
theorem update_erases_history_hub :
    ∃ H g g', (Alerter.new Sample.family Settings.default).history
        [⟨Sample.configuration, .agreeing⟩, ⟨Sample.measurement 8 1, .agreeing⟩] = .ok H ∧
      H.alerter.handle .agreeing Sample.configuration = .ok g ∧
      (Alerter.new Sample.family Settings.default).handle .agreeing Sample.configuration = .ok g' ∧
      g.alerter.answers falling = g'.alerter.answers falling ∧
      (g.alerter.answers falling).map (fun answer => answer.toOption.map (·.1.length)) =
        [some 1, some 2] := by
  have hrun : ((Alerter.new Sample.family Settings.default).history
      [⟨Sample.configuration, .agreeing⟩, ⟨Sample.measurement 8 1, .agreeing⟩]).map
        (fun H => (H.alerter.update "test hub" Sample.configuration.payload).toOption.map
          fun a => a.registry.parentOf? "test hub") = .ok (some (some "hub")) := by decide +kernel
  have hfresh : ((Alerter.new Sample.family Settings.default).update "test hub"
      Sample.configuration.payload).toOption.map (fun a => a.registry.parentOf? "test hub") =
        some (some "hub") := by decide +kernel
  have hanswers : ((Alerter.new Sample.family Settings.default).handle .agreeing
      Sample.configuration).map (fun g => (g.alerter.answers falling).map
        fun answer => answer.toOption.map (·.1.length)) = .ok [some 1, some 2] := by
    decide +kernel
  have haccepts : ∀ a : Alerter Sample.Metric,
      (a.update "test hub" Sample.configuration.payload).toOption.map
        (fun a => a.registry.parentOf? "test hub") = some (some "hub") →
      ∃ a', a.update "test hub" Sample.configuration.payload = .ok a' ∧
        a'.registry.parentOf? "test hub" = some "hub" := by
    intro a ha
    cases hu : a.update "test hub" Sample.configuration.payload with
    | error e => rw [hu] at ha; cases ha
    | ok a' => rw [hu] at ha; exact ⟨a', rfl, Option.some.inj ha⟩
  obtain ⟨H, hH, hupdate⟩ := exists_of_map_eq_ok hrun
  obtain ⟨a, hu, hp⟩ := haccepts _ hupdate
  obtain ⟨a', hu', hp'⟩ := haccepts _ hfresh
  have hroute : (⟨Sample.family.name⟩ : Routing).route Sample.configuration.routingKey =
      .config "test hub" := by decide +kernel
  have hstart : (Alerter.new Sample.family Settings.default).history [] =
      .ok (History.start (Alerter.new Sample.family Settings.default)) := rfl
  obtain ⟨g, g', hg, hg', -, -, hsame⟩ := update_erases_history hH hstart hroute hu hp hu' hp'
    .agreeing .agreeing
  have habout : ∀ t ∈ falling, Sample.family.IsDataAbout "hub" t.message := by
    intro t ht
    simp only [falling, List.mem_cons, List.not_mem_nil, or_false] at ht
    rcases ht with rfl | rfl
    · exact isDataAbout_measurement (by decide +kernel)
    · exact isDataAbout_measurement (by decide +kernel)
  have hboth : g.alerter.answers falling = g'.alerter.answers falling := hsame _ _ rfl habout
  obtain ⟨k, hk, hlengths⟩ := exists_of_map_eq_ok hanswers
  have hsame' : k = g' := Except.ok.inj (hk.symm.trans hg')
  exact ⟨H, g, g', hH, hg, hg', hboth, by rw [hboth, ← hsame', hlengths]⟩

end NodeAlerts
