import NodeAlerts.Config.Chain
import NodeAlerts.Proofs.ByteOrder
import NodeAlerts.Proofs.Fields

/-!
# Which documents are configurations

A document is read section by section, in byte order of the keys and without the section that is
passed over (`ChainConfig.sections`).  What is wrong with a section is `ChainConfig.SectionFails`:
it is not an object, one of its fields is wrong, or its chain is not that of the first section.

`document_accepted_iff` says which documents are read, to what configuration, and which error the
others bring.  Behind it stand two facts about the fold over the sections: it fails like a sequence
of checks (`map_foldlM_addSection`), and a configuration that it builds answers for each metric with
the last section of that name (`metric?_foldlM_addSection`).
-/

namespace NodeAlerts.ChainConfig

open NodeAlerts.Json NodeAlerts.Text

/-! ## Sections -/

/-- The sections of a document that are read, in byte order of their keys. -/
def sections (document : Object) : List (String × Value) :=
  (document.erase defaultSection).entries

theorem mem_sections_iff {document : Object} {key : String} {value : Value} :
    (key, value) ∈ sections document ↔
      key ≠ defaultSection ∧ document.get? key = some value := by
  rw [sections, Table.mem_entries_iff, Table.get?_erase]
  by_cases hkey : key = defaultSection
  · simp [hkey]
  · simp [hkey]

theorem pairwise_sections (document : Object) :
    (sections document).Pairwise fun x y => utf8 x.1 < utf8 y.1 :=
  (document.erase defaultSection).increasing.imp fun h => utf8_lt_utf8 h

/-- A section is an object that describes the configuration of a metric. -/
def Gives (x : String × Value) (c : MetricConfig) : Prop :=
  ∃ members, x.2 = .object members ∧ MetricConfig.Describes (Table.ofList members) c

/-- A section cannot be read. -/
inductive Unreadable (x : String × Value) : ConfigError → Prop where
  /-- It is not an object. -/
  | notAnObject (h : ∀ members, x.2 ≠ .object members) : Unreadable x (.notAnObject x.1)
  /-- Something is wrong with a field, and with none before it. -/
  | field {members : List (String × Value)} {f : MetricConfig.Field} {e : ConfigError}
      (hobject : x.2 = .object members)
      (hfirst : FirstWith (fun f : MetricConfig.Field => ∃ e, f.Fails x.1 (Table.ofList members) e)
        MetricConfig.Field.all f)
      (hfails : f.Fails x.1 (Table.ofList members) e) : Unreadable x e

/-- A section of a document cannot be taken. -/
inductive SectionFails (sections : List (String × Value)) (x : String × Value) :
    ConfigError → Prop where
  /-- It cannot be read. -/
  | unreadable {e : ConfigError} (h : Unreadable x e) : SectionFails sections x e
  /-- Its chain is not that of the first section. -/
  | parent {x₀ : String × Value} {rest : List (String × Value)} {c₀ c : MetricConfig}
      (hsections : sections = x₀ :: rest) (hfirst : Gives x₀ c₀) (hgives : Gives x c)
      (hne : c₀.parentId ≠ c.parentId) :
      SectionFails sections x (.conflictingParents c₀.parentId c.parentId)

/-- A section is an object, whose fields are read, or it is none. -/
theorem readSection_cases (x : String × Value) :
    (∃ members, x.2 = .object members ∧
      readSection x.1 x.2 = MetricConfig.ofSection x.1 (Table.ofList members)) ∨
    (∀ members, x.2 ≠ .object members) ∧ readSection x.1 x.2 = .error (.notAnObject x.1) := by
  obtain ⟨key, value⟩ := x
  cases value with
  | object members => exact Or.inl ⟨members, rfl, rfl⟩
  | _ => exact Or.inr ⟨nofun, rfl⟩

theorem readSection_eq_ok_iff {x : String × Value} {c : MetricConfig} :
    readSection x.1 x.2 = .ok c ↔ Gives x c := by
  rcases readSection_cases x with ⟨members, hobject, hread⟩ | ⟨hnot, hread⟩
  · rw [hread, MetricConfig.ofSection_eq_ok_iff]
    constructor
    · exact fun h => ⟨members, hobject, h⟩
    · rintro ⟨members', hobject', h⟩
      rw [hobject] at hobject'
      cases hobject'
      exact h
  · rw [hread]
    exact iff_of_false nofun fun ⟨members, h, _⟩ => hnot members h

theorem readSection_eq_error_iff {x : String × Value} {e : ConfigError} :
    readSection x.1 x.2 = .error e ↔ Unreadable x e := by
  rcases readSection_cases x with ⟨members, hobject, hread⟩ | ⟨hnot, hread⟩
  · rw [hread, MetricConfig.ofSection_eq_error_iff]
    constructor
    · exact fun ⟨f, hfirst, hfails⟩ => .field hobject hfirst hfails
    · rintro (h | ⟨hobject', hfirst, hfails⟩)
      · exact absurd hobject (h members)
      · rw [hobject] at hobject'
        cases hobject'
        exact ⟨_, hfirst, hfails⟩
  · rw [hread]
    constructor
    · rintro ⟨⟩
      exact .notAnObject hnot
    · rintro (h | ⟨hobject, -, -⟩)
      · rfl
      · exact absurd hobject (hnot _)

theorem Gives.unique {x : String × Value} {c c' : MetricConfig} (h : Gives x c)
    (h' : Gives x c') : c = c' :=
  Except.ok.inj ((readSection_eq_ok_iff.2 h).symm.trans (readSection_eq_ok_iff.2 h'))

/-! ## Documents -/

/-- Checks a section behind others of a chain. -/
def checkSection (parentId : String) (x : String × Value) : Except ConfigError Unit := do
  let metric ← readSection x.1 x.2
  if parentId = metric.parentId then .ok ()
  else .error (.conflictingParents parentId metric.parentId)

/-- The first section is added like a further one to a configuration of its chain. -/
theorem addSection_none {x : String × Value} {c : MetricConfig}
    (h : readSection x.1 x.2 = .ok c) :
    addSection none x = addSection (some ⟨c.parentId, ∅⟩) x := by
  rw [addSection, addSection, h]
  simp only [bind, Except.bind, if_true]

/-- A section that passes is put in the place of any before it of the same name. -/
theorem addSection_some_eq_ok_iff {k : ChainConfig} {x : String × Value}
    {k' : Option ChainConfig} :
    addSection (some k) x = .ok k' ↔ ∃ c, readSection x.1 x.2 = .ok c ∧ k.parentId = c.parentId ∧
      k' = some { k with metrics := k.metrics.insert c.name c } := by
  rw [addSection, bind_eq_ok_iff]
  refine exists_congr fun c => and_congr_right fun _ => ?_
  by_cases hparent : k.parentId = c.parentId
  · simp only [hparent, true_and]
    exact ⟨fun h => (Except.ok.inj h).symm, fun h => congrArg Except.ok h.symm⟩
  · simp only [hparent, false_and, iff_false]
    exact nofun

/-- **Adding sections fails like checking them one after another.** -/
theorem map_foldlM_addSection (l : List (String × Value)) (k : ChainConfig) :
    (l.foldlM addSection (some k)).map (fun _ => ()) = l.forM (checkSection k.parentId) := by
  induction l generalizing k with
  | nil => rfl
  | cons x rest ih =>
      rw [List.foldlM_cons, List.forM, checkSection]
      cases hread : readSection x.1 x.2 with
      | error e =>
          simp only [addSection, hread]
          rfl
      | ok c =>
          by_cases hparent : k.parentId = c.parentId
          · have hadd := addSection_some_eq_ok_iff.2 ⟨c, hread, hparent, rfl⟩
            simp only [hadd, bind, Except.bind, if_pos hparent]
            exact ih _
          · simp only [addSection, hread, bind, Except.bind, if_neg hparent]
            rfl

/-- A section configures the metric of a name. -/
def Names (name : String) (x : String × Value) : Prop := ∃ c, Gives x c ∧ c.name = name

/-- **The last section of a name counts**, or what was configured before if there is none. -/
theorem metric?_foldlM_addSection {l : List (String × Value)} {k k' : ChainConfig}
    (h : l.foldlM addSection (some k) = .ok (some k')) (name : String) (c : MetricConfig) :
    k'.metric? name = some c ↔
      (∃ x, LastWith (Names name) l x ∧ Gives x c) ∨
        (∀ x ∈ l, ¬ Names name x) ∧ k.metric? name = some c := by
  induction l generalizing k with
  | nil =>
      cases h
      simp [not_lastWith_nil]
  | cons x rest ih =>
      rw [List.foldlM_cons] at h
      obtain ⟨k₁, hadd, h⟩ := exists_of_bind_eq_ok h
      obtain ⟨d, hread, -, rfl⟩ := addSection_some_eq_ok_iff.1 hadd
      have hd : Gives x d := readSection_eq_ok_iff.1 hread
      have hnames : Names name x ↔ d.name = name :=
        ⟨fun ⟨d', hd', hname⟩ => hd.unique hd' ▸ hname, fun hname => ⟨d, hd, hname⟩⟩
      rw [ih h, metric?, Table.get?_insert]
      by_cases hname : d.name = name
      · have hx : Names name x := hnames.2 hname
        have hgives : some d = some c ↔ Gives x c :=
          ⟨fun h => Option.some.inj h ▸ hd, fun h => congrArg some (hd.unique h)⟩
        rw [if_pos hname.symm, hgives]
        constructor
        · rintro (⟨y, hlast, hy⟩ | ⟨hnone, hc⟩)
          · exact Or.inl ⟨y, lastWith_cons.2 (Or.inl hlast), hy⟩
          · exact Or.inl ⟨x, lastWith_cons.2 (Or.inr ⟨rfl, hx, hnone⟩), hc⟩
        · rintro (⟨y, hlast, hy⟩ | ⟨hnone, -⟩)
          · rcases lastWith_cons.1 hlast with hlast | ⟨rfl, -, hnone⟩
            · exact Or.inl ⟨y, hlast, hy⟩
            · exact Or.inr ⟨hnone, hy⟩
          · exact absurd hx (hnone x (List.mem_cons_self ..))
      · have hx : ¬ Names name x := fun h => hname (hnames.1 h)
        rw [if_neg (Ne.symm hname), List.forall_mem_cons]
        constructor
        · rintro (⟨y, hlast, hy⟩ | ⟨hnone, hc⟩)
          · exact Or.inl ⟨y, lastWith_cons.2 (Or.inl hlast), hy⟩
          · exact Or.inr ⟨⟨hx, hnone⟩, hc⟩
        · rintro (⟨y, hlast, hy⟩ | ⟨⟨-, hnone⟩, hc⟩)
          · rcases lastWith_cons.1 hlast with hlast | ⟨-, hnames, -⟩
            · exact Or.inl ⟨y, hlast, hy⟩
            · exact absurd hnames hx
          · exact Or.inr ⟨hnone, hc⟩

theorem parentId_foldlM_addSection {l : List (String × Value)} {k : ChainConfig}
    {k' : Option ChainConfig} (h : l.foldlM addSection (some k) = .ok k') :
    ∃ k₁, k' = some k₁ ∧ k₁.parentId = k.parentId := by
  refine foldlM_induction (P := fun k' : Option ChainConfig =>
    ∃ k₁, k' = some k₁ ∧ k₁.parentId = k.parentId) ?_ l (some k) k' ⟨k, rfl, rfl⟩ h
  rintro _ x k₂ ⟨k₁, rfl, hparent⟩ hadd
  obtain ⟨c, -, -, rfl⟩ := addSection_some_eq_ok_iff.1 hadd
  exact ⟨_, rfl, hparent⟩

theorem checkSection_eq_ok_iff {parentId : String} {x : String × Value} :
    checkSection parentId x = .ok () ↔ ∃ c, Gives x c ∧ c.parentId = parentId := by
  rw [checkSection, bind_eq_ok_iff]
  refine exists_congr fun c => and_congr readSection_eq_ok_iff ?_
  by_cases hparent : parentId = c.parentId
  · exact iff_of_true (if_pos hparent) hparent.symm
  · rw [if_neg hparent]
    exact iff_of_false nofun (Ne.symm hparent)

theorem checkSection_eq_error_iff {sections rest : List (String × Value)}
    {x₀ x : String × Value} {c₀ : MetricConfig} {e : ConfigError}
    (hsections : sections = x₀ :: rest) (hfirst : Gives x₀ c₀) :
    checkSection c₀.parentId x = .error e ↔ SectionFails sections x e := by
  rw [checkSection]
  cases hread : readSection x.1 x.2 with
  | error e' =>
      have hunreadable : Unreadable x e' := readSection_eq_error_iff.1 hread
      constructor
      · rintro ⟨⟩
        exact .unreadable hunreadable
      · rintro (h | ⟨-, -, hgives, -⟩)
        · rw [← hread, readSection_eq_error_iff.2 h]
          rfl
        · rw [readSection_eq_ok_iff.2 hgives] at hread
          cases hread
  | ok c =>
      have hc : Gives x c := readSection_eq_ok_iff.1 hread
      simp only [bind, Except.bind]
      by_cases hparent : c₀.parentId = c.parentId
      · rw [if_pos hparent]
        refine iff_of_false nofun ?_
        rintro (h | ⟨hsections', hfirst', hgives, hne⟩)
        · rw [readSection_eq_error_iff.2 h] at hread
          cases hread
        · rw [hsections] at hsections'
          cases hsections'
          rw [← hfirst.unique hfirst', ← hc.unique hgives] at hne
          exact hne hparent
      · rw [if_neg hparent]
        constructor
        · rintro ⟨⟩
          exact .parent hsections hfirst hc hparent
        · rintro (h | ⟨hsections', hfirst', hgives, hne⟩)
          · rw [readSection_eq_error_iff.2 h] at hread
            cases hread
          · rw [hsections] at hsections'
            cases hsections'
            rw [hfirst.unique hfirst', hc.unique hgives]

/-- A document has no sections, or its first section cannot be read, or all sections are added to a
configuration of the chain of the first. -/
theorem ofDocument_cases (document : Object) :
    (sections document = [] ∧ ofDocument document = .ok none) ∨
    (∃ x rest e, sections document = x :: rest ∧ Unreadable x e ∧
      ofDocument document = .error e) ∨
    ∃ x rest c, sections document = x :: rest ∧ Gives x c ∧
      ofDocument document = (x :: rest).foldlM addSection (some ⟨c.parentId, ∅⟩) := by
  have hfold : ofDocument document = (sections document).foldlM addSection none := rfl
  rw [hfold]
  cases hsections : sections document with
  | nil => exact Or.inl ⟨rfl, rfl⟩
  | cons x rest =>
      rw [List.foldlM_cons]
      cases hread : readSection x.1 x.2 with
      | error e =>
          refine Or.inr (Or.inl ⟨x, rest, e, rfl, readSection_eq_error_iff.1 hread, ?_⟩)
          rw [addSection, hread]
          rfl
      | ok c =>
          refine Or.inr (Or.inr ⟨x, rest, c, rfl, readSection_eq_ok_iff.1 hread, ?_⟩)
          rw [addSection_none hread, List.foldlM_cons]

theorem sections_eq_nil_iff {document : Object} :
    sections document = [] ↔ ∀ key ≠ defaultSection, document.get? key = none := by
  rw [List.eq_nil_iff_forall_not_mem]
  constructor
  · intro h key hkey
    rw [Option.eq_none_iff_forall_ne_some]
    exact fun value hvalue => h (key, value) (mem_sections_iff.2 ⟨hkey, hvalue⟩)
  · rintro h ⟨key, value⟩ hmem
    obtain ⟨hkey, hvalue⟩ := mem_sections_iff.1 hmem
    rw [h key hkey] at hvalue
    cases hvalue

/-- Whatever the section is that is passed over. -/
theorem ofDocument_insert_default (document : Object) (value : Value) :
    ofDocument (document.insert defaultSection value) = ofDocument document := by
  have herase : (document.insert defaultSection value).erase defaultSection =
      document.erase defaultSection := by
    apply Table.ext_get?
    intro key
    rw [Table.get?_erase, Table.get?_erase, Table.get?_insert]
    by_cases hkey : key = defaultSection
    · rw [if_pos hkey, if_pos hkey]
    · rw [if_neg hkey, if_neg hkey, if_neg hkey]
  rw [ofDocument, ofDocument, herase]

/-- A document is taken to be a configuration. -/
structure Accepts (document : Object) (k : ChainConfig) : Prop where
  /-- It has a section. -/
  nonempty : sections document ≠ []
  /-- All sections configure metrics of the chain. -/
  parent : ∀ x ∈ sections document, ∃ c, Gives x c ∧ c.parentId = k.parentId
  /-- The last section of a name configures its metric. -/
  metric : ∀ name c, k.metric? name = some c ↔
    ∃ x, LastWith (Names name) (sections document) x ∧ Gives x c

theorem Accepts.unique {document : Object} {k k' : ChainConfig} (h : Accepts document k)
    (h' : Accepts document k') : k = k' := by
  have hparent : k.parentId = k'.parentId := by
    obtain ⟨x, hx⟩ := List.exists_mem_of_ne_nil _ h.nonempty
    obtain ⟨c, hc, hk⟩ := h.parent x hx
    obtain ⟨c', hc', hk'⟩ := h'.parent x hx
    rw [← hk, ← hk', hc.unique hc']
  have hmetrics : k.metrics = k'.metrics := by
    apply Table.ext_get?
    intro name
    ext c
    exact (h.metric name c).trans (h'.metric name c).symm
  cases k
  cases k'
  simp only at hparent hmetrics
  rw [hparent, hmetrics]

theorem accepts_of_eq_ok {document : Object} {k : ChainConfig}
    (h : ofDocument document = .ok (some k)) : Accepts document k := by
  rcases ofDocument_cases document with
    ⟨-, hnone⟩ | ⟨x, rest, e, -, -, herror⟩ | ⟨x, rest, c, hsections, hc, hfold⟩
  · rw [hnone] at h
    cases h
  · rw [herror] at h
    cases h
  · rw [hfold] at h
    obtain ⟨_, ⟨⟩, hparent⟩ := parentId_foldlM_addSection h
    have hchecks : (x :: rest).forM (checkSection c.parentId) = .ok () := by
      have hmap := map_foldlM_addSection (x :: rest) ⟨c.parentId, ∅⟩
      rw [h] at hmap
      exact hmap.symm
    refine ⟨by simp [hsections], fun y hy => ?_, fun name d => ?_⟩
    · rw [hsections] at hy
      rw [hparent]
      exact checkSection_eq_ok_iff.1 (forM_eq_ok_iff.1 hchecks y hy)
    · rw [hsections, metric?_foldlM_addSection h name d]
      exact or_iff_left fun hnone => nomatch hnone.2

theorem exists_eq_ok_of_parent {document : Object} {parentId : String}
    (hsome : sections document ≠ [])
    (h : ∀ x ∈ sections document, ∃ c, Gives x c ∧ c.parentId = parentId) :
    ∃ k, ofDocument document = .ok (some k) := by
  rcases ofDocument_cases document with
    ⟨hnil, -⟩ | ⟨x, rest, e, hsections, hunreadable, -⟩ | ⟨x, rest, c, hsections, hc, hfold⟩
  · exact absurd hnil hsome
  · obtain ⟨d, hd, -⟩ := h x (by simp [hsections])
    have hread := readSection_eq_error_iff.2 hunreadable
    rw [readSection_eq_ok_iff.2 hd] at hread
    cases hread
  · obtain ⟨d, hd, rfl⟩ := h x (by simp [hsections])
    have hchecks : (x :: rest).forM (checkSection c.parentId) = .ok () := by
      rw [forM_eq_ok_iff, ← hsections, hc.unique hd]
      exact fun y hy => checkSection_eq_ok_iff.2 (h y hy)
    rw [← map_foldlM_addSection (x :: rest) ⟨c.parentId, ∅⟩, ← hfold] at hchecks
    obtain ⟨k, hk, -⟩ := exists_of_map_eq_ok hchecks
    rw [hfold] at hk
    obtain ⟨k', rfl, -⟩ := parentId_foldlM_addSection hk
    exact ⟨k', hfold.trans hk⟩

theorem ofDocument_eq_some_iff {document : Object} {k : ChainConfig} :
    ofDocument document = .ok (some k) ↔ Accepts document k := by
  constructor
  · exact accepts_of_eq_ok
  · intro h
    obtain ⟨k', hk'⟩ := exists_eq_ok_of_parent h.nonempty h.parent
    rw [h.unique (accepts_of_eq_ok hk'), hk']

theorem ofDocument_eq_none_iff {document : Object} :
    ofDocument document = .ok none ↔ sections document = [] := by
  rcases ofDocument_cases document with
    ⟨hnil, hnone⟩ | ⟨x, rest, e, hsections, -, herror⟩ | ⟨x, rest, c, hsections, -, hfold⟩
  · exact iff_of_true hnone hnil
  · rw [herror, hsections]
    exact iff_of_false nofun nofun
  · rw [hsections]
    refine iff_of_false (fun h => ?_) nofun
    rw [hfold] at h
    obtain ⟨k, hk, -⟩ := parentId_foldlM_addSection h
    cases hk

theorem ofDocument_eq_error_iff {document : Object} {e : ConfigError} :
    ofDocument document = .error e ↔
      ∃ x, FirstWith (fun x => ∃ e, SectionFails (sections document) x e) (sections document) x ∧
        SectionFails (sections document) x e := by
  rcases ofDocument_cases document with
    ⟨hnil, hnone⟩ | ⟨x, rest, e', hsections, hunreadable, herror⟩ |
      ⟨x, rest, c, hsections, hc, hfold⟩
  · rw [hnone, hnil]
    exact iff_of_false nofun fun ⟨x, h, _⟩ => not_firstWith_nil h
  · have hfails : SectionFails (sections document) x e' := .unreadable hunreadable
    have hread := readSection_eq_error_iff.2 hunreadable
    rw [herror]
    constructor
    · rintro ⟨⟩
      refine ⟨x, ?_, hfails⟩
      rw [hsections] at hfails ⊢
      exact firstWith_cons.2 (Or.inl ⟨rfl, e, hfails⟩)
    · rintro ⟨y, hfirst, hy⟩
      rw [hsections] at hfirst hfails hy
      rcases firstWith_cons.1 hfirst with ⟨rfl, -⟩ | ⟨hpasses, -⟩
      · rcases hy with h | ⟨hcons, hgives, -, -⟩
        · rw [readSection_eq_error_iff.2 h] at hread
          cases hread
          rfl
        · cases hcons
          rw [readSection_eq_ok_iff.2 hgives] at hread
          cases hread
      · exact absurd ⟨e', hfails⟩ hpasses
  · rw [← map_eq_error_iff (f := fun _ => ()), hfold, map_foldlM_addSection, ← hsections,
      forM_eq_error_iff]
    simp only [checkSection_eq_error_iff hsections hc]

/-- **Which documents are configurations.** -/
theorem document_accepted_iff (document : Object) :
    (∀ value, ofDocument (document.insert defaultSection value) = ofDocument document) ∧
    (∀ key value, (key, value) ∈ sections document ↔
      key ≠ defaultSection ∧ document.get? key = some value) ∧
    ((sections document).Pairwise fun x y => utf8 x.1 < utf8 y.1) ∧
    (ofDocument document = .ok none ↔ ∀ key ≠ defaultSection, document.get? key = none) ∧
    ((∃ k, ofDocument document = .ok (some k)) ↔ sections document ≠ [] ∧
      ∃ parentId, ∀ x ∈ sections document, ∃ c, Gives x c ∧ c.parentId = parentId) ∧
    (∀ k, ofDocument document = .ok (some k) ↔ Accepts document k) ∧
    ∀ e, ofDocument document = .error e ↔
      ∃ x, FirstWith (fun x => ∃ e, SectionFails (sections document) x e) (sections document) x ∧
        SectionFails (sections document) x e := by
  refine ⟨ofDocument_insert_default document, fun _ _ => mem_sections_iff,
    pairwise_sections document, ofDocument_eq_none_iff.trans sections_eq_nil_iff, ?_,
    fun _ => ofDocument_eq_some_iff, fun _ => ofDocument_eq_error_iff⟩
  constructor
  · rintro ⟨k, hk⟩
    have haccepts : Accepts document k := ofDocument_eq_some_iff.1 hk
    exact ⟨haccepts.nonempty, k.parentId, haccepts.parent⟩
  · rintro ⟨hsome, parentId, hparent⟩
    exact exists_eq_ok_of_parent hsome hparent

end NodeAlerts.ChainConfig
