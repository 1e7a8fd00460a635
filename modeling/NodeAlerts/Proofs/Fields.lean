import NodeAlerts.Config.Metric
import NodeAlerts.Proofs.Computation

/-!
# What a section of a configuration says

A section is read field by field.  Here it is told without the reader what its fields have to say,
and what a configuration has to be to say the same:

* `Scalar.IsFlag`, `IsNumber`, `IsSeconds` and `IsSeverity`: what a text means;
* `MetricConfig.Describes`: a section describes a configuration;
* `MetricConfig.Field.Fails`: what is wrong with a field.

A section that describes a configuration is read as that configuration, and no other is read at all
(`ofSection_eq_ok_iff`); the error is that of the first field, in the order of the fields, with
which something is wrong (`ofSection_eq_error_iff`).
-/

namespace NodeAlerts

open NodeAlerts.Double NodeAlerts.Text NodeAlerts.Json

/-! ## Texts -/

namespace Scalar

/-- A text means yes, or it means no. -/
def IsFlag (text : String) (b : Bool) : Prop :=
  lowerAscii (trim text) ∈ if b then yesNames else noNames

/-- A text is a finite number. -/
def IsNumber (text : String) (x : Float) : Prop :=
  readFloat? (trim text) = some x ∧ isFinite x = true

/-- A text is a length of time in seconds, which is not negative. -/
def IsSeconds (text : String) (d : Span) : Prop :=
  ∃ x, IsNumber text x ∧ ¬ x < 0 ∧ d = spanOfSeconds x

/-- A text is the name of a severity. -/
def IsSeverity (text : String) (s : Severity) : Prop := s.name = upperAscii (trim text)

/-- A reader finds what is meant, and else fails in one way. -/
structure Finds {α : Type} (x : Except ConfigError α) (P : α → Prop) (fault : ConfigError) :
    Prop where
  /-- What is meant is found. -/
  ok : ∀ a, x = .ok a ↔ P a
  /-- If nothing is meant, the reader fails. -/
  error : ∀ e, x = .error e ↔ (∀ a, ¬ P a) ∧ e = fault

/-- A reader that finds only what is meant, and fails only in one way if nothing is, has found what
it should if not two things can be meant. -/
theorem Finds.intro {α : Type} {x : Except ConfigError α} {P : α → Prop} {fault : ConfigError}
    (hunique : ∀ a b, P a → P b → a = b)
    (h : (∃ a, x = .ok a ∧ P a) ∨ (∀ a, ¬ P a) ∧ x = .error fault) : Finds x P fault := by
  rcases h with ⟨a, rfl, ha⟩ | ⟨hnone, rfl⟩
  · constructor
    · intro b
      constructor
      · rintro ⟨⟩
        exact ha
      · intro hb
        rw [hunique a b ha hb]
    · exact fun e => iff_of_false nofun fun h => h.1 a ha
  · constructor
    · exact fun b => iff_of_false nofun (hnone b)
    · intro e
      constructor
      · rintro ⟨⟩
        exact ⟨hnone, rfl⟩
      · rintro ⟨-, rfl⟩
        rfl

variable (field text : String)

/-- No name means both yes and no. -/
theorem not_mem_noNames {name : String} (h : name ∈ yesNames) : name ∉ noNames := by
  have hall : ∀ name ∈ yesNames, name ∉ noNames := by decide
  exact hall name h

theorem finds_readFlag : Finds (readFlag field text) (IsFlag text) (.badFlag field text) := by
  apply Finds.intro
  · intro a b ha hb
    cases a with
    | true =>
        cases b with
        | true => rfl
        | false => exact absurd hb (not_mem_noNames ha)
    | false =>
        cases b with
        | true => exact absurd ha (not_mem_noNames hb)
        | false => rfl
  · rw [readFlag]
    by_cases hyes : lowerAscii (trim text) ∈ yesNames
    · exact Or.inl ⟨true, if_pos hyes, hyes⟩
    · by_cases hno : lowerAscii (trim text) ∈ noNames
      · exact Or.inl ⟨false, (if_neg hyes).trans (if_pos hno), hno⟩
      · refine Or.inr ⟨fun b => ?_, (if_neg hyes).trans (if_neg hno)⟩
        cases b with
        | true => exact hyes
        | false => exact hno

theorem IsNumber.unique {text : String} {x y : Float} (hx : IsNumber text x)
    (hy : IsNumber text y) : x = y :=
  Option.some.inj (hx.1.symm.trans hy.1)

theorem finds_readNumber :
    Finds (readNumber field text) (IsNumber text) (.badNumber field text) := by
  refine Finds.intro (fun x y => IsNumber.unique) ?_
  rw [readNumber]
  cases hread : readFloat? (trim text) with
  | none =>
      refine Or.inr ⟨fun x h => ?_, rfl⟩
      rw [IsNumber, hread] at h
      cases h.1
  | some x =>
      cases hfinite : isFinite x with
      | true =>
          rw [Option.filter_some, if_pos hfinite]
          exact Or.inl ⟨x, rfl, hread, hfinite⟩
      | false =>
          rw [Option.filter_some, hfinite]
          refine Or.inr ⟨fun y h => ?_, rfl⟩
          rw [IsNumber, hread] at h
          obtain ⟨⟨⟩, hy⟩ := h
          rw [hfinite] at hy
          cases hy

theorem finds_readSeconds :
    Finds (readSeconds field text) (IsSeconds text) (.badNumber field text) := by
  apply Finds.intro
  · rintro a b ⟨x, hx, -, rfl⟩ ⟨y, hy, -, rfl⟩
    rw [hx.unique hy]
  · rw [readSeconds]
    have hnumber := finds_readNumber field text
    cases hread : readNumber field text with
    | error e =>
        obtain ⟨hnone, rfl⟩ := (hnumber.error e).1 hread
        exact Or.inr ⟨fun d ⟨x, hx, _⟩ => hnone x hx, rfl⟩
    | ok x =>
        have hx : IsNumber text x := (hnumber.ok x).1 hread
        by_cases hnegative : x < 0
        · refine Or.inr ⟨fun d ⟨y, hy, hy0, _⟩ => ?_, ?_⟩
          · rw [hx.unique hy] at hnegative
            exact hy0 hnegative
          · simp only [bind, Except.bind, if_pos hnegative]
            rfl
        · refine Or.inl ⟨spanOfSeconds x, ?_, x, hx, hnegative, rfl⟩
          simp only [bind, Except.bind, if_neg hnegative]
          rfl

theorem finds_readSeverity :
    Finds (readSeverity text) (IsSeverity text) (.badSeverity text) := by
  apply Finds.intro
  · intro a b ha hb
    have hname : Severity.ofName? a.name = Severity.ofName? b.name := by rw [ha, hb]
    rw [Severity.ofName?_name, Severity.ofName?_name] at hname
    exact Option.some.inj hname
  · rw [readSeverity]
    cases hread : Severity.ofName? (upperAscii (trim text)) with
    | some s =>
        have hs : s.name = upperAscii (trim text) := by
          simpa using List.find?_some hread
        exact Or.inl ⟨s, rfl, hs⟩
    | none =>
        refine Or.inr ⟨fun s hs => ?_, rfl⟩
        rw [← hs, Severity.ofName?_name] at hread
        cases hread

end Scalar

/-! ## Fields -/

namespace MetricConfig

section Readers

variable {α : Type} (sectionKey : String) (fields : Object) (name : String)

/-- A field says something, or nothing; then something else counts. -/
def Says (P : String → α → Prop) (absent a : α) : Prop :=
  match field? fields name with
  | some text => P text a
  | none => a = absent

theorem required_eq_ok_iff {text : String} :
    required sectionKey fields name = .ok text ↔ field? fields name = some text := by
  rw [required]
  cases field? fields name with
  | none => exact ⟨nofun, nofun⟩
  | some t =>
      exact ⟨fun h => congrArg some (Except.ok.inj h), fun h => congrArg _ (Option.some.inj h)⟩

theorem optional_eq_ok_iff (read : String → String → Except ConfigError α)
    {P : String → α → Prop} (hread : ∀ text a, read name text = .ok a ↔ P text a) {absent a : α} :
    optional fields name read absent = .ok a ↔ Says fields name P absent a := by
  rw [optional, Says]
  cases field? fields name with
  | none => exact ⟨fun h => (Except.ok.inj h).symm, fun h => congrArg _ h.symm⟩
  | some text => exact hread text a

end Readers

/-- A text is the name of a severity, which counts. -/
def IsSeverity? (text : String) (s : Option Severity) : Prop :=
  ∃ severity, s = some severity ∧ Scalar.IsSeverity text severity

theorem readSeverity_eq_ok_iff {text : String} {s : Option Severity} :
    (some <$> Scalar.readSeverity text) = .ok s ↔ IsSeverity? text s := by
  have hfinds := Scalar.finds_readSeverity text
  cases hread : Scalar.readSeverity text with
  | error e =>
      obtain ⟨hnone, -⟩ := (hfinds.error e).1 hread
      exact iff_of_false nofun fun ⟨severity, _, h⟩ => hnone severity h
  | ok severity =>
      have h : Scalar.IsSeverity text severity := (hfinds.ok severity).1 hread
      constructor
      · rintro ⟨⟩
        exact ⟨severity, rfl, h⟩
      · rintro ⟨other, rfl, hother⟩
        have hsame : Except.ok severity = .ok other := hread ▸ (hfinds.ok other).2 hother
        rw [Except.ok.inj hsame]
        rfl

/-- A section describes a configuration. -/
structure Describes (fields : Object) (c : MetricConfig) : Prop where
  /-- The name is given. -/
  name : field? fields "name" = some c.name
  /-- The chain is given. -/
  parentId : field? fields "parent_id" = some c.parentId
  /-- Whether the metric is looked at is given. -/
  enabled : ∃ text, field? fields "enabled" = some text ∧ Scalar.IsFlag text c.enabled
  /-- Warnings are raised if the section says so. -/
  warningEnabled : Says fields "warning_enabled" Scalar.IsFlag false c.warning.enabled
  /-- The threshold of warnings is zero unless the section gives one. -/
  warningThreshold : Says fields "warning_threshold" Scalar.IsNumber 0 c.warning.threshold
  /-- Critical alerts are raised if the section says so. -/
  criticalEnabled : Says fields "critical_enabled" Scalar.IsFlag false c.critical.enabled
  /-- The threshold of critical alerts is zero unless the section gives one. -/
  criticalThreshold : Says fields "critical_threshold" Scalar.IsNumber 0 c.critical.threshold
  /-- Critical alerts are repeated if the section says so. -/
  repeats : Says fields "critical_repeat_enabled" Scalar.IsFlag false c.repeats
  /-- There is no time between repeats unless the section gives one. -/
  repeatInterval : Says fields "critical_repeat" Scalar.IsSeconds Span.zero c.repeatInterval
  /-- Warnings do not wait unless the section says how long. -/
  warningWindow : Says fields "warning_time_window" Scalar.IsSeconds Span.zero c.warning.window
  /-- Critical alerts do not wait unless the section says how long. -/
  criticalWindow : Says fields "critical_time_window" Scalar.IsSeconds Span.zero c.critical.window
  /-- There is no severity unless the section gives one. -/
  severity : Says fields "severity" IsSeverity? none c.severity

/-- **A section is read as the configuration that it describes.** -/
theorem ofSection_eq_ok_iff {sectionKey : String} {fields : Object} {c : MetricConfig} :
    ofSection sectionKey fields = .ok c ↔ Describes fields c := by
  have hflag : ∀ name text b, Scalar.readFlag name text = .ok b ↔ Scalar.IsFlag text b :=
    fun name text => (Scalar.finds_readFlag name text).ok
  have hnumber : ∀ name text x, Scalar.readNumber name text = .ok x ↔ Scalar.IsNumber text x :=
    fun name text => (Scalar.finds_readNumber name text).ok
  have hseconds : ∀ name text d, Scalar.readSeconds name text = .ok d ↔ Scalar.IsSeconds text d :=
    fun name text => (Scalar.finds_readSeconds name text).ok
  have hseverity : ∀ s, optional fields "severity" (fun _ text => some <$> Scalar.readSeverity text)
      none = .ok s ↔ Says fields "severity" IsSeverity? none s := by
    intro s
    exact optional_eq_ok_iff fields "severity" (fun _ text => some <$> Scalar.readSeverity text)
      fun text s => readSeverity_eq_ok_iff
  simp only [ofSection, bind_eq_ok_iff, required_eq_ok_iff, hflag,
    optional_eq_ok_iff _ _ _ (hflag _), optional_eq_ok_iff _ _ _ (hnumber _),
    optional_eq_ok_iff _ _ _ (hseconds _), hseverity]
  constructor
  · rintro ⟨name, hname, parentId, hparentId, text, htext, enabled, henabled, warningEnabled,
      hwarningEnabled, warningThreshold, hwarningThreshold, criticalEnabled, hcriticalEnabled,
      criticalThreshold, hcriticalThreshold, repeats, hrepeats, repeatInterval, hrepeatInterval,
      warningWindow, hwarningWindow, criticalWindow, hcriticalWindow, severity, hseverity, ⟨⟩⟩
    exact ⟨hname, hparentId, ⟨text, htext, henabled⟩, hwarningEnabled, hwarningThreshold,
      hcriticalEnabled, hcriticalThreshold, hrepeats, hrepeatInterval, hwarningWindow,
      hcriticalWindow, hseverity⟩
  · rintro ⟨hname, hparentId, ⟨text, htext, henabled⟩, hwarningEnabled, hwarningThreshold,
      hcriticalEnabled, hcriticalThreshold, hrepeats, hrepeatInterval, hwarningWindow,
      hcriticalWindow, hseverity⟩
    exact ⟨_, hname, _, hparentId, text, htext, _, henabled, _, hwarningEnabled, _,
      hwarningThreshold, _, hcriticalEnabled, _, hcriticalThreshold, _, hrepeats, _,
      hrepeatInterval, _, hwarningWindow, _, hcriticalWindow, _, hseverity, rfl⟩

/-! ## What is wrong with a field -/

/-- What the text of a field has to be. -/
inductive Format where
  /-- Any text. -/
  | text
  /-- Yes or no. -/
  | flag
  /-- A finite number. -/
  | number
  /-- A length of time in seconds. -/
  | seconds
  /-- The name of a severity. -/
  | severity

/-- A text is not what it has to be. -/
inductive Format.Refuses (field text : String) : Format → ConfigError → Prop where
  /-- It means neither yes nor no. -/
  | flag (h : ∀ b, ¬ Scalar.IsFlag text b) : Refuses field text .flag (.badFlag field text)
  /-- It is no finite number. -/
  | number (h : ∀ x, ¬ Scalar.IsNumber text x) : Refuses field text .number (.badNumber field text)
  /-- It is no length of time. -/
  | seconds (h : ∀ d, ¬ Scalar.IsSeconds text d) :
      Refuses field text .seconds (.badNumber field text)
  /-- It names no severity. -/
  | severity (h : ∀ s, ¬ Scalar.IsSeverity text s) :
      Refuses field text .severity (.badSeverity text)

/-- Checks whether a text is what it has to be. -/
def Format.check (field text : String) : Format → Except ConfigError Unit
  | .text => .ok ()
  | .flag => (Scalar.readFlag field text).map fun _ => ()
  | .number => (Scalar.readNumber field text).map fun _ => ()
  | .seconds => (Scalar.readSeconds field text).map fun _ => ()
  | .severity => (Scalar.readSeverity text).map fun _ => ()

theorem Format.check_eq_error_iff {field text : String} {format : Format} {e : ConfigError} :
    format.check field text = .error e ↔ format.Refuses field text e := by
  cases format with
  | text => exact iff_of_false nofun nofun
  | flag =>
      rw [check, map_eq_error_iff, (Scalar.finds_readFlag field text).error]
      exact ⟨fun ⟨h, he⟩ => he ▸ .flag h, fun | .flag h => ⟨h, rfl⟩⟩
  | number =>
      rw [check, map_eq_error_iff, (Scalar.finds_readNumber field text).error]
      exact ⟨fun ⟨h, he⟩ => he ▸ .number h, fun | .number h => ⟨h, rfl⟩⟩
  | seconds =>
      rw [check, map_eq_error_iff, (Scalar.finds_readSeconds field text).error]
      exact ⟨fun ⟨h, he⟩ => he ▸ .seconds h, fun | .seconds h => ⟨h, rfl⟩⟩
  | severity =>
      rw [check, map_eq_error_iff, (Scalar.finds_readSeverity text).error]
      exact ⟨fun ⟨h, he⟩ => he ▸ .severity h, fun | .severity h => ⟨h, rfl⟩⟩

/-- A field of a section. -/
structure Field where
  /-- Its name. -/
  name : String
  /-- What its text has to be. -/
  format : Format
  /-- Whether it has to be there. -/
  required : Bool

namespace Field

/-- The fields of a section, in order. -/
def all : List Field :=
  [⟨"name", .text, true⟩, ⟨"parent_id", .text, true⟩, ⟨"enabled", .flag, true⟩,
    ⟨"warning_enabled", .flag, false⟩, ⟨"warning_threshold", .number, false⟩,
    ⟨"critical_enabled", .flag, false⟩, ⟨"critical_threshold", .number, false⟩,
    ⟨"critical_repeat_enabled", .flag, false⟩, ⟨"critical_repeat", .seconds, false⟩,
    ⟨"warning_time_window", .seconds, false⟩, ⟨"critical_time_window", .seconds, false⟩,
    ⟨"severity", .severity, false⟩]

variable (sectionKey : String) (fields : Object)

/-- Something is wrong with a field of a section. -/
inductive Fails (f : Field) : ConfigError → Prop where
  /-- It has to be there, but is not. -/
  | missing (hrequired : f.required = true) (h : field? fields f.name = none) :
      Fails f (.missingField sectionKey f.name)
  /-- Its text is not what it has to be. -/
  | refused {text : String} {e : ConfigError} (htext : field? fields f.name = some text)
      (h : f.format.Refuses f.name text e) : Fails f e

/-- Checks a field of a section. -/
def check (f : Field) : Except ConfigError Unit :=
  match field? fields f.name with
  | some text => f.format.check f.name text
  | none => if f.required then .error (.missingField sectionKey f.name) else .ok ()

variable {sectionKey fields}

theorem check_eq_error_iff {f : Field} {e : ConfigError} :
    f.check sectionKey fields = .error e ↔ f.Fails sectionKey fields e := by
  rw [check]
  cases htext : field? fields f.name with
  | some text =>
      constructor
      · exact fun h => .refused htext (Format.check_eq_error_iff.1 h)
      · rintro (⟨-, h⟩ | ⟨h, hrefuses⟩)
        · rw [htext] at h
          cases h
        · rw [htext] at h
          cases h
          exact Format.check_eq_error_iff.2 hrefuses
  | none =>
      cases hrequired : f.required with
      | true =>
          constructor
          · rintro ⟨⟩
            exact .missing hrequired htext
          · rintro (⟨-, -⟩ | ⟨h, -⟩)
            · rfl
            · rw [htext] at h
              cases h
      | false =>
          refine iff_of_false nofun ?_
          rintro (⟨h, -⟩ | ⟨h, -⟩)
          · rw [hrequired] at h
            cases h
          · rw [htext] at h
            cases h

end Field

section Checks

variable {α : Type} {sectionKey : String} {fields : Object} {name : String}

theorem map_required : (required sectionKey fields name).map (fun _ => ()) =
    Field.check sectionKey fields ⟨name, .text, true⟩ := by
  rw [required, Field.check]
  cases field? fields name <;> rfl

theorem map_required_flag :
    (required sectionKey fields name >>= Scalar.readFlag name).map (fun _ => ()) =
      Field.check sectionKey fields ⟨name, .flag, true⟩ := by
  rw [required, Field.check]
  cases field? fields name with
  | some text => simp only [bind, Except.bind, Format.check]
  | none => simp only [bind, Except.bind, Except.map, if_true]

theorem map_optional (read : String → String → Except ConfigError α) (absent : α)
    (format : Format)
    (hread : ∀ text, (read name text).map (fun _ => ()) = format.check name text) :
    (optional fields name read absent).map (fun _ => ()) =
      Field.check sectionKey fields ⟨name, format, false⟩ := by
  rw [optional, Field.check]
  cases field? fields name with
  | some text => exact hread text
  | none => rfl

theorem map_optional_flag : (optional fields name Scalar.readFlag false).map (fun _ => ()) =
    Field.check sectionKey fields ⟨name, .flag, false⟩ :=
  map_optional Scalar.readFlag false .flag fun _ => rfl

theorem map_optional_number : (optional fields name Scalar.readNumber 0).map (fun _ => ()) =
    Field.check sectionKey fields ⟨name, .number, false⟩ :=
  map_optional Scalar.readNumber 0 .number fun _ => rfl

theorem map_optional_seconds :
    (optional fields name Scalar.readSeconds Span.zero).map (fun _ => ()) =
      Field.check sectionKey fields ⟨name, .seconds, false⟩ :=
  map_optional Scalar.readSeconds Span.zero .seconds fun _ => rfl

theorem map_optional_severity :
    (optional fields "severity" (fun _ text => some <$> Scalar.readSeverity text) none).map
      (fun _ => ()) = Field.check sectionKey fields ⟨"severity", .severity, false⟩ := by
  refine map_optional _ none .severity fun text => ?_
  rw [Format.check]
  cases Scalar.readSeverity text <;> rfl

end Checks

/-- **Reading a section is checking its fields one after another.** -/
theorem map_ofSection (sectionKey : String) (fields : Object) :
    (ofSection sectionKey fields).map (fun _ => ()) =
      Field.all.forM (Field.check sectionKey fields) := by
  simp only [Field.all, List.forM]
  rw [ofSection]
  refine map_unit_bind map_required fun name => ?_
  refine map_unit_bind map_required fun parentId => ?_
  rw [← bind_assoc]
  refine map_unit_bind map_required_flag fun enabled => ?_
  refine map_unit_bind map_optional_flag fun warningEnabled => ?_
  refine map_unit_bind map_optional_number fun warningThreshold => ?_
  refine map_unit_bind map_optional_flag fun criticalEnabled => ?_
  refine map_unit_bind map_optional_number fun criticalThreshold => ?_
  refine map_unit_bind map_optional_flag fun repeats => ?_
  refine map_unit_bind map_optional_seconds fun repeatInterval => ?_
  refine map_unit_bind map_optional_seconds fun warningWindow => ?_
  refine map_unit_bind map_optional_seconds fun criticalWindow => ?_
  exact map_unit_bind map_optional_severity fun severity => rfl

/-- **A section is refused for the first field with which something is wrong.** -/
theorem ofSection_eq_error_iff {sectionKey : String} {fields : Object} {e : ConfigError} :
    ofSection sectionKey fields = .error e ↔
      ∃ f, FirstWith (fun f : Field => ∃ e, f.Fails sectionKey fields e) Field.all f ∧
        f.Fails sectionKey fields e := by
  rw [← map_eq_error_iff, map_ofSection, forM_eq_error_iff]
  simp only [Field.check_eq_error_iff]

end MetricConfig

end NodeAlerts
