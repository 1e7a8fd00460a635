import Mathlib.Data.List.Infix
import NodeAlerts.Broker.Routing

/-!
# Keys and their routes

A family has one key for data, and for each chain a key for its configuration
(`Routing.route_eq_data_iff`, `Routing.route_eq_config_iff`).  A broker that binds a queue to a
pattern looks at the words of a key, which points keep apart (`Topic.words`): a star in the pattern
stands for one word, and a hash for any number of them.

`keys_are_routed` holds both against each other: the keys that are taken for configurations are
those that have the words of the family's pattern, with some word for its star.  To the broker that
is so as long as the family is not called by a wildcard; one that is would be told of the keys of
others, and passes them over.
-/

namespace NodeAlerts

/-! ## Words -/

namespace Topic

/-- The words of a key or of a pattern. -/
def words (s : String) : List String := (s.toList.splitOn '.').map String.ofList

/-- Whether words fit those of a pattern. -/
def fits : List String → List String → Bool
  | [], words => words.isEmpty
  | p :: pattern, words =>
    if p = "#" then words.tails.any (fits pattern)
    else
      match words with
      | [] => false
      | w :: words => (p = "*" || p = w) && fits pattern words

/-- A broker takes a key for one that the pattern is about. -/
def Matches (pattern key : String) : Prop := fits (words pattern) (words key) = true

/-- No word has a point. -/
theorem not_mem_of_mem_splitOn {text word : List Char} (h : word ∈ text.splitOn '.') :
    '.' ∉ word := by
  induction text generalizing word with
  | nil =>
      rw [List.splitOn_nil, List.mem_singleton] at h
      simp [h]
  | cons x text ih =>
      rw [List.splitOn_cons_eq_if_modifyHead] at h
      by_cases hx : (x == '.') = true
      · rw [if_pos hx] at h
        rcases List.mem_cons.1 h with rfl | h
        · exact List.not_mem_nil
        · exact ih h
      · rw [if_neg hx] at h
        -- the character belongs to the first word
        cases hsplit : text.splitOn '.' with
        | nil => exact absurd hsplit (List.splitOn_ne_nil '.' text)
        | cons first rest =>
            rw [hsplit, List.modifyHead_cons] at h
            rcases List.mem_cons.1 h with rfl | h
            · rw [List.mem_cons, not_or]
              refine ⟨fun heq => hx (beq_iff_eq.2 heq.symm), ih ?_⟩
              rw [hsplit]
              exact List.mem_cons_self
            · refine ih ?_
              rw [hsplit]
              exact List.mem_cons_of_mem first h

theorem not_mem_of_mem_words {s word : String} (h : word ∈ words s) : '.' ∉ word.toList := by
  obtain ⟨w, hw, rfl⟩ := List.mem_map.1 h
  rw [String.toList_ofList]
  exact not_mem_of_mem_splitOn hw

/-- A text is told by its words. -/
theorem words_injective {s t : String} (h : words s = words t) : s = t := by
  have hsplit : s.toList.splitOn '.' = t.toList.splitOn '.' :=
    List.map_injective_iff.2 (fun a b hab => String.ofList_injective hab) h
  refine String.toList_inj.1 ?_
  calc s.toList
      = ['.'].intercalate (s.toList.splitOn '.') := (List.intercalate_splitOn '.').symm
    _ = ['.'].intercalate (t.toList.splitOn '.') := by rw [hsplit]
    _ = t.toList := List.intercalate_splitOn '.'

end Topic

/-! ## Routes -/

namespace Routing

open Topic

variable {r : Routing} {key chain name : String}

/-- The key is the one for the configuration of a chain of the family. -/
def Configures (r : Routing) (key chain : String) : Prop :=
  chain ≠ "" ∧ '.' ∉ chain.toList ∧
    key = "chains." ++ r.family ++ "." ++ chain ++ ".alerts_config"

theorem route_eq_data_iff : r.route key = .data ↔ key = r.dataKey := by
  rw [route]
  by_cases hkey : key = r.dataKey
  · rw [if_pos hkey]
    exact ⟨fun _ => hkey, fun _ => rfl⟩
  · rw [if_neg hkey]
    cases r.chain? key <;> simp [hkey]

/-- A text is no chain if it is empty or has a point. -/
theorem isEmpty_or_contains_iff {text : List Char} :
    (text.isEmpty || text.contains '.') = true ↔ ¬ (text ≠ [] ∧ '.' ∉ text) := by
  rw [Bool.or_eq_true, List.isEmpty_iff, List.contains_iff_mem]
  tauto

/-- What is left of a key between its start and its end is the chain. -/
theorem chain?_eq_some_iff : r.chain? key = some chain ↔ r.Configures key chain := by
  constructor
  · intro h
    obtain ⟨rest, hstart, h⟩ := Option.bind_eq_some_iff.1 h
    obtain ⟨middle, hend, h⟩ := Option.bind_eq_some_iff.1 h
    rw [List.isPrefixOf?_eq_some_iff_append_eq] at hstart
    rw [List.isSuffixOf?_eq_some_iff_append_eq] at hend
    by_cases hno : (middle.isEmpty || middle.contains '.') = true
    · rw [if_pos hno] at h
      cases h
    · rw [if_neg hno] at h
      cases h
      obtain ⟨hne, hpoint⟩ := not_not.1 (mt isEmpty_or_contains_iff.2 hno)
      have hkey : key = r.configKey (String.ofList middle) := by
        rw [← String.toList_inj, ← hstart, ← hend, configKey, String.toList_append,
          String.toList_append, String.toList_ofList, List.append_assoc]
      refine ⟨fun hempty => hne ?_, ?_, hkey⟩
      · rw [← String.toList_ofList (l := middle), hempty, String.toList_empty]
      · rwa [String.toList_ofList]
  · rintro ⟨hne, hpoint, hkey⟩
    have hkey : key = r.configKey chain := hkey
    have hstart : r.configStart.toList.isPrefixOf? key.toList =
        some (chain.toList ++ configEnd.toList) := by
      rw [List.isPrefixOf?_eq_some_iff_append_eq, hkey, configKey, String.toList_append,
        String.toList_append, List.append_assoc]
    have hend : configEnd.toList.isSuffixOf? (chain.toList ++ configEnd.toList) =
        some chain.toList :=
      List.isSuffixOf?_eq_some_iff_append_eq.2 rfl
    have hyes : ¬ (chain.toList.isEmpty || chain.toList.contains '.') = true := by
      rw [isEmpty_or_contains_iff, not_not]
      exact ⟨fun hnil => hne (String.toList_eq_nil_iff.1 hnil), hpoint⟩
    simp only [chain?, hstart, hend, Option.bind_eq_bind, Option.bind_some, if_neg hyes,
      String.ofList_toList]

/-- The key of a chain is no data key: they start differently. -/
theorem Configures.ne_dataKey (h : r.Configures key chain) : key ≠ r.dataKey := by
  intro hdata
  have hboth : ("chains." ++ r.family ++ "." ++ chain ++ ".alerts_config").toList =
      ("transformed_data.node." ++ r.family).toList :=
    congrArg String.toList (h.2.2.symm.trans hdata)
  have hchains : "chains.".toList = 'c' :: "hains.".toList := rfl
  have hdata : "transformed_data.node.".toList = 't' :: "ransformed_data.node.".toList := rfl
  simp only [String.toList_append, List.append_assoc, hchains, hdata, List.cons_append] at hboth
  exact absurd (List.cons.inj hboth).1 (by decide)

theorem route_eq_config_iff : r.route key = .config name ↔
    ∃ chain, name = r.family ++ " " ++ chain ∧ r.Configures key chain := by
  rw [route]
  by_cases hkey : key = r.dataKey
  · rw [if_pos hkey]
    constructor
    · intro h
      cases h
    · rintro ⟨chain, -, h⟩
      exact absurd hkey h.ne_dataKey
  · rw [if_neg hkey]
    cases hchain : r.chain? key with
    | none =>
        constructor
        · intro h
          cases h
        · rintro ⟨chain, -, h⟩
          rw [chain?_eq_some_iff.2 h] at hchain
          cases hchain
    | some chain =>
        rw [Route.config.injEq, chainName]
        constructor
        · rintro rfl
          exact ⟨chain, rfl, chain?_eq_some_iff.1 hchain⟩
        · rintro ⟨other, rfl, h⟩
          rw [chain?_eq_some_iff.2 h] at hchain
          rw [Option.some.inj hchain]

/-! ## Patterns -/

/-- The words of a key for a configuration; the pattern of the family is one, with a star for the
chain. -/
theorem words_configKey (hfamily : '.' ∉ r.family.toList) (hchain : '.' ∉ chain.toList) :
    words (r.configKey chain) = ["chains", r.family, chain, "alerts_config"] := by
  have hkey : (r.configKey chain).toList = "chains".toList ++ '.' :: (r.family.toList ++ '.' ::
      (chain.toList ++ '.' :: "alerts_config".toList)) := by
    have hstart : "chains.".toList = "chains".toList ++ ['.'] := rfl
    have hpoint : ".".toList = ['.'] := rfl
    have hend : ".alerts_config".toList = '.' :: "alerts_config".toList := rfl
    simp only [configKey, configStart, configEnd, String.toList_append, hstart, hpoint, hend,
      List.append_assoc, List.cons_append, List.nil_append]
  have hchains : '.' ∉ "chains".toList := by decide
  have hconfig : '.' ∉ "alerts_config".toList := by decide
  rw [words, hkey, List.splitOn_append_cons_self_of_not_mem hchains,
    List.splitOn_append_cons_self_of_not_mem hfamily,
    List.splitOn_append_cons_self_of_not_mem hchain, List.splitOn_eq_singleton hconfig]
  simp only [List.map_cons, List.map_nil, String.ofList_toList]

theorem words_configPattern (hfamily : '.' ∉ r.family.toList) :
    words r.configPattern = ["chains", r.family, "*", "alerts_config"] :=
  words_configKey hfamily (by decide)

/-- A key for a configuration has the words of the pattern, with the chain for its star. -/
theorem configures_iff_words (hfamily : '.' ∉ r.family.toList) : r.Configures key chain ↔
    chain ≠ "" ∧ words key = ["chains", r.family, chain, "alerts_config"] := by
  constructor
  · rintro ⟨hne, hpoint, hkey⟩
    have hkey : key = r.configKey chain := hkey
    rw [hkey]
    exact ⟨hne, words_configKey hfamily hpoint⟩
  · rintro ⟨hne, hwords⟩
    have hpoint : '.' ∉ chain.toList := not_mem_of_mem_words (s := key) (by simp [hwords])
    refine ⟨hne, hpoint, ?_⟩
    exact words_injective (hwords.trans (words_configKey hfamily hpoint).symm)

end Routing

namespace Topic

variable {family : String} {pattern ws : List String}

theorem fits_star : fits ("*" :: pattern) ws = true ↔
    ∃ w rest, ws = w :: rest ∧ fits pattern rest = true := by
  cases ws with
  | nil => simp [fits]
  | cons w rest => simp [fits]

/-- A word that is no wildcard stands for itself. -/
theorem fits_cons {p : String} (hstar : p ≠ "*") (hhash : p ≠ "#") :
    fits (p :: pattern) ws = true ↔ ∃ rest, ws = p :: rest ∧ fits pattern rest = true := by
  cases ws with
  | nil => simp [fits, hhash]
  | cons w rest =>
      rw [fits, if_neg hhash, Bool.and_eq_true, Bool.or_eq_true, decide_eq_true_eq,
        decide_eq_true_eq, or_iff_right hstar]
      constructor
      · rintro ⟨rfl, hrest⟩
        exact ⟨rest, rfl, hrest⟩
      · rintro ⟨rest', hcons, hrest⟩
        obtain ⟨rfl, rfl⟩ := List.cons.inj hcons
        exact ⟨rfl, hrest⟩

theorem fits_nil : fits [] ws = true ↔ ws = [] := List.isEmpty_iff

/-- Any word stands for itself at least. -/
theorem fits_cons_self (h : fits pattern ws = true) (p : String) :
    fits (p :: pattern) (p :: ws) = true := by
  by_cases hhash : p = "#"
  · rw [fits, if_pos hhash, List.any_eq_true]
    exact ⟨ws, (List.mem_tails _ _).2 (List.suffix_cons p ws), h⟩
  · rw [fits, if_neg hhash, decide_eq_true rfl, Bool.or_true, Bool.true_and]
    exact h

end Topic

/-! ## The keys of a family -/

namespace Routing

open Topic

/-- Every key is taken for what it is. -/
structure RoutesExactly (r : Routing) : Prop where
  /-- One key is about data. -/
  data : ∀ key, r.route key = .data ↔ key = "transformed_data.node." ++ r.family
  /-- One key is about the configuration of a chain. -/
  config : ∀ key chain, r.route key = .config (r.family ++ " " ++ chain) ↔ r.Configures key chain
  /-- A configuration is one of a chain of the family. -/
  named : ∀ key name, r.route key = .config name → ∃ chain, name = r.family ++ " " ++ chain
  /-- Every other key is about something else. -/
  unknown : ∀ key, r.route key = .unknown ↔
    key ≠ "transformed_data.node." ++ r.family ∧ ∀ chain, ¬ r.Configures key chain

/-- The keys that the queue of a family is bound to are its own. -/
structure KeepsApart (r : Routing) : Prop where
  /-- The third word of the pattern is its star. -/
  star : (words r.configPattern)[2]? = some "*"
  /-- The keys of configurations have the words of the pattern, with some word for its star. -/
  pattern : ∀ key, (∃ name, r.route key = .config name) ↔
    ∃ word, word ≠ "" ∧ words key = (words r.configPattern).set 2 word
  /-- The broker delivers them. -/
  bound : ∀ key name, r.route key = .config name → Matches r.configPattern key
  /-- Where the family is not called by a wildcard, the broker delivers nothing else by the pattern,
  apart from keys with nothing for the star. -/
  broker : r.family ≠ "*" → r.family ≠ "#" → ∀ key, (∃ name, r.route key = .config name) ↔
    Matches r.configPattern key ∧ (words key)[2]? ≠ some ""
  /-- The name of the chain tells the key. -/
  key_eq : ∀ key key' name, r.route key = .config name → r.route key' = .config name → key = key'
  /-- The data of other families is not taken for that of this one. -/
  data_ne : ∀ family, family ≠ r.family → r.route (⟨family⟩ : Routing).dataKey ≠ .data

variable {r : Routing} {key chain name : String}

theorem routesExactly (r : Routing) : r.RoutesExactly where
  data _ := route_eq_data_iff
  config key chain := by
    rw [route_eq_config_iff]
    constructor
    · rintro ⟨other, hname, h⟩
      rwa [(String.append_right_inj (r.family ++ " ")).1 hname]
    · exact fun h => ⟨chain, rfl, h⟩
  named key name h := by
    obtain ⟨chain, hname, -⟩ := route_eq_config_iff.1 h
    exact ⟨chain, hname⟩
  unknown key := by
    cases hroute : r.route key with
    | data =>
        refine ⟨fun h => ?_, fun hno => absurd (route_eq_data_iff.1 hroute) hno.1⟩
        cases h
    | config name =>
        obtain ⟨chain, -, hchain⟩ := route_eq_config_iff.1 hroute
        refine ⟨fun h => ?_, fun hno => absurd hchain (hno.2 chain)⟩
        cases h
    | unknown =>
        refine ⟨fun _ => ⟨fun hdata => ?_, fun chain h => ?_⟩, fun _ => rfl⟩
        · rw [route_eq_data_iff.2 hdata] at hroute
          cases hroute
        · rw [route_eq_config_iff.2 ⟨chain, rfl, h⟩] at hroute
          cases hroute

/-- The configurations by the words of their keys. -/
theorem exists_config_iff_words (hfamily : '.' ∉ r.family.toList) :
    (∃ name, r.route key = .config name) ↔
      ∃ chain, chain ≠ "" ∧ words key = ["chains", r.family, chain, "alerts_config"] := by
  simp only [route_eq_config_iff, configures_iff_words hfamily]
  constructor
  · rintro ⟨name, chain, -, h⟩
    exact ⟨chain, h⟩
  · rintro ⟨chain, h⟩
    exact ⟨_, chain, rfl, h⟩

/-- What the broker takes for a key of the family, unless that is called by a wildcard. -/
theorem matches_configPattern_iff (hfamily : '.' ∉ r.family.toList) (hstar : r.family ≠ "*")
    (hhash : r.family ≠ "#") : Matches r.configPattern key ↔
      ∃ word, words key = ["chains", r.family, word, "alerts_config"] := by
  rw [Matches, words_configPattern hfamily, fits_cons (by decide) (by decide)]
  constructor
  · rintro ⟨_, hwords, hfits⟩
    obtain ⟨_, rfl, hchain⟩ := (fits_cons hstar hhash).1 hfits
    obtain ⟨word, _, rfl, hlast⟩ := fits_star.1 hchain
    obtain ⟨_, rfl, hnothing⟩ := (fits_cons (by decide) (by decide)).1 hlast
    rw [fits_nil.1 hnothing] at hwords
    exact ⟨word, hwords⟩
  · rintro ⟨word, hwords⟩
    refine ⟨_, hwords, (fits_cons hstar hhash).2 ⟨_, rfl, fits_star.2 ⟨word, _, rfl, ?_⟩⟩⟩
    exact (fits_cons (by decide) (by decide)).2 ⟨[], rfl, rfl⟩

theorem keepsApart (hfamily : '.' ∉ r.family.toList) : r.KeepsApart where
  star := by rw [words_configPattern hfamily]; rfl
  pattern key := by
    rw [exists_config_iff_words hfamily, words_configPattern hfamily]
    rfl
  bound key name h := by
    obtain ⟨chain, -, hwords⟩ := (exists_config_iff_words hfamily).1 ⟨name, h⟩
    rw [Matches, words_configPattern hfamily, hwords]
    refine fits_cons_self (fits_cons_self (fits_star.2 ⟨chain, _, rfl, ?_⟩) _) _
    exact fits_cons_self rfl _
  broker hstar hhash key := by
    rw [exists_config_iff_words hfamily, matches_configPattern_iff hfamily hstar hhash]
    constructor
    · rintro ⟨chain, hne, hwords⟩
      refine ⟨⟨chain, hwords⟩, ?_⟩
      rw [hwords]
      exact fun hempty => hne (Option.some.inj hempty)
    · rintro ⟨⟨word, hwords⟩, hne⟩
      rw [hwords] at hne
      exact ⟨word, fun hempty => hne (congrArg some hempty), hwords⟩
  key_eq key key' name h h' := by
    obtain ⟨chain, hname, -, -, hkey⟩ := route_eq_config_iff.1 h
    obtain ⟨chain', hname', -, -, hkey'⟩ := route_eq_config_iff.1 h'
    have hchain := (String.append_right_inj (r.family ++ " ")).1 (hname.symm.trans hname')
    rw [hkey, hkey', hchain]
  data_ne family hne h := by
    have hkeys := route_eq_data_iff.1 h
    exact hne ((String.append_right_inj "transformed_data.node.").1 hkeys)

end Routing

/-- **Keys are routed exactly.**  One key of a family is about data, one key for each chain, whose
name is not empty and has no point, is about its configuration, and every other key is about
something else.  So the pattern of a family that is one word tells the keys of configurations, by
some word for its star; the name of a chain tells its key; and the data of other families is passed
over. -/
theorem keys_are_routed (r : Routing) :
    r.RoutesExactly ∧ ('.' ∉ r.family.toList → r.KeepsApart) :=
  ⟨r.routesExactly, Routing.keepsApart⟩

/-- A family that is one word. -/
theorem keys_are_routed_hub : '.' ∉ "cosmos".toList ∧ (⟨"cosmos"⟩ : Routing).KeepsApart ∧
    (⟨"cosmos"⟩ : Routing).route "chains.cosmos.hub.alerts_config" = .config "cosmos hub" := by
  have hfamily : '.' ∉ "cosmos".toList := by decide
  have hchain : (⟨"cosmos"⟩ : Routing).Configures "chains.cosmos.hub.alerts_config" "hub" :=
    ⟨by decide, by decide, by decide⟩
  obtain ⟨hroutes, hapart⟩ := keys_are_routed ⟨"cosmos"⟩
  exact ⟨hfamily, hapart hfamily, (hroutes.config _ "hub").2 hchain⟩

end NodeAlerts
