import NodeAlerts.State.Store

/-!
# Look-ups after changes of the store

What each operation on nodes and on the store does to `NodeState.get?`, `Store.node?` and
`Store.hasChain`.
-/

namespace NodeAlerts

universe u

namespace NodeState

variable {M : Type u} [DecidableEq M]

theorem get?_cons (e : M × MetricState) (rest : List (M × MetricState)) (m : M) :
    (⟨e :: rest⟩ : NodeState M).get? m = if m = e.1 then some e.2 else get? ⟨rest⟩ m := by
  rw [get?, get?, List.find?_cons]
  by_cases h : m = e.1
  · simp [h]
  · simp [h, Ne.symm h]

/-- A new node has a state for each metric of the family that is configured. -/
theorem get?_new (family : List M) (name : M → String) (config : ChainConfig) (m : M) :
    (new family name config).get? m =
      if m ∈ family then (config.metric? (name m)).map MetricState.new else none := by
  induction family with
  | nil => rfl
  | cons a rest ih =>
      rw [new] at ih ⊢
      cases hc : config.metric? (name a) with
      | none =>
          rw [List.filterMap_cons_none (by rw [hc]; rfl), ih]
          by_cases hm : m = a
          · simp [hm, hc]
          · simp [hm]
      | some c =>
          rw [List.filterMap_cons_some (by rw [hc]; rfl), get?_cons, ih]
          by_cases hm : m = a
          · simp [hm, hc]
          · simp [hm]

theorem get?_set (n : NodeState M) (m other : M) (s : MetricState) :
    (n.set m s).get? other = if other = m then (n.get? m).map fun _ => s else n.get? other := by
  obtain ⟨metrics⟩ := n
  rw [set]
  induction metrics with
  | nil => simp [get?]
  | cons e rest ih =>
      rw [List.map_cons, get?_cons, get?_cons, get?_cons, ih]
      by_cases he : e.1 = m
      · by_cases ho : other = m
        · simp [he, ho]
        · simp [he, ho]
      · by_cases ho : other = m
        · have hne : ¬ m = e.1 := fun h => he h.symm
          simp [he, ho, hne]
        · simp [he, ho]

end NodeState

namespace Store

variable {M : Type u}

/-! ## Nodes -/

@[simp] theorem hasChain_empty (p : String) : (empty : Store M).hasChain p = false := rfl

@[simp] theorem node?_empty (p o : String) : (empty : Store M).node? p o = none := rfl

/-- A node belongs to a known chain. -/
theorem hasChain_of_node? {s : Store M} {p o : String} {n : NodeState M}
    (h : s.node? p o = some n) : s.hasChain p = true := by
  rw [node?, nodes] at h
  rw [hasChain, Table.contains]
  cases hc : s.chains.get? p with
  | none => rw [hc] at h; cases h
  | some t => rfl

theorem nodes_setNode (s : Store M) (p o p' : String) (n : NodeState M) :
    (s.setNode p o n).nodes p' = if p' = p then (s.nodes p).insert o n else s.nodes p' := by
  rw [setNode, nodes, Table.get?_insert]
  split <;> rfl

theorem node?_setNode (s : Store M) (p o p' o' : String) (n : NodeState M) :
    (s.setNode p o n).node? p' o' = if p' = p ∧ o' = o then some n else s.node? p' o' := by
  rw [node?, nodes_setNode]
  by_cases hp : p' = p
  · subst hp
    rw [if_pos rfl, Table.get?_insert]
    simp [node?]
  · simp [hp, node?]

theorem hasChain_setNode (s : Store M) (p o p' : String) (n : NodeState M) :
    (s.setNode p o n).hasChain p' = (decide (p' = p) || s.hasChain p') := by
  rw [hasChain, setNode, Table.contains, Table.get?_insert]
  by_cases hp : p' = p <;> simp [hp, hasChain, Table.contains]

/-- The nodes of a chain are determined by their look-ups. -/
theorem nodes_ext {s t : Store M} {p : String} (h : ∀ o, s.node? p o = t.node? p o) :
    s.nodes p = t.nodes p :=
  Table.ext_get? h

/-- A store is determined by the chains that it knows and their nodes. -/
theorem ext_node? {s t : Store M} (hchain : ∀ p, s.hasChain p = t.hasChain p)
    (hnode : ∀ p o, s.node? p o = t.node? p o) : s = t := by
  obtain ⟨sc⟩ := s
  obtain ⟨tc⟩ := t
  have hchains : sc = tc := by
    apply Table.ext_get?
    intro p
    have hknown : (sc.get? p).isSome = (tc.get? p).isSome := hchain p
    have hnodes : (sc.get? p).getD ∅ = (tc.get? p).getD ∅ :=
      nodes_ext (s := ⟨sc⟩) (t := ⟨tc⟩) (hnode p)
    cases hs : sc.get? p <;> cases ht : tc.get? p <;> simp_all
  rw [hchains]

/-! ## Chains -/

theorem nodes_resetChain (s : Store M) (p p' : String) :
    (s.resetChain p).nodes p' = if p' = p then ∅ else s.nodes p' := by
  rw [resetChain]
  by_cases hc : s.hasChain p = true
  · rw [if_pos hc, nodes, Table.get?_insert]
    split <;> rfl
  · rw [if_neg hc]
    by_cases hp : p' = p
    · subst hp
      rw [if_pos rfl, nodes]
      rw [hasChain, Table.contains, Bool.not_eq_true, Option.isSome_eq_false_iff,
        Option.isNone_iff_eq_none] at hc
      rw [hc]
      rfl
    · rw [if_neg hp]

theorem node?_resetChain (s : Store M) (p p' o : String) :
    (s.resetChain p).node? p' o = if p' = p then none else s.node? p' o := by
  rw [node?, nodes_resetChain]
  split <;> rfl

@[simp] theorem hasChain_resetChain (s : Store M) (p p' : String) :
    (s.resetChain p).hasChain p' = s.hasChain p' := by
  rw [resetChain]
  by_cases hc : s.hasChain p = true
  · rw [if_pos hc, hasChain, Table.contains, Table.get?_insert]
    by_cases hp : p' = p
    · subst hp
      rw [if_pos rfl, hc]
      rfl
    · rw [if_neg hp]
      rfl
  · rw [if_neg hc]

/-- Forgetting the nodes of a chain twice is forgetting them once. -/
@[simp] theorem resetChain_resetChain (s : Store M) (p : String) :
    (s.resetChain p).resetChain p = s.resetChain p := by
  refine ext_node? (fun p' => by simp) fun p' o => ?_
  rw [node?_resetChain, node?_resetChain]
  split <;> rfl

theorem nodes_removeChain (s : Store M) (p p' : String) :
    (s.removeChain p).nodes p' = if p' = p then ∅ else s.nodes p' := by
  rw [nodes, removeChain, Table.get?_erase]
  split <;> rfl

theorem node?_removeChain (s : Store M) (p p' o : String) :
    (s.removeChain p).node? p' o = if p' = p then none else s.node? p' o := by
  rw [node?, nodes_removeChain]
  split <;> rfl

theorem hasChain_removeChain (s : Store M) (p p' : String) :
    (s.removeChain p).hasChain p' = (decide (p' ≠ p) && s.hasChain p') := by
  rw [hasChain, removeChain, Table.contains, Table.get?_erase]
  by_cases hp : p' = p <;> simp [hp, hasChain, Table.contains]

end Store

end NodeAlerts
