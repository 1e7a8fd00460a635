import NodeAlerts.Json.Value

/-!
# JSON values and their trees

A value that was read holds each key of an object once, by increasing key, also deep inside
(`Value.Ordered`, `Value.ordered_of_ofTree?`).  Such a value is told by its tree: the tree, read
with room enough, is the value again (`Value.ofTree?_toTree`).
-/

namespace NodeAlerts.Json

/-! ## Reading lists -/

/-- What is read of each entry as it was written, is read of all. -/
theorem mapM_map_eq_some {α β γ : Type} {write : α → β} {read : β → Option γ} {f : α → γ}
    {l : List α} (h : ∀ a ∈ l, read (write a) = some (f a)) :
    (l.map write).mapM read = some (l.map f) := by
  induction l with
  | nil => rfl
  | cons a l ih =>
      obtain ⟨ha, hl⟩ := List.forall_mem_cons.1 h
      rw [List.map_cons, List.mapM_cons, ha, ih hl]
      rfl

/-- Each entry that was read was read from one. -/
theorem exists_of_mapM_eq_some {α β : Type} {read : α → Option β} {l : List α} {l' : List β}
    (h : l.mapM read = some l') : ∀ b ∈ l', ∃ a ∈ l, read a = some b := by
  induction l generalizing l' with
  | nil =>
      cases h
      exact fun b hb => absurd hb List.not_mem_nil
  | cons a l ih =>
      rw [List.mapM_cons] at h
      obtain ⟨b, hb, h⟩ := Option.bind_eq_some_iff.1 h
      obtain ⟨rest, hrest, h⟩ := Option.bind_eq_some_iff.1 h
      cases h
      rw [List.forall_mem_cons]
      refine ⟨⟨a, List.mem_cons_self, hb⟩, fun c hc => ?_⟩
      obtain ⟨d, hd, hdc⟩ := ih hrest c hc
      exact ⟨d, List.mem_cons_of_mem a hd, hdc⟩

namespace Value

/-- Objects hold each key once, by increasing key, at any depth. -/
inductive Ordered : Value → Prop where
  /-- `null` holds no key. -/
  | null : Ordered .null
  /-- `true` and `false` hold no key. -/
  | bool (b : Bool) : Ordered (.bool b)
  /-- A number holds no key. -/
  | number (n : Number) : Ordered (.number n)
  /-- A text holds no key. -/
  | text (s : String) : Ordered (.text s)
  /-- An array holds those of its items. -/
  | array {items : List Value} (hitems : ∀ v ∈ items, Ordered v) : Ordered (.array items)
  /-- An object holds its own in order, and those of its members. -/
  | object {members : List (String × Value)} (hkeys : Sorted.Increasing members)
      (hmembers : ∀ m ∈ members, Ordered m.2) : Ordered (.object members)

/-! ## Trees -/

theorem itemTrees_eq_map (items : List Value) : itemTrees items = items.map toTree := by
  induction items with
  | nil => rfl
  | cons v vs ih => rw [itemTrees, ih, List.map_cons]

theorem memberTrees_eq_map (members : List (String × Value)) :
    memberTrees members = members.map fun m => (some m.1, m.2.toTree) := by
  induction members with
  | nil => rfl
  | cons m ms ih => rw [memberTrees, ih, List.map_cons]

theorem depth_le_itemsDepth {items : List Value} {v : Value} (h : v ∈ items) :
    v.depth ≤ itemsDepth items := by
  induction items with
  | nil => cases h
  | cons w ws ih =>
      rw [itemsDepth]
      rcases List.mem_cons.1 h with rfl | h
      · exact Nat.le_max_left _ _
      · exact Nat.le_trans (ih h) (Nat.le_max_right _ _)

theorem depth_le_membersDepth {members : List (String × Value)} {m : String × Value}
    (h : m ∈ members) : m.2.depth ≤ membersDepth members := by
  induction members with
  | nil => cases h
  | cons e rest ih =>
      rw [membersDepth]
      rcases List.mem_cons.1 h with rfl | h
      · exact Nat.le_max_left _ _
      · exact Nat.le_trans (ih h) (Nat.le_max_right _ _)

/-- **A value is told by its tree.** -/
theorem ofTree?_toTree {v : Value} (h : v.Ordered) {room : Nat} (hroom : v.depth ≤ room) :
    ofTree? room v.toTree = some v := by
  induction h generalizing room with
  | null => cases room <;> rfl
  | bool b => cases room <;> rfl
  | number n => cases room <;> rfl
  | text s => cases room <;> rfl
  | @array items hitems ih =>
      rw [depth] at hroom
      cases room with
      | zero => exact absurd hroom (Nat.not_succ_le_zero _)
      | succ room =>
          have hread : (items.map toTree).mapM (ofTree? room) = some (items.map id) :=
            mapM_map_eq_some fun v hv =>
              ih v hv (Nat.le_trans (depth_le_itemsDepth hv) (Nat.le_of_succ_le_succ hroom))
          rw [toTree, itemTrees_eq_map, ofTree?, hread, List.map_id]
          rfl
  | @object members hkeys hmembers ih =>
      rw [depth] at hroom
      cases room with
      | zero => exact absurd hroom (Nat.not_succ_le_zero _)
      | succ room =>
          have hread : (members.map fun m => (some m.1, m.2.toTree)).mapM
              (fun m => do return (← m.1, ← ofTree? room m.2)) = some (members.map id) := by
            refine mapM_map_eq_some fun m hm => ?_
            rw [ih m hm (Nat.le_trans (depth_le_membersDepth hm) (Nat.le_of_succ_le_succ hroom))]
            rfl
          rw [toTree, memberTrees_eq_map, ofTree?, hread, List.map_id]
          show some (ofObject (Table.ofList members)) = _
          rw [ofObject, Table.entries_ofList hkeys]

theorem ordered_ofObject_ofList {members : List (String × Value)}
    (h : ∀ m ∈ members, m.2.Ordered) : (ofObject (Table.ofList members)).Ordered :=
  .object (Table.ofList members).increasing fun m hm => h m (Table.mem_of_mem_ofList hm)

theorem Ordered.insert {o : Object} {v : Value} (h : (ofObject o).Ordered) (key : String)
    (hv : v.Ordered) : (ofObject (o.insert key v)).Ordered := by
  cases h with
  | object hkeys hmembers =>
      refine .object (o.insert key v).increasing fun m hm => ?_
      rcases Sorted.mem_insert hm with rfl | hm
      · exact hv
      · exact hmembers m hm

/-- **What was read is in order.** -/
theorem ordered_of_ofTree? {room : Nat} {tree : Tree} {v : Value}
    (h : ofTree? room tree = some v) : v.Ordered := by
  cases tree with
  | null =>
      rw [ofTree?] at h
      cases h
      exact .null
  | bool b =>
      rw [ofTree?] at h
      cases h
      exact .bool b
  | number n =>
      rw [ofTree?] at h
      obtain ⟨n, -, rfl⟩ := Option.map_eq_some_iff.1 h
      exact .number n
  | text s =>
      rw [ofTree?] at h
      obtain ⟨s, -, rfl⟩ := Option.map_eq_some_iff.1 h
      exact .text s
  | array trees =>
      cases room with
      | zero => cases h
      | succ room =>
          obtain ⟨items, hitems, rfl⟩ := Option.map_eq_some_iff.1 h
          refine .array fun v hv => ?_
          obtain ⟨tree, -, htree⟩ := exists_of_mapM_eq_some hitems v hv
          exact ordered_of_ofTree? htree
  | object trees =>
      cases room with
      | zero => cases h
      | succ room =>
          obtain ⟨members, hmembers, h⟩ := Option.bind_eq_some_iff.1 h
          cases h
          refine ordered_ofObject_ofList fun m hm => ?_
          obtain ⟨tree, -, htree⟩ := exists_of_mapM_eq_some hmembers m hm
          obtain ⟨key, -, htree⟩ := Option.bind_eq_some_iff.1 htree
          obtain ⟨value, hvalue, htree⟩ := Option.bind_eq_some_iff.1 htree
          cases htree
          exact ordered_of_ofTree? hvalue
termination_by room

end Value

end NodeAlerts.Json
