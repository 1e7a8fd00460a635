/-!
# Tables: finite maps with text keys

A `Table α` keeps its entries in strictly increasing order of their keys, so a key occurs at most
once and a table is determined by its look-ups (`Table.ext_get?`).  Text is ordered by code point,
which is also the order of its UTF-8 bytes.

* `get?_insert`, `get?_erase`, `get?_empty`: what each operation does to look-ups;
* `ext_get?`: two tables that answer every look-up alike are equal;
* `mem_entries_iff`: the entries are exactly the answered look-ups;
* `get?_ofList`, `entries_ofList`: the table of a list whose keys differ, or increase.
-/

universe u v

namespace NodeAlerts

/-! ## Sorted association lists -/

namespace Sorted

variable {α : Type u}

/-- The value stored under `key`. -/
def get? (key : String) : List (String × α) → Option α
  | [] => none
  | (k, v) :: rest => if key = k then some v else get? key rest

/-- Stores `value` under `key`, in its place in the order. -/
def insert (key : String) (value : α) : List (String × α) → List (String × α)
  | [] => [(key, value)]
  | (k, v) :: rest =>
    if key = k then (key, value) :: rest
    else if key < k then (key, value) :: (k, v) :: rest
    else (k, v) :: insert key value rest

/-- Removes `key`. -/
def erase (key : String) : List (String × α) → List (String × α)
  | [] => []
  | (k, v) :: rest => if key = k then rest else (k, v) :: erase key rest

/-- Keys strictly increase. -/
def Increasing (entries : List (String × α)) : Prop :=
  entries.Pairwise fun a b => a.1 < b.1

theorem get?_eq_none_of_lt {key : String} {entries : List (String × α)}
    (h : ∀ e ∈ entries, key < e.1) : get? key entries = none := by
  induction entries with
  | nil => rfl
  | cons e rest ih =>
    have hlt : key < e.1 := h e (by simp)
    have hne : key ≠ e.1 := fun heq => String.lt_irrefl _ (heq ▸ hlt)
    simp [get?, hne, ih fun e' he' => h e' (List.mem_cons_of_mem _ he')]

theorem get?_eq_none_of_not_mem {key : String} {entries : List (String × α)}
    (h : key ∉ entries.map Prod.fst) : get? key entries = none := by
  induction entries with
  | nil => rfl
  | cons e rest ih =>
    rw [List.map_cons, List.mem_cons, not_or] at h
    rw [get?, if_neg h.1, ih h.2]

theorem mem_of_get? {key : String} {value : α} {entries : List (String × α)}
    (h : get? key entries = some value) : (key, value) ∈ entries := by
  induction entries with
  | nil => cases h
  | cons e rest ih =>
    rw [get?] at h
    split at h
    · rename_i hkey
      cases h
      rw [hkey]
      exact List.mem_cons_self
    · exact List.mem_cons_of_mem _ (ih h)

theorem nodup_of_increasing {entries : List (String × α)} (h : Increasing entries) :
    (entries.map Prod.fst).Nodup := by
  rw [List.Nodup, List.pairwise_map]
  refine List.Pairwise.imp (fun hlt heq => ?_) h
  rw [heq] at hlt
  exact String.lt_irrefl _ hlt

theorem get?_insert (key other : String) (value : α) (entries : List (String × α)) :
    get? other (insert key value entries) =
      if other = key then some value else get? other entries := by
  induction entries with
  | nil => simp [insert, get?]
  | cons e rest ih =>
    obtain ⟨k, v⟩ := e
    by_cases hk : key = k
    · subst hk
      by_cases ho : other = key <;> simp [insert, get?, ho]
    · by_cases hlt : key < k
      · simp [insert, hk, hlt, get?]
      · by_cases hok : other = k
        · subst hok
          simp [insert, hk, hlt, get?, Ne.symm hk]
        · simp [insert, hk, hlt, get?, hok, ih]

theorem mem_insert {key : String} {value : α} {entries : List (String × α)} {e : String × α}
    (h : e ∈ insert key value entries) : e = (key, value) ∨ e ∈ entries := by
  induction entries with
  | nil => simpa [insert] using h
  | cons d rest ih =>
    obtain ⟨k, v⟩ := d
    by_cases hk : key = k
    · simp only [insert, if_pos hk, List.mem_cons] at h
      exact h.imp id (List.mem_cons_of_mem _)
    · by_cases hlt : key < k
      · simpa [insert, hk, hlt] using h
      · simp only [insert, if_neg hk, if_neg hlt, List.mem_cons] at h
        rcases h with rfl | h
        · exact .inr (by simp)
        · exact (ih h).imp id (List.mem_cons_of_mem _)

theorem increasing_insert {key : String} {value : α} {entries : List (String × α)}
    (h : Increasing entries) : Increasing (insert key value entries) := by
  induction entries with
  | nil => simp [Increasing, insert]
  | cons d rest ih =>
    obtain ⟨k, v⟩ := d
    obtain ⟨hhead, htail⟩ := List.pairwise_cons.mp h
    by_cases hk : key = k
    · subst hk
      simp only [insert, if_pos]
      exact List.pairwise_cons.mpr ⟨hhead, htail⟩
    · by_cases hlt : key < k
      · simp only [insert, if_neg hk, if_pos hlt]
        refine List.pairwise_cons.mpr ⟨fun e he => ?_, h⟩
        rcases List.mem_cons.mp he with rfl | he
        · exact hlt
        · exact String.lt_trans hlt (hhead e he)
      · simp only [insert, if_neg hk, if_neg hlt]
        refine List.pairwise_cons.mpr ⟨fun e he => ?_, ih htail⟩
        rcases mem_insert he with rfl | he
        · have : key ≠ k := hk
          grind
        · exact hhead e he

theorem mem_erase {key : String} {entries : List (String × α)} {e : String × α}
    (h : e ∈ erase key entries) : e ∈ entries := by
  induction entries with
  | nil => simp [erase] at h
  | cons d rest ih =>
    by_cases hk : key = d.1
    · simp only [erase, if_pos hk] at h
      exact List.mem_cons_of_mem _ h
    · simp only [erase, if_neg hk, List.mem_cons] at h
      exact h.elim (fun h => by simp [h]) fun h => List.mem_cons_of_mem _ (ih h)

theorem increasing_erase {key : String} {entries : List (String × α)}
    (h : Increasing entries) : Increasing (erase key entries) := by
  induction entries with
  | nil => exact h
  | cons d rest ih =>
    obtain ⟨hhead, htail⟩ := List.pairwise_cons.mp h
    by_cases hk : key = d.1
    · simp only [erase, if_pos hk]
      exact htail
    · simp only [erase, if_neg hk]
      exact List.pairwise_cons.mpr ⟨fun e he => hhead e (mem_erase he), ih htail⟩

theorem get?_erase {key : String} {entries : List (String × α)} (h : Increasing entries)
    (other : String) :
    get? other (erase key entries) = if other = key then none else get? other entries := by
  induction entries with
  | nil => simp [erase, get?]
  | cons d rest ih =>
    obtain ⟨k, v⟩ := d
    obtain ⟨hhead, htail⟩ := List.pairwise_cons.mp h
    by_cases hk : key = k
    · subst hk
      by_cases ho : other = key
      · simp [erase, ho, get?_eq_none_of_lt hhead]
      · simp [erase, get?, ho]
    · by_cases hok : other = k
      · subst hok
        simp [erase, hk, get?, Ne.symm hk]
      · simp [erase, hk, get?, hok, ih htail]

theorem get?_eq_some_iff {entries : List (String × α)} (h : Increasing entries) {key : String}
    {value : α} : get? key entries = some value ↔ (key, value) ∈ entries := by
  induction entries with
  | nil => simp [get?]
  | cons d rest ih =>
    obtain ⟨k, v⟩ := d
    obtain ⟨hhead, htail⟩ := List.pairwise_cons.mp h
    by_cases hk : key = k
    · subst hk
      have hnot : (key, value) ∉ rest := fun hm => String.lt_irrefl key (hhead (key, value) hm)
      simp [get?, hnot, eq_comm]
    · simp [get?, hk, ih htail]

theorem get?_map {β : Type v} (g : α → β) (key : String) (entries : List (String × α)) :
    get? key (entries.map fun e => (e.1, g e.2)) = (get? key entries).map g := by
  induction entries with
  | nil => rfl
  | cons e rest ih =>
    by_cases hk : key = e.1
    · simp [get?, hk]
    · simp [get?, hk, ih]

theorem get?_filter (p : String → Bool) (key : String) (entries : List (String × α)) :
    get? key (entries.filter fun e => p e.1) = if p key then get? key entries else none := by
  induction entries with
  | nil => exact (ite_self none).symm
  | cons e rest ih =>
    by_cases hk : key = e.1
    · subst hk
      by_cases hp : p e.1 <;> simp [hp, get?, ih]
    · by_cases hp : p e.1 <;> simp [hp, get?, hk, ih]

theorem increasing_map {β : Type v} (g : α → β) {entries : List (String × α)}
    (h : Increasing entries) : Increasing (entries.map fun e => (e.1, g e.2)) :=
  List.pairwise_map.mpr h

/-- An increasing list is determined by its look-ups. -/
theorem ext_get? {a b : List (String × α)} (ha : Increasing a) (hb : Increasing b)
    (h : ∀ key, get? key a = get? key b) : a = b := by
  induction a generalizing b with
  | nil =>
    cases b with
    | nil => rfl
    | cons e rest => simpa [get?] using h e.1
  | cons d rest ih =>
    cases b with
    | nil => simpa [get?] using h d.1
    | cons e rest' =>
      obtain ⟨k, v⟩ := d
      obtain ⟨k', v'⟩ := e
      obtain ⟨hhead, htail⟩ := List.pairwise_cons.mp ha
      obtain ⟨hhead', htail'⟩ := List.pairwise_cons.mp hb
      have hmem : (k, v) ∈ (k', v') :: rest' :=
        (get?_eq_some_iff hb).mp (by rw [← h k]; simp [get?])
      have hmem' : (k', v') ∈ (k, v) :: rest :=
        (get?_eq_some_iff ha).mp (by rw [h k']; simp [get?])
      have hkk : k = k' := by
        rcases List.mem_cons.mp hmem with heq | hm
        · exact congrArg Prod.fst heq
        · rcases List.mem_cons.mp hmem' with heq' | hm'
          · exact (congrArg Prod.fst heq').symm
          · exact absurd (hhead _ hm') (String.lt_asymm (hhead' _ hm))
      subst hkk
      have hv : v = v' := by simpa [get?] using h k
      subst hv
      have htails : rest = rest' := ih htail htail' fun key => by
        by_cases hk : key = k
        · subst hk
          rw [get?_eq_none_of_lt hhead, get?_eq_none_of_lt hhead']
        · simpa [get?, hk] using h key
      rw [htails]

end Sorted

/-! ## Tables -/

/-- A finite map from text to `α`. -/
structure Table (α : Type u) where
  /-- The entries, by increasing key. -/
  entries : List (String × α)
  /-- No key occurs twice, and the order of the entries carries no information. -/
  increasing : Sorted.Increasing entries

namespace Table

variable {α : Type u}

/-- The table without entries. -/
def empty : Table α := ⟨[], List.Pairwise.nil⟩

instance : EmptyCollection (Table α) := ⟨empty⟩

instance : Inhabited (Table α) := ⟨∅⟩

/-- The value stored under `key`. -/
def get? (t : Table α) (key : String) : Option α := Sorted.get? key t.entries

/-- Stores `value` under `key`, in place of any earlier value. -/
def insert (t : Table α) (key : String) (value : α) : Table α :=
  ⟨Sorted.insert key value t.entries, Sorted.increasing_insert t.increasing⟩

/-- Removes `key` and its value. -/
def erase (t : Table α) (key : String) : Table α :=
  ⟨Sorted.erase key t.entries, Sorted.increasing_erase t.increasing⟩

/-- Whether something is stored under `key`. -/
def contains (t : Table α) (key : String) : Bool := (t.get? key).isSome

/-- The number of entries. -/
def size (t : Table α) : Nat := t.entries.length

/-- The table of a list of entries; of two entries with one key the later stays. -/
def ofList (entries : List (String × α)) : Table α :=
  entries.foldl (fun t e => t.insert e.1 e.2) ∅

@[simp] theorem get?_empty (key : String) : (∅ : Table α).get? key = none := rfl

@[simp] theorem size_empty : (∅ : Table α).size = 0 := rfl

theorem get?_insert (t : Table α) (key other : String) (value : α) :
    (t.insert key value).get? other = if other = key then some value else t.get? other :=
  Sorted.get?_insert key other value t.entries

@[simp] theorem get?_insert_self (t : Table α) (key : String) (value : α) :
    (t.insert key value).get? key = some value := by simp [get?_insert]

theorem get?_erase (t : Table α) (key other : String) :
    (t.erase key).get? other = if other = key then none else t.get? other :=
  Sorted.get?_erase t.increasing other

@[simp] theorem get?_erase_self (t : Table α) (key : String) : (t.erase key).get? key = none := by
  simp [get?_erase]

theorem mem_entries_iff {t : Table α} {key : String} {value : α} :
    (key, value) ∈ t.entries ↔ t.get? key = some value :=
  (Sorted.get?_eq_some_iff t.increasing).symm

/-- Tables with the same look-ups are equal. -/
theorem ext_get? {a b : Table α} (h : ∀ key, a.get? key = b.get? key) : a = b := by
  cases a with
  | mk ea ha =>
    cases b with
    | mk eb hb =>
      have : ea = eb := Sorted.ext_get? ha hb h
      subst this
      rfl

/-- Entries with different keys that are stored one after another hide what was stored before. -/
theorem get?_foldl_insert {entries : List (String × α)} (h : (entries.map Prod.fst).Nodup)
    (t : Table α) (key : String) :
    (entries.foldl (fun t e => t.insert e.1 e.2) t).get? key =
      (Sorted.get? key entries).or (t.get? key) := by
  induction entries generalizing t with
  | nil => rfl
  | cons e rest ih =>
    obtain ⟨hnot, hrest⟩ := List.nodup_cons.mp h
    rw [List.foldl_cons, ih hrest, get?_insert, Sorted.get?]
    by_cases hkey : key = e.1
    · subst hkey
      rw [if_pos rfl, if_pos rfl, Sorted.get?_eq_none_of_not_mem hnot]
      rfl
    · rw [if_neg hkey, if_neg hkey]

theorem get?_ofList {entries : List (String × α)} (h : (entries.map Prod.fst).Nodup)
    (key : String) : (ofList entries).get? key = Sorted.get? key entries := by
  rw [ofList, get?_foldl_insert h, get?_empty, Option.or_none]

/-- A list in order holds the entries of its table. -/
theorem entries_ofList {entries : List (String × α)} (h : Sorted.Increasing entries) :
    (ofList entries).entries = entries :=
  Sorted.ext_get? (ofList entries).increasing h (get?_ofList (Sorted.nodup_of_increasing h))

theorem mem_of_mem_ofList {entries : List (String × α)} {e : String × α}
    (h : e ∈ (ofList entries).entries) : e ∈ entries := by
  have hfold : ∀ (l : List (String × α)) (t : Table α),
      e ∈ (l.foldl (fun t e => t.insert e.1 e.2) t).entries → e ∈ t.entries ∨ e ∈ l := by
    intro l
    induction l with
    | nil => exact fun t h => .inl h
    | cons d rest ih =>
      intro t h
      rcases ih _ h with h | h
      · rcases Sorted.mem_insert h with rfl | h
        · exact .inr List.mem_cons_self
        · exact .inl h
      · exact .inr (List.mem_cons_of_mem _ h)
  rcases hfold entries ∅ h with h | h
  · cases h
  · exact h

/-- Tables with the same keys have the same size. -/
theorem size_congr {β : Type v} {a : Table α} {b : Table β}
    (h : ∀ key, a.contains key = b.contains key) : a.size = b.size := by
  have hkeys : (a.entries.map fun e => (e.1, ())) = b.entries.map fun e => (e.1, ()) := by
    refine Sorted.ext_get? (Sorted.increasing_map (fun _ => ()) a.increasing)
      (Sorted.increasing_map (fun _ => ()) b.increasing) fun key => ?_
    have hkey : (Sorted.get? key a.entries).isSome = (Sorted.get? key b.entries).isSome := h key
    rw [Sorted.get?_map (fun _ => ()), Sorted.get?_map (fun _ => ())]
    cases ha : Sorted.get? key a.entries <;> cases hb : Sorted.get? key b.entries <;> simp_all
  simpa [size] using congrArg List.length hkeys

/-- What is stored under a key may be removed before it is stored again. -/
@[simp] theorem insert_erase_insert (t : Table α) (key : String) (value : α) :
    ((t.insert key value).erase key).insert key value = t.insert key value := by
  apply ext_get?
  intro other
  rw [get?_insert, get?_erase, get?_insert]
  split <;> rfl

instance [BEq α] : BEq (Table α) := ⟨fun a b => a.entries == b.entries⟩

end Table

end NodeAlerts
