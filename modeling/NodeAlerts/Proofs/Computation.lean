/-!
# Computations that may fail

How a computation that succeeded came to its result: through a map, through a bind, and through a
fold, whose result has what the start has and every step keeps.  A sequence of checks fails with the
error of the first check that fails (`forM_eq_error_iff`).
-/

namespace NodeAlerts

universe u v w

theorem exists_of_map_eq_ok {ε : Type u} {α : Type v} {β : Type w} {x : Except ε α} {f : α → β}
    {b : β} (h : x.map f = .ok b) : ∃ a, x = .ok a ∧ f a = b := by
  cases x with
  | error e => cases h
  | ok a => cases h; exact ⟨a, rfl, rfl⟩

theorem exists_of_bind_eq_ok {ε : Type u} {α β : Type v} {x : Except ε α} {f : α → Except ε β}
    {b : β} (h : x >>= f = .ok b) : ∃ a, x = .ok a ∧ f a = .ok b := by
  cases x with
  | error e => cases h
  | ok a => exact ⟨a, rfl, h⟩

theorem bind_eq_ok_iff {ε : Type u} {α β : Type v} {x : Except ε α} {f : α → Except ε β} {b : β} :
    x >>= f = .ok b ↔ ∃ a, x = .ok a ∧ f a = .ok b := by
  constructor
  · exact exists_of_bind_eq_ok
  · rintro ⟨a, rfl, h⟩
    exact h

theorem map_eq_error_iff {ε : Type u} {α : Type v} {β : Type w} {x : Except ε α} {f : α → β}
    {e : ε} : x.map f = .error e ↔ x = .error e := by
  cases x with
  | error e' => exact ⟨fun h => by cases h; rfl, fun h => by cases h; rfl⟩
  | ok a => exact ⟨nofun, nofun⟩

/-- A map fails where its computation fails. -/
theorem map_fails_iff {ε : Type u} {α : Type v} {β : Type w} {x : Except ε α} {f : α → β} :
    (∃ e, x.map f = .error e) ↔ ∃ e, x = .error e := by
  cases x with
  | error e => exact ⟨fun _ => ⟨e, rfl⟩, fun _ => ⟨e, rfl⟩⟩
  | ok a => exact ⟨nofun, nofun⟩

/-- A bind fails where its first computation fails, or the second one behind it. -/
theorem bind_fails_iff {ε : Type u} {α β : Type v} {x : Except ε α} {f : α → Except ε β} :
    (∃ e, x >>= f = .error e) ↔ (∃ e, x = .error e) ∨ ∃ a, x = .ok a ∧ ∃ e, f a = .error e := by
  cases x with
  | error e => exact ⟨fun _ => Or.inl ⟨e, rfl⟩, fun _ => ⟨e, rfl⟩⟩
  | ok a =>
      constructor
      · intro h
        exact Or.inr ⟨a, rfl, h⟩
      · rintro (⟨e, h⟩ | ⟨b, h, hb⟩)
        · cases h
        · cases h
          exact hb

/-- Two computations with the same image fail alike, or succeed with results of the same image. -/
theorem cases_of_map_eq_map {ε : Type u} {α β : Type v} {γ : Type w} {x : Except ε α}
    {y : Except ε β} {f : α → γ} {g : β → γ} (h : x.map f = y.map g) :
    (∃ e, x = .error e ∧ y = .error e) ∨ ∃ a b, x = .ok a ∧ y = .ok b ∧ f a = g b := by
  cases x with
  | error e =>
      cases y with
      | error e' => cases h; exact Or.inl ⟨e, rfl, rfl⟩
      | ok b => cases h
  | ok a =>
      cases y with
      | error e => cases h
      | ok b => exact Or.inr ⟨a, b, rfl, rfl, Except.ok.inj h⟩

/-- **Induction over a fold that succeeded.** -/
theorem foldlM_induction {ε : Type u} {α : Type w} {β : Type v} {f : β → α → Except ε β}
    {P : β → Prop} (hstep : ∀ s a s', P s → f s a = .ok s' → P s') :
    ∀ (l : List α) (s s' : β), P s → l.foldlM f s = .ok s' → P s' := by
  intro l
  induction l with
  | nil => intro s s' hP h; cases h; exact hP
  | cons a rest ih =>
      intro s s' hP h
      rw [List.foldlM_cons] at h
      obtain ⟨s₁, h₁, h₂⟩ := exists_of_bind_eq_ok h
      exact ih s₁ s' (hstep s a s₁ hP h₁) h₂

/-! ## First and last -/

section FirstAndLast

variable {α : Type u} {P : α → Prop} {a b : α} {l : List α}

/-- An entry of a list is the first with a property. -/
def FirstWith (P : α → Prop) (l : List α) (a : α) : Prop :=
  ∃ before after, l = before ++ a :: after ∧ (∀ b ∈ before, ¬ P b) ∧ P a

/-- An entry of a list is the last with a property. -/
def LastWith (P : α → Prop) (l : List α) (a : α) : Prop :=
  ∃ before after, l = before ++ a :: after ∧ P a ∧ ∀ b ∈ after, ¬ P b

theorem not_firstWith_nil : ¬ FirstWith P [] a := by
  rintro ⟨before, after, h, -⟩
  cases before <;> cases h

theorem not_lastWith_nil : ¬ LastWith P [] a := by
  rintro ⟨before, after, h, -⟩
  cases before <;> cases h

/-- The first entry is the one that is looked for, or lets the next ones be looked at. -/
theorem exists_split_cons {Q : α → Prop} :
    (∃ earlier found later, b :: l = earlier ++ found :: later ∧ (∀ c ∈ earlier, P c) ∧ Q found) ↔
      Q b ∨ P b ∧ ∃ earlier found later, l = earlier ++ found :: later ∧
        (∀ c ∈ earlier, P c) ∧ Q found := by
  constructor
  · rintro ⟨earlier, found, later, h, hearlier, hfound⟩
    cases earlier with
    | nil => cases h; exact Or.inl hfound
    | cons c earlier =>
        cases h
        obtain ⟨hb, hearlier⟩ := List.forall_mem_cons.1 hearlier
        exact Or.inr ⟨hb, earlier, found, later, rfl, hearlier, hfound⟩
  · rintro (h | ⟨hb, earlier, found, later, rfl, hearlier, hfound⟩)
    · exact ⟨[], b, l, rfl, by simp, h⟩
    · exact ⟨b :: earlier, found, later, rfl, List.forall_mem_cons.2 ⟨hb, hearlier⟩, hfound⟩

theorem firstWith_cons : FirstWith P (b :: l) a ↔ a = b ∧ P b ∨ ¬ P b ∧ FirstWith P l a := by
  have hfound : ∀ l, FirstWith P l a ↔ ∃ earlier found later, l = earlier ++ found :: later ∧
      (∀ c ∈ earlier, ¬ P c) ∧ a = found ∧ P found := by
    intro l
    constructor
    · rintro ⟨before, after, h, hbefore, ha⟩
      exact ⟨before, a, after, h, hbefore, rfl, ha⟩
    · rintro ⟨before, _, after, h, hbefore, rfl, ha⟩
      exact ⟨before, after, h, hbefore, ha⟩
  rw [hfound, hfound, exists_split_cons]

/-- If an entry has a property, one is the first that has it. -/
theorem exists_firstWith (h : ∃ a ∈ l, P a) : ∃ a, FirstWith P l a := by
  induction l with
  | nil =>
      obtain ⟨a, ha, -⟩ := h
      cases ha
  | cons b l ih =>
      by_cases hb : P b
      · exact ⟨b, firstWith_cons.2 (Or.inl ⟨rfl, hb⟩)⟩
      · obtain ⟨c, hc, hPc⟩ := h
        rcases List.mem_cons.1 hc with rfl | hc
        · exact absurd hPc hb
        · obtain ⟨a, ha⟩ := ih ⟨c, hc, hPc⟩
          exact ⟨a, firstWith_cons.2 (Or.inr ⟨hb, ha⟩)⟩

theorem lastWith_cons :
    LastWith P (b :: l) a ↔ LastWith P l a ∨ a = b ∧ P b ∧ ∀ c ∈ l, ¬ P c := by
  constructor
  · rintro ⟨before, after, h, ha, hafter⟩
    cases before with
    | nil => cases h; exact Or.inr ⟨rfl, ha, hafter⟩
    | cons c before => cases h; exact Or.inl ⟨before, after, rfl, ha, hafter⟩
  · rintro (⟨before, after, rfl, ha, hafter⟩ | ⟨rfl, ha, hafter⟩)
    · exact ⟨b :: before, after, rfl, ha, hafter⟩
    · exact ⟨[], l, rfl, ha, hafter⟩

end FirstAndLast

/-- Whether and how a sequence fails is checked step by step, if what comes later fails alike for
all results of the first step. -/
theorem map_unit_bind {ε : Type u} {α β : Type} {x : Except ε α} {f : α → Except ε β}
    {check rest : Except ε Unit} (hx : x.map (fun _ => ()) = check)
    (hf : ∀ a, (f a).map (fun _ => ()) = rest) :
    (x >>= f).map (fun _ => ()) = check >>= fun _ => rest := by
  cases x with
  | error e => rw [← hx]; rfl
  | ok a => rw [← hx]; exact hf a

/-- A sequence of checks passes if all of them pass. -/
theorem forM_eq_ok_iff {ε : Type u} {α : Type v} {check : α → Except ε Unit} {l : List α} :
    l.forM check = .ok () ↔ ∀ a ∈ l, check a = .ok () := by
  induction l with
  | nil => exact iff_of_true rfl (by simp)
  | cons b l ih =>
      rw [List.forM, bind_eq_ok_iff, List.forall_mem_cons, ← ih]
      exact ⟨fun ⟨_, h⟩ => h, fun h => ⟨(), h⟩⟩

/-- **A sequence of checks fails with the error of the first check that fails.** -/
theorem forM_eq_error_iff {ε : Type u} {α : Type v} {check : α → Except ε Unit} {l : List α}
    {e : ε} :
    l.forM check = .error e ↔
      ∃ a, FirstWith (fun a => ∃ e, check a = .error e) l a ∧ check a = .error e := by
  induction l with
  | nil => exact iff_of_false nofun fun ⟨_, h, _⟩ => not_firstWith_nil h
  | cons b l ih =>
      simp only [List.forM, firstWith_cons]
      cases hb : check b with
      | error e' =>
          constructor
          · intro h
            cases h
            exact ⟨b, Or.inl ⟨rfl, e, rfl⟩, hb⟩
          · rintro ⟨a, ⟨rfl, -⟩ | ⟨hnot, -⟩, ha⟩
            · rw [hb] at ha
              exact ha
            · exact absurd ⟨e', rfl⟩ hnot
      | ok _ =>
          have hpass : ¬ ∃ e, check b = .error e := by simp [hb]
          constructor
          · intro h
            obtain ⟨a, hfirst, ha⟩ := ih.1 h
            exact ⟨a, Or.inr ⟨by simp, hfirst⟩, ha⟩
          · rintro ⟨a, ⟨rfl, e', he'⟩ | ⟨-, hfirst⟩, ha⟩
            · exact absurd ⟨e, ha⟩ hpass
            · exact ih.2 ⟨a, hfirst, ha⟩

end NodeAlerts
