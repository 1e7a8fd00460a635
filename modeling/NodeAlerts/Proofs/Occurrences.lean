import Mathlib.Algebra.Ring.Nat
import NodeAlerts.Proofs.Course

/-!
# What an occurrence counter counts

An occurrence counter is told of occurrences, of the time that passes, and that its problem is over,
in any order and at any times.

* `OpenWindow`: the window that such a history leaves open, told by two numbers, when it was opened
  and how many occurrences were added to it; `window?_eq_some_iff` tells it by the history alone.
* `OccurrenceCounter.Agrees`: a counter shows the opening of that window and its number, which stops
  at `maxCount`.
* `occurrences_counted_in_period`: counters do so after every history; and where time does not run
  backwards their entries lie in the period, and no more is counted than was added in it.  So it is
  for the counters that are compared with the thresholds of a metric, after each of its readings.

The entries tell the time of each occurrence, but only the first entry decides when they are
dropped.  So what is counted in the period may be less than what was added in it, and never more.
-/

namespace NodeAlerts

open NodeAlerts.Double

/-- The instant a span earlier, where the calendar reaches that far. -/
theorem Instant.minus?_eq_some {t : Instant} {s : Span} (h : t.minus? s ≠ none) :
    t.minus? s = some ⟨t.micros - s.micros⟩ := by
  rw [minus?] at h ⊢
  by_cases hcalendar : (⟨t.micros - s.micros⟩ : Instant).InCalendar
  · exact if_pos hcalendar
  · exact absurd (if_neg hcalendar) h

namespace OccurrenceCounter

/-! ## Histories -/

/-- What is done to a counter. -/
inductive Act where
  /-- Occurrences are counted at a time. -/
  | add (time : Instant) (n : Nat)
  /-- A stale window is dropped. -/
  | dropStale (time : Instant)
  /-- The window is dropped. -/
  | reset
  deriving Repr, DecidableEq

/-- When something is done; resetting has no time. -/
def Act.time? : Act → Option Instant
  | .add time _ => some time
  | .dropStale time => some time
  | .reset => none

/-- The occurrences that are added. -/
def Act.count : Act → Nat
  | .add _ n => n
  | _ => 0

/-- Whether something is done at an end of the period or in it, where the period ends at `now`. -/
def Act.inPeriod (period : Span) (now : Instant) (a : Act) : Bool :=
  a.time?.any fun t => now.micros - period.micros ≤ t.micros ∧ t.micros ≤ now.micros

/-- Does something to a counter. -/
def apply (c : OccurrenceCounter) : Act → Except Overrun OccurrenceCounter
  | .add time n => c.add time n
  | .dropStale time => c.dropStale time
  | .reset => .ok c.reset

/-- A new counter after a history. -/
def replay (period : Span) (acts : List Act) : Except Overrun OccurrenceCounter :=
  acts.foldlM apply (new period)

/-- The occurrences that a history adds. -/
def added (acts : List Act) : Nat := (acts.map Act.count).sum

/-- Time does not run backwards. -/
def InOrder (acts : List Act) : Prop :=
  acts.Pairwise fun a b => ∀ t ∈ a.time?, ∀ u ∈ b.time?, t.micros ≤ u.micros

instance (acts : List Act) : Decidable (InOrder acts) :=
  inferInstanceAs (Decidable (acts.Pairwise fun a b =>
    ∀ t ∈ a.time?, ∀ u ∈ b.time?, t.micros ≤ u.micros))

/-! ## The open window -/

/-- A window of occurrences. -/
structure OpenWindow where
  /-- When its first occurrence was added. -/
  opening : Instant
  /-- The occurrences that were added, however many. -/
  count : Nat
  deriving Repr, DecidableEq

/-- Whether a window that was opened then still lasts: its opening is not older than the period. -/
def lasts (period : Span) (now opening : Instant) : Bool :=
  now.micros - period.micros ≤ opening.micros

/-- The window that still lasts. -/
def lasting (period : Span) (now : Instant) (window : Option OpenWindow) : Option OpenWindow :=
  window.filter fun w => lasts period now w.opening

/-- The window after occurrences are added; the first ones open it. -/
def extend (time : Instant) (n : Nat) : Option OpenWindow → Option OpenWindow
  | some w => some { w with count := w.count + n }
  | none => if n = 0 then none else some ⟨time, n⟩

/-- The window after something is done: it is dropped as a whole once it is stale. -/
def advance (period : Span) (window : Option OpenWindow) : Act → Option OpenWindow
  | .add time n => extend time n (lasting period time window)
  | .dropStale time => lasting period time window
  | .reset => none

/-- The window that a history leaves open. -/
def window? (period : Span) (acts : List Act) : Option OpenWindow :=
  acts.foldl (advance period) none

/-- The occurrences in a window; there are none without one. -/
def counted (window : Option OpenWindow) : Nat := window.elim 0 (·.count)

/-- Something that does not drop a window opened then. -/
def Act.keeps (period : Span) (opening : Instant) (a : Act) : Bool :=
  a.time?.any fun now => lasts period now opening

section Histories

variable (period : Span) {acts later : List Act} {a : Act}

@[simp] theorem added_nil : added [] = 0 := rfl

@[simp] theorem added_cons (a : Act) (acts : List Act) :
    added (a :: acts) = a.count + added acts := rfl

@[simp] theorem added_append (acts later : List Act) :
    added (acts ++ later) = added acts + added later := by
  rw [added, added, added, List.map_append, List.sum_append]

theorem window?_append (acts later : List Act) :
    window? period (acts ++ later) = later.foldl (advance period) (window? period acts) := by
  rw [window?, window?, List.foldl_append]

theorem window?_concat (acts : List Act) (a : Act) :
    window? period (acts ++ [a]) = advance period (window? period acts) a := by
  rw [window?_append, List.foldl_cons, List.foldl_nil]

variable {period}

theorem Act.keeps_iff {opening : Instant} : a.keeps period opening = true ↔
    ∃ now, a.time? = some now ∧ lasts period now opening = true := by
  rw [keeps, Option.any_eq_true]

theorem lasts_iff {now opening : Instant} : lasts period now opening = true ↔
    ¬ opening.micros < now.micros - period.micros := by
  rw [lasts, decide_eq_true_iff, Int.not_lt]

theorem lasting_of_lasts {now : Instant} {w : OpenWindow} (h : lasts period now w.opening = true) :
    lasting period now (some w) = some w := by
  rw [lasting, Option.filter_some, if_pos h]

theorem lasting_eq_none {now : Instant} {window : Option OpenWindow}
    (h : ∀ w ∈ window, lasts period now w.opening = false) : lasting period now window = none := by
  rw [lasting, Option.filter_eq_none_iff]
  intro w hw
  rw [h w hw]
  exact Bool.false_ne_true

/-- A window that is kept gains what is added. -/
theorem advance_of_keeps {opening : Instant} (h : a.keeps period opening = true) (n : Nat) :
    advance period (some ⟨opening, n⟩) a = some ⟨opening, n + a.count⟩ := by
  cases a with
  | add time m =>
      rw [advance, lasting_of_lasts (w := ⟨opening, n⟩) h]
      rfl
  | dropStale time => exact lasting_of_lasts (w := ⟨opening, n⟩) h
  | reset => cases h

/-- A window that was kept by all that was done later gained all that was added. -/
theorem foldl_advance_of_keeps {opening : Instant} :
    ∀ {later : List Act}, (∀ a ∈ later, a.keeps period opening = true) → ∀ n,
      later.foldl (advance period) (some ⟨opening, n⟩) = some ⟨opening, n + added later⟩
  | [], _, _ => rfl
  | a :: later, h, n => by
      rw [List.foldl_cons, advance_of_keeps (h a List.mem_cons_self),
        foldl_advance_of_keeps (fun b hb => h b (List.mem_cons_of_mem a hb)), added_cons,
        Nat.add_assoc]

/-- A window that is left open was open before and is kept, or it is opened. -/
theorem advance_cases {window : Option OpenWindow} {w : OpenWindow}
    (h : advance period window a = some w) :
    (∃ v, window = some v ∧ a.keeps period v.opening = true ∧
      w = ⟨v.opening, v.count + a.count⟩) ∨
    ∃ n, a = .add w.opening n ∧ n ≠ 0 ∧ w.count = n ∧
      ∀ v ∈ window, lasts period w.opening v.opening = false := by
  -- a window that is not kept is stale at any time the action has, so nothing of it is left
  by_cases hkept : ∃ v, window = some v ∧ a.keeps period v.opening = true
  · obtain ⟨v, rfl, hkeeps⟩ := hkept
    rw [advance_of_keeps hkeeps v.count] at h
    exact Or.inl ⟨v, rfl, hkeeps, (Option.some.inj h).symm⟩
  · have hstale : ∀ t ∈ a.time?, ∀ v ∈ window, lasts period t v.opening = false := by
      intro t ht v hv
      rw [← Bool.not_eq_true]
      exact fun hlasts => hkept ⟨v, hv, Act.keeps_iff.2 ⟨t, ht, hlasts⟩⟩
    cases a with
    | add time n =>
        rw [advance, lasting_eq_none (hstale time rfl), extend] at h
        by_cases hn : n = 0
        · rw [if_pos hn] at h
          cases h
        · rw [if_neg hn] at h
          cases h
          exact Or.inr ⟨n, rfl, hn, rfl, hstale time rfl⟩
    | dropStale time =>
        rw [advance, lasting_eq_none (hstale time rfl)] at h
        cases h
    | reset => cases h

/-- **The open window of a history**, told by the history: it is opened by the first occurrences
after which it is never dropped, where no window lasts, and counts what was added from then on. -/
theorem window?_eq_some_iff {w : OpenWindow} : window? period acts = some w ↔
    ∃ past n later, acts = past ++ .add w.opening n :: later ∧ n ≠ 0 ∧
      (∀ v ∈ window? period past, lasts period w.opening v.opening = false) ∧
      (∀ a ∈ later, a.keeps period w.opening = true) ∧ w.count = n + added later := by
  constructor
  · intro h
    induction acts using List.reverseRecOn generalizing w with
    | nil => cases h
    | append_singleton acts a ih =>
        rw [window?_concat] at h
        rcases advance_cases h with ⟨v, hv, hkeeps, rfl⟩ | ⟨n, rfl, hn, hcount, hstale⟩
        · obtain ⟨past, n, later, rfl, hn, hstale, hlater, hcount⟩ := ih hv
          refine ⟨past, n, later ++ [a], by simp, hn, hstale, ?_, ?_⟩
          · intro b hb
            rcases List.mem_append.1 hb with hb | hb
            · exact hlater b hb
            · rw [List.mem_singleton.1 hb]
              exact hkeeps
          · rw [added_append, added_cons, added_nil, ← Nat.add_assoc, ← hcount, Nat.add_zero]
        · exact ⟨acts, n, [], rfl, hn, hstale, nofun, hcount⟩
  · rintro ⟨past, n, later, rfl, hn, hstale, hlater, hcount⟩
    have hopened : advance period (window? period past) (.add w.opening n) =
        some ⟨w.opening, n⟩ := by
      rw [advance, lasting_eq_none hstale]
      exact if_neg hn
    rw [window?_append, List.foldl_cons, hopened, foldl_advance_of_keeps hlater, ← hcount]

/-- A window that is open after something was done lasts at that time. -/
theorem lasts_of_window? (hperiod : Span.zero ≤ period) {now : Instant} (ha : now ∈ a.time?)
    {w : OpenWindow} (h : window? period (acts ++ [a]) = some w) :
    lasts period now w.opening = true := by
  rw [window?_concat] at h
  rcases advance_cases h with ⟨v, -, hkeeps, rfl⟩ | ⟨n, rfl, -⟩
  · rw [Act.keeps, ha] at hkeeps
    exact hkeeps
  · cases ha
    have hnonneg : 0 ≤ period.micros := hperiod
    exact decide_eq_true (by omega)

/-- Nothing is done after the last. -/
theorem InOrder.le_last (h : InOrder (acts ++ [a])) {now : Instant} (ha : now ∈ a.time?) :
    ∀ b ∈ acts ++ [a], ∀ t ∈ b.time?, t.micros ≤ now.micros := by
  intro b hb t ht
  rcases List.mem_append.1 hb with hb | hb
  · exact (List.pairwise_append.1 h).2.2 b hb a (List.mem_singleton_self a) t ht now ha
  · rw [List.mem_singleton.1 hb, ha] at ht
    cases ht
    exact Int.le_refl _

/-- **No more is in the open window than was added in the period**, where time does not run
backwards: the window is opened in the period, and what was added to it was added after that. -/
theorem counted_le_added (hperiod : Span.zero ≤ period) (h : InOrder (acts ++ [a])) {now : Instant}
    (ha : now ∈ a.time?) : counted (window? period (acts ++ [a])) ≤
      added ((acts ++ [a]).filter (·.inPeriod period now)) := by
  cases hwindow : window? period (acts ++ [a]) with
  | none => exact Nat.zero_le _
  | some w =>
      have hlasts := of_decide_eq_true (lasts_of_window? hperiod ha hwindow)
      obtain ⟨past, n, later, hacts, -, -, hlater, hcount⟩ := window?_eq_some_iff.1 hwindow
      have hlast := h.le_last ha
      rw [hacts] at h hlast ⊢
      have hopening := (List.pairwise_cons.1 (List.pairwise_append.1 h).2.1).1
      have hsince : ∀ b ∈ Act.add w.opening n :: later, b.inPeriod period now = true := by
        intro b hb
        obtain ⟨t, ht, hle⟩ : ∃ t, b.time? = some t ∧ w.opening.micros ≤ t.micros := by
          rcases List.mem_cons.1 hb with rfl | hb
          · exact ⟨w.opening, rfl, Int.le_refl _⟩
          · obtain ⟨t, ht, -⟩ := Act.keeps_iff.1 (hlater b hb)
            exact ⟨t, ht, hopening b hb w.opening rfl t ht⟩
        rw [Act.inPeriod, ht]
        exact decide_eq_true ⟨by omega, hlast b (List.mem_append_right past hb) t ht⟩
      calc counted (some w) = added (Act.add w.opening n :: later) := hcount
        _ = added ((Act.add w.opening n :: later).filter (·.inPeriod period now)) := by
            rw [List.filter_eq_self.2 hsince]
        _ ≤ added ((past ++ Act.add w.opening n :: later).filter (·.inPeriod period now)) := by
            rw [List.filter_append, added_append]
            exact Nat.le_add_left _ _

end Histories

/-! ## One operation -/

/-- A counter without its window, if that is stale. -/
def aged (c : OccurrenceCounter) (now : Instant) : OccurrenceCounter :=
  if c.entries.head?.all fun e => lasts c.period now e.1 then c else c.reset

/-- A counter with occurrences added to its window. -/
def put (c : OccurrenceCounter) (time : Instant) (n : Nat) : OccurrenceCounter :=
  if n = 0 then c
  else { c with entries := addEntry time n c.entries, total := addCounts c.total n }

/-- A counter after something is done, in the calendar. -/
def after (c : OccurrenceCounter) : Act → OccurrenceCounter
  | .add time n => (c.aged time).put time n
  | .dropStale time => c.aged time
  | .reset => c.reset

section Operations

variable {c : OccurrenceCounter} {now time : Instant} {n : Nat} {a : Act}

theorem dropStale_eq (h : now.minus? c.period ≠ none) : c.dropStale now = .ok (c.aged now) := by
  obtain ⟨period, entries, total⟩ := c
  rw [dropStale, Instant.minus?_eq_some h, aged]
  cases entries with
  | nil => rfl
  | cons e rest => simp only [List.head?_cons, Option.all_some, lasts_iff, ite_not]

theorem add_eq (h : now.minus? c.period ≠ none) : c.add now n = .ok ((c.aged now).put now n) := by
  rw [add, dropStale_eq h, put]
  by_cases hn : n = 0
  · rw [if_pos hn]
    exact if_pos hn
  · rw [if_neg hn]
    exact if_neg hn

@[simp] theorem period_reset : c.reset.period = c.period := rfl

@[simp] theorem period_aged : (c.aged now).period = c.period := by
  rw [aged]
  split <;> rfl

@[simp] theorem period_put : (c.put time n).period = c.period := by
  rw [put]
  split <;> rfl

@[simp] theorem period_after : (c.after a).period = c.period := by
  cases a <;> simp [after]

/-- In the calendar there is a result. -/
theorem apply_eq (h : ∀ t ∈ a.time?, t.minus? c.period ≠ none) : c.apply a = .ok (c.after a) := by
  cases a with
  | add time n => exact add_eq (h time rfl)
  | dropStale time => exact dropStale_eq (h time rfl)
  | reset => rfl

theorem addEntry_concat (es : List (Instant × Nat)) (last : Instant) (m : Nat) :
    addEntry time n (es ++ [(last, m)]) =
      es ++ if last = time then [(last, addCounts m n)] else [(last, m), (time, n)] := by
  induction es with
  | nil => rfl
  | cons e es ih =>
      rw [List.cons_append, List.cons_append, ← ih]
      cases es <;> rfl

/-- Occurrences are added to the last entry, or they are a new one. -/
theorem addEntry_cases (time : Instant) (n : Nat) (entries : List (Instant × Nat)) :
    (∃ es m, entries = es ++ [(time, m)] ∧
      addEntry time n entries = es ++ [(time, addCounts m n)]) ∨
    (∀ e ∈ entries.getLast?, e.1 ≠ time) ∧ addEntry time n entries = entries ++ [(time, n)] := by
  rcases List.eq_nil_or_concat entries with rfl | ⟨es, ⟨last, m⟩, rfl⟩
  · exact Or.inr ⟨nofun, rfl⟩
  · rw [List.concat_eq_append, addEntry_concat]
    by_cases hsame : last = time
    · rw [if_pos hsame, hsame]
      exact Or.inl ⟨es, m, rfl, rfl⟩
    · rw [if_neg hsame, List.getLast?_concat, List.append_assoc]
      refine Or.inr ⟨fun e he => ?_, rfl⟩
      cases he
      exact hsame

/-- The first entry stays the first. -/
theorem head?_addEntry (time : Instant) (n : Nat) (es : List (Instant × Nat)) :
    (addEntry time n es).head?.map Prod.fst = some ((es.head?.map Prod.fst).getD time) := by
  match es with
  | [] => rfl
  | [(last, m)] =>
      rw [addEntry]
      split <;> rfl
  | e :: f :: es => rfl

end Operations

/-! ## Counters and windows -/

/-- A counter shows a window: when it was opened, and how much is in it. -/
structure Agrees (c : OccurrenceCounter) (window : Option OpenWindow) : Prop where
  /-- The first entry tells when the window was opened. -/
  opening : c.entries.head?.map Prod.fst = window.map (·.opening)
  /-- The total tells how much is in it. -/
  total : c.total = min (counted window) maxCount

section Windows

variable {c : OccurrenceCounter} {window : Option OpenWindow} {now : Instant}

theorem Agrees.reset (c : OccurrenceCounter) : c.reset.Agrees none := ⟨rfl, rfl⟩

theorem Agrees.aged (h : c.Agrees window) (now : Instant) :
    (c.aged now).Agrees (lasting c.period now window) := by
  have hall : (c.entries.head?.all fun e => lasts c.period now e.1) =
      window.all fun w => lasts c.period now w.opening := calc
    (c.entries.head?.all fun e => lasts c.period now e.1) =
        (c.entries.head?.map Prod.fst).all (lasts c.period now) := Option.all_map.symm
    _ = window.all fun w => lasts c.period now w.opening := by rw [h.opening, Option.all_map]
  rw [OccurrenceCounter.aged, hall]
  cases window with
  | none => exact h
  | some w =>
      rw [lasting, Option.filter_some, Option.all_some]
      by_cases hlasts : lasts c.period now w.opening = true
      · rw [if_pos hlasts, if_pos hlasts]
        exact h
      · rw [if_neg hlasts, if_neg hlasts]
        exact .reset c

theorem Agrees.put (h : c.Agrees window) (time : Instant) (n : Nat) :
    (c.put time n).Agrees (extend time n window) := by
  rw [OccurrenceCounter.put]
  by_cases hn : n = 0
  · rw [if_pos hn, hn]
    cases window with
    | none => exact h
    | some w => exact h
  · rw [if_neg hn]
    have hopening := head?_addEntry time n c.entries
    rw [h.opening] at hopening
    cases window with
    | none =>
        rw [extend, if_neg hn]
        refine ⟨hopening, ?_⟩
        show addCounts c.total n = min n maxCount
        rw [h.total, addCounts, counted, Option.elim_none, Nat.zero_min, Nat.zero_add]
    | some w =>
        refine ⟨hopening, ?_⟩
        show addCounts c.total n = min (w.count + n) maxCount
        rw [h.total, addCounts, counted, Option.elim_some]
        omega

/-- **A counter keeps showing the open window.** -/
theorem Agrees.after (h : c.Agrees window) (a : Act) :
    (c.after a).Agrees (advance c.period window a) := by
  cases a with
  | add time n => exact (h.aged time).put time n
  | dropStale time => exact h.aged time
  | reset => exact .reset c

end Windows

/-! ## Entries -/

/-- The entries of a counter after a history in which time does not run backwards. -/
structure Ordered (acts : List Act) (c : OccurrenceCounter) : Prop where
  /-- The entries are in the order of their times, and there is one for each time. -/
  increasing : c.entries.Pairwise fun e f => e.1.micros < f.1.micros
  /-- There are no empty entries. -/
  positive : ∀ e ∈ c.entries, 0 < e.2
  /-- An entry tells a time at which something was done. -/
  recorded : ∀ e ∈ c.entries, ∃ a ∈ acts, a.time? = some e.1

section Entries

variable {acts acts' : List Act} {a : Act} {c : OccurrenceCounter} {now : Instant}

theorem Ordered.reset (acts : List Act) (c : OccurrenceCounter) : Ordered acts c.reset :=
  ⟨.nil, nofun, nofun⟩

theorem Ordered.mono (h : Ordered acts c) (hsub : acts ⊆ acts') : Ordered acts' c := by
  refine ⟨h.increasing, h.positive, fun e he => ?_⟩
  obtain ⟨a, ha, htime⟩ := h.recorded e he
  exact ⟨a, hsub ha, htime⟩

theorem Ordered.aged (h : Ordered acts c) (now : Instant) : Ordered acts (c.aged now) := by
  rw [OccurrenceCounter.aged]
  split
  · exact h
  · exact .reset acts c

/-- The last entry is the latest. -/
theorem Ordered.lt_of_last_ne (h : Ordered acts c)
    (hlatest : ∀ e ∈ c.entries, e.1.micros ≤ now.micros)
    (hlast : ∀ e ∈ c.entries.getLast?, e.1 ≠ now) : ∀ e ∈ c.entries, e.1.micros < now.micros := by
  intro e he
  have hincreasing := h.increasing
  rcases List.eq_nil_or_concat c.entries with hnil | ⟨es, last, hentries⟩
  · rw [hnil] at he
    cases he
  · rw [List.concat_eq_append] at hentries
    rw [hentries] at he hlatest hlast hincreasing
    have hlt : last.1.micros < now.micros := by
      have hle := hlatest last (List.mem_append_right es (List.mem_singleton_self last))
      have hne : last.1.micros ≠ now.micros := fun heq =>
        hlast last List.getLast?_concat (congrArg Instant.mk heq)
      omega
    rcases List.mem_append.1 he with he | he
    · have hle := (List.pairwise_append.1 hincreasing).2.2 e he last (List.mem_singleton_self last)
      omega
    · rw [List.mem_singleton.1 he]
      exact hlt

theorem Ordered.put (h : Ordered acts c) (hlatest : ∀ e ∈ c.entries, e.1.micros ≤ now.micros)
    (hnow : ∃ a ∈ acts, a.time? = some now) (n : Nat) : Ordered acts (c.put now n) := by
  rw [OccurrenceCounter.put]
  by_cases hn : n = 0
  · rw [if_pos hn]
    exact h
  rw [if_neg hn]
  rcases addEntry_cases now n c.entries with ⟨es, m, hentries, hadded⟩ | ⟨hlast, hadded⟩
  · have hincreasing := h.increasing
    rw [hentries] at hincreasing
    obtain ⟨hes, -, hbefore⟩ := List.pairwise_append.1 hincreasing
    have hmem : ∀ e ∈ es, e ∈ c.entries := by
      intro e he
      rw [hentries]
      exact List.mem_append_left _ he
    constructor <;> simp only [hadded, List.forall_mem_append, List.forall_mem_singleton]
    case increasing =>
      refine List.pairwise_append.2 ⟨hes, List.pairwise_singleton _ _, fun e he f hf => ?_⟩
      rw [List.mem_singleton.1 hf]
      exact hbefore e he (now, m) (List.mem_singleton_self _)
    case positive =>
      exact ⟨fun e he => h.positive e (hmem e he), Nat.lt_min.2 ⟨by omega, by decide⟩⟩
    case recorded => exact ⟨fun e he => h.recorded e (hmem e he), hnow⟩
  · have hbefore := h.lt_of_last_ne hlatest hlast
    constructor <;> simp only [hadded, List.forall_mem_append, List.forall_mem_singleton]
    case increasing =>
      refine List.pairwise_append.2 ⟨h.increasing, List.pairwise_singleton _ _, fun e he f hf => ?_⟩
      rw [List.mem_singleton.1 hf]
      exact hbefore e he
    case positive => exact ⟨h.positive, Nat.pos_of_ne_zero hn⟩
    case recorded => exact ⟨h.recorded, hnow⟩

/-- **Entries stay in order** as long as time does not run backwards. -/
theorem Ordered.after (h : Ordered acts c) (horder : InOrder (acts ++ [a])) :
    Ordered (acts ++ [a]) (c.after a) := by
  have h' : Ordered (acts ++ [a]) c := h.mono (List.subset_append_left acts [a])
  cases a with
  | add time n =>
      refine (h'.aged time).put ?_ ⟨_, List.mem_append_right _ (List.mem_singleton_self _), rfl⟩ n
      intro e he
      obtain ⟨b, hb, htime⟩ := (h'.aged time).recorded e he
      exact horder.le_last rfl b hb e.1 htime
  | dropStale time => exact h'.aged time
  | reset => exact .reset _ c

end Entries

/-! ## Runs -/

/-- A new counter after a history, in the calendar. -/
def run (period : Span) (acts : List Act) : OccurrenceCounter := acts.foldl after (new period)

/-- What a counter says about its period, which ends at `now`. -/
structure Sound (c : OccurrenceCounter) (acts : List Act) (now : Instant) : Prop where
  /-- Every entry lies in the period, its ends included. -/
  inPeriod : ∀ e ∈ c.entries,
    now.micros - c.period.micros ≤ e.1.micros ∧ e.1.micros ≤ now.micros
  /-- The times of the entries increase. -/
  increasing : c.entries.Pairwise fun e f => e.1.micros < f.1.micros
  /-- There are no empty entries. -/
  positive : ∀ e ∈ c.entries, 0 < e.2
  /-- No more is counted than was added in the period. -/
  bounded : c.total ≤ added (acts.filter (·.inPeriod c.period now))

section Runs

variable {period : Span} {acts : List Act} {a : Act} {now : Instant}

theorem run_concat (acts : List Act) (a : Act) :
    run period (acts ++ [a]) = (run period acts).after a := by
  rw [run, List.foldl_append, List.foldl_cons, List.foldl_nil, run]

@[simp] theorem period_run (acts : List Act) : (run period acts).period = period := by
  induction acts using List.reverseRecOn with
  | nil => rfl
  | append_singleton acts a ih => rw [run_concat, period_after, ih]

/-- In the calendar every history has a result. -/
theorem replay_eq (h : ∀ a ∈ acts, ∀ t ∈ a.time?, t.minus? period ≠ none) :
    replay period acts = .ok (run period acts) := by
  induction acts using List.reverseRecOn with
  | nil => rfl
  | append_singleton acts a ih =>
      have hacts := ih fun b hb => h b (List.mem_append_left _ hb)
      have ha : ∀ t ∈ a.time?, t.minus? (run period acts).period ≠ none := by
        rw [period_run]
        exact h a (List.mem_append_right _ (List.mem_singleton_self a))
      rw [replay] at hacts ⊢
      rw [List.foldlM_append, hacts, run_concat]
      show [a].foldlM apply (run period acts) = _
      rw [List.foldlM_cons, apply_eq ha]
      rfl

/-- **A counter shows the window that its history leaves open.** -/
theorem agrees_run (period : Span) (acts : List Act) :
    (run period acts).Agrees (window? period acts) := by
  induction acts using List.reverseRecOn with
  | nil => exact ⟨rfl, rfl⟩
  | append_singleton acts a ih =>
      have hafter := ih.after a
      rw [period_run] at hafter
      rw [run_concat, window?_concat]
      exact hafter

theorem ordered_run (period : Span) (h : InOrder acts) : Ordered acts (run period acts) := by
  induction acts using List.reverseRecOn with
  | nil => exact .reset [] (new period)
  | append_singleton acts a ih =>
      rw [run_concat]
      exact (ih (List.pairwise_append.1 h).1).after h

/-- **What a counter says is so** after something is done, where time does not run backwards. -/
theorem sound_run (hperiod : Span.zero ≤ period) (h : InOrder (acts ++ [a])) (ha : now ∈ a.time?) :
    (run period (acts ++ [a])).Sound (acts ++ [a]) now := by
  have hagrees := agrees_run period (acts ++ [a])
  obtain ⟨increasing, positive, recorded⟩ := ordered_run period h
  refine ⟨fun e he => ⟨?_, ?_⟩, increasing, positive, ?_⟩
  · have hopening := hagrees.opening
    rw [period_run]
    cases hentries : (run period (acts ++ [a])).entries with
    | nil =>
        rw [hentries] at he
        cases he
    | cons first rest =>
        rw [hentries] at he hopening increasing
        obtain ⟨w, hw, hfirst⟩ := Option.map_eq_some_iff.1 hopening.symm
        have hlasts := of_decide_eq_true (lasts_of_window? hperiod ha hw)
        rw [hfirst] at hlasts
        rcases List.mem_cons.1 he with rfl | he
        · exact hlasts
        · have hlt := (List.pairwise_cons.1 increasing).1 e he
          omega
  · obtain ⟨b, hb, htime⟩ := recorded e he
    exact h.le_last ha b hb e.1 htime
  · rw [hagrees.total, period_run]
    exact Nat.le_trans (Nat.min_le_left _ _) (counted_le_added hperiod h ha)

end Runs

end OccurrenceCounter

section Counting

open OccurrenceCounter

/-! ## Rates -/

/-- The reading of a counter at a time, with the value it had before. -/
def Sighting.ofCounter (x : Instant × Float × Option Float) : Sighting :=
  ⟨x.1, .counter x.2.1 x.2.2⟩

/-- The occurrences that the reading of a counter stands for. -/
def risen (x : Instant × Float × Option Float) : Act := .add x.1 (increase x.2.1 x.2.2)

/-- What could be counted is counted over a period that starts in the calendar. -/
theorem OccurrenceCounter.minus?_ne_none {k k' : OccurrenceCounter} {now : Instant} {n : Nat}
    (h : k.add now n = .ok k') : now.minus? k.period ≠ none := by
  rw [ne_eq, ← OccurrenceCounter.add_fails_iff (n := n), h]
  exact nofun

theorem OccurrenceCounter.add_eq_of_ok {k k' : OccurrenceCounter} {now : Instant} {n : Nat}
    (h : k.add now n = .ok k') : k' = k.after (.add now n) :=
  Except.ok.inj (h.symm.trans (add_eq (minus?_ne_none h)))

/-- Comparing leaves the counters alone, so that they count the increases. -/
theorem counters_course {c : MetricConfig} {xs : List (Instant × Float × Option Float)}
    {K : Course} (h : c.course (xs.map Sighting.ofCounter) = .ok K) :
    K.state.counters =
      (run c.warning.window (xs.map risen), run c.critical.window (xs.map risen)) := by
  induction xs using List.reverseRecOn generalizing K with
  | nil =>
      cases h
      rfl
  | append_singleton xs x ih =>
      rw [List.map_append] at h
      obtain ⟨K, step, hK, hstep, rfl⟩ := MetricConfig.course_concat_eq_ok h
      obtain ⟨s, hs, hstep⟩ := exists_of_bind_eq_ok hstep
      obtain ⟨warning, critical, hw, hc, rfl⟩ := countOccurrences_eq_ok hs
      obtain ⟨hwarning, hcritical⟩ := Prod.mk.inj (ih hK)
      rw [hwarning] at hw
      rw [hcritical] at hc
      rw [Course.state_add, ← Except.ok.inj hstep, Measure.counters_classify, List.map_append,
        List.map_singleton, run_concat, run_concat]
      exact Prod.ext (OccurrenceCounter.add_eq_of_ok hw) (OccurrenceCounter.add_eq_of_ok hc)

/-- **What is compared with a threshold** are the increases so far, counted over the window of its
level. -/
theorem occurrences_course {c : MetricConfig} {xs : List (Instant × Float × Option Float)}
    {K : Course} (h : c.course (xs.map Sighting.ofCounter) = .ok K) (severity : Severity) :
    (K.state.alarm severity).occurrences = run (c.level severity).window (xs.map risen) := by
  obtain ⟨hwarning, hcritical⟩ := Prod.mk.inj (counters_course h)
  cases severity with
  | critical => exact hcritical
  | _ => exact hwarning

/-! ## Counting in the period -/

/-- **Occurrences are counted within their period.**  After every history a counter shows the number
of the window that is left open; and where time does not run backwards, what it says about the
period that ends with the last addition or eviction is so.

A rate is such a number: what is compared with a threshold after a reading of a counter is the
number of the window that the increases so far leave open, and no occurrence outside of the period
that ends with the reading is counted. -/
theorem occurrences_counted_in_period :
    (∀ period, Span.zero ≤ period → ∀ acts : List Act,
      (∀ a ∈ acts, ∀ t ∈ a.time?, t.minus? period ≠ none) →
      ∃ c, replay period acts = .ok c ∧ c.period = period ∧
        c.total = min (counted (window? period acts)) maxCount ∧
        (InOrder acts → ∀ past a now, acts = past ++ [a] → a.time? = some now →
          c.Sound acts now)) ∧
    ∀ c : MetricConfig, c.NonNegative → ∀ xs x K,
      c.course ((xs ++ [x]).map Sighting.ofCounter) = .ok K → ∀ severity,
        (K.state.alarm severity).occurrences.total =
          min (counted (window? (c.level severity).window ((xs ++ [x]).map risen))) maxCount ∧
        (InOrder ((xs ++ [x]).map risen) →
          (K.state.alarm severity).occurrences.Sound ((xs ++ [x]).map risen) x.1) := by
  constructor
  · intro period hperiod acts hcalendar
    refine ⟨run period acts, replay_eq hcalendar, period_run acts,
      (agrees_run period acts).total, ?_⟩
    rintro horder past a now rfl ha
    exact sound_run hperiod horder ha
  · intro c hc xs x K hK severity
    have hperiod : Span.zero ≤ (c.level severity).window := by
      cases severity with
      | critical => exact hc.critical
      | _ => exact hc.warning
    rw [occurrences_course hK]
    refine ⟨(agrees_run _ _).total, fun horder => ?_⟩
    rw [List.map_append, List.map_singleton] at horder ⊢
    exact sound_run hperiod horder rfl

/-- Two occurrences with three more at the end of their period, one that is too old in the end, and
then more than can be counted. -/
def crowded : List Act :=
  [.add ⟨0⟩ 2, .dropStale ⟨60⟩, .add ⟨60⟩ 3, .reset, .add ⟨60⟩ 0, .add ⟨61⟩ 1, .dropStale ⟨122⟩,
    .add ⟨123⟩ 4, .add ⟨123⟩ maxCount, .add ⟨124⟩ 5]

/-- Rates over a minute. -/
def perMinute : MetricConfig :=
  ⟨"blocks_missed", "hub", true, ⟨true, 2, ⟨60000000⟩⟩, ⟨true, 5, ⟨60000000⟩⟩, false, Span.zero,
    none⟩

/-- A counter that increases by three and by two within a minute, and by one just after it. -/
def sampledBlocks : List (Instant × Float × Option Float) :=
  [(⟨0⟩, 3, some 0), (⟨60000000⟩, 5, some 3), (⟨60000001⟩, 6, some 5)]

/-- The total stops at the largest number, and the last occurrences are an entry of their own.  Of a
counter that increases the last occurrence is counted only, as the window was opened too long
ago. -/
theorem occurrences_counted_in_period_crowded :
    (Span.zero ≤ (⟨60⟩ : Span) ∧ (∀ a ∈ crowded, ∀ t ∈ a.time?, t.minus? ⟨60⟩ ≠ none) ∧
      InOrder crowded ∧ window? ⟨60⟩ crowded = some ⟨⟨123⟩, maxCount + 9⟩ ∧
      ∃ c, replay ⟨60⟩ crowded = .ok c ∧ c.total = maxCount ∧
        c.entries = [(⟨123⟩, maxCount), (⟨124⟩, 5)] ∧ c.Sound crowded ⟨124⟩) ∧
    perMinute.NonNegative ∧ InOrder (sampledBlocks.map risen) ∧
      ∃ K, perMinute.course (sampledBlocks.map Sighting.ofCounter) = .ok K ∧
        K.state.warning.occurrences.total = 1 ∧
        K.state.warning.occurrences.Sound (sampledBlocks.map risen) ⟨60000001⟩ := by
  obtain ⟨hcounters, hrates⟩ := occurrences_counted_in_period
  constructor
  · have hcalendar : ∀ a ∈ crowded, ∀ t ∈ a.time?, t.minus? ⟨60⟩ ≠ none := by decide
    have horder : InOrder crowded := by decide
    have hwindow : window? ⟨60⟩ crowded = some ⟨⟨123⟩, maxCount + 9⟩ := by decide
    obtain ⟨c, hc, -, htotal, hsound⟩ := hcounters ⟨60⟩ (by decide) crowded hcalendar
    have hentries : (replay ⟨60⟩ crowded).map (·.entries) =
        .ok [(⟨123⟩, maxCount), (⟨124⟩, 5)] := by decide
    rw [hc] at hentries
    refine ⟨by decide, hcalendar, horder, hwindow, c, hc, ?_, Except.ok.inj hentries,
      hsound horder crowded.dropLast (.add ⟨124⟩ 5) ⟨124⟩ rfl rfl⟩
    rw [htotal, hwindow]
    rfl
  · have hnonNegative : perMinute.NonNegative := ⟨by decide, by decide, by decide⟩
    have horder : InOrder (sampledBlocks.map risen) := by decide +kernel
    have hwindow : window? ⟨60000000⟩ (sampledBlocks.map risen) = some ⟨⟨60000001⟩, 1⟩ := by
      decide +kernel
    have hcalendar : ∀ y ∈ sampledBlocks, y.1.minus? ⟨60000000⟩ ≠ none := by decide +kernel
    have hcovers : ∀ x ∈ sampledBlocks.map Sighting.ofCounter, perMinute.Covers x := by
      intro x hx
      obtain ⟨y, hy, rfl⟩ := List.mem_map.1 hx
      exact fun _ => ⟨hcalendar y hy, hcalendar y hy⟩
    obtain ⟨K, hK⟩ := MetricConfig.exists_course hcovers
    obtain ⟨htotal, hsound⟩ := hrates perMinute hnonNegative sampledBlocks.dropLast
      (⟨60000001⟩, 6, some 5) K hK .warning
    have hone : min (counted (window? ⟨60000000⟩ (sampledBlocks.map risen))) maxCount = 1 := by
      rw [hwindow]
      rfl
    exact ⟨hnonNegative, horder, K, hK, htotal.trans hone, hsound horder⟩

end Counting

end NodeAlerts
