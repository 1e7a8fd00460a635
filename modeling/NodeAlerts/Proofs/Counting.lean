import NodeAlerts.Proofs.Occurrences

/-!
# Counting at once and one by one

A counter that is told of many occurrences at a time ends up as one that is told of each of them
(`bulk_counting_is_unit_counting`): with the same entries and the same total, also where either
stops at `maxCount`.

Two facts carry this.  A counter that was told of occurrences is not stale at that time, so that the
second occurrence and those behind it drop nothing (`aged_put`); and what is added twice at one time
is added to one entry (`put_put`).  Both are about arbitrary counters, whose entries need not be in
order and whose total need not be that of the entries.
-/

namespace NodeAlerts.OccurrenceCounter

open NodeAlerts.Double

/-! ## Adding counts -/

/-- Counts are added up as if they had no largest one, and then stop at it. -/
theorem addCounts_addCounts (a m n : Nat) : addCounts (addCounts a m) n = addCounts a (m + n) := by
  simp only [addCounts]
  omega

theorem addCounts_eq_add {m n : Nat} (h : m + n ≤ maxCount) : addCounts m n = m + n :=
  Nat.min_eq_left h

/-- Occurrences that are added twice at one time are in one entry. -/
theorem addEntry_addEntry (time : Instant) {m n : Nat} (h : m + n ≤ maxCount)
    (entries : List (Instant × Nat)) :
    addEntry time n (addEntry time m entries) = addEntry time (m + n) entries := by
  rcases List.eq_nil_or_concat entries with rfl | ⟨es, ⟨last, k⟩, rfl⟩
  · show (if time = time then [(time, addCounts m n)] else _) = [(time, m + n)]
    rw [if_pos rfl, addCounts_eq_add h]
  · rw [List.concat_eq_append, addEntry_concat, addEntry_concat]
    by_cases hsame : last = time
    · rw [if_pos hsame, if_pos hsame, addEntry_concat, if_pos hsame, addCounts_addCounts]
    · rw [if_neg hsame, if_neg hsame]
      -- the first occurrences are a new entry, to which the others are added
      have hlast : es ++ [(last, k), (time, m)] = (es ++ [(last, k)]) ++ [(time, m)] := by
        rw [List.append_assoc]
        rfl
      rw [hlast, addEntry_concat, if_pos rfl, addCounts_eq_add h, List.append_assoc]
      rfl

section Operations

variable {c : OccurrenceCounter} {time : Instant} {m n : Nat}

theorem put_of_pos (hn : 0 < n) : c.put time n =
    { c with entries := addEntry time n c.entries, total := addCounts c.total n } :=
  if_neg (Nat.ne_of_gt hn)

/-- **What is added twice at one time is added to one entry.** -/
theorem put_put (hm : 0 < m) (hn : 0 < n) (h : m + n ≤ maxCount) :
    (c.put time m).put time n = c.put time (m + n) := by
  rw [put_of_pos hm, put_of_pos hn, put_of_pos (Nat.add_pos_left hm n),
    addEntry_addEntry time h c.entries, addCounts_addCounts]

/-! ## Dropping what is stale -/

/-- Whether the window of a counter still lasts; without an entry there is none to drop. -/
theorem aged_of_lasts (h : (c.entries.head?.map Prod.fst).all (lasts c.period time) = true) :
    c.aged time = c := by
  rw [Option.all_map] at h
  exact if_pos h

/-- A window that is not dropped lasts. -/
theorem lasts_aged :
    ((c.aged time).entries.head?.map Prod.fst).all (lasts c.period time) = true := by
  rw [aged, Option.all_map]
  split
  case isTrue hlasts => exact hlasts
  case isFalse => rfl

/-- A window lasts at the time at which it is opened. -/
theorem lasts_self {period : Span} (h : Span.zero ≤ period) (now : Instant) :
    lasts period now now = true := by
  have hnonneg : 0 ≤ period.micros := h
  exact decide_eq_true (by omega)

/-- **A counter is not stale when it was just told of occurrences**: its first entry lasted before,
or is the new one. -/
theorem aged_put (hperiod : Span.zero ≤ c.period) (hn : 0 < n) :
    ((c.aged time).put time n).aged time = (c.aged time).put time n := by
  refine aged_of_lasts ?_
  have hlasts : ((c.aged time).entries.head?.map Prod.fst).all (lasts c.period time) = true :=
    lasts_aged
  rw [period_put, period_aged, put_of_pos hn, head?_addEntry, Option.all_some]
  cases hfirst : (c.aged time).entries.head?.map Prod.fst with
  | none => exact lasts_self hperiod time
  | some first =>
      rw [hfirst] at hlasts
      exact hlasts

/-! ## Many occurrences -/

/-- One more occurrence after many. -/
theorem apply_put_one (hperiod : Span.zero ≤ c.period) (htime : time.minus? c.period ≠ none)
    (hn : 0 < n) (hmost : n + 1 ≤ maxCount) :
    ((c.aged time).put time n).apply (.add time 1) = .ok ((c.aged time).put time (n + 1)) := by
  have hagain : time.minus? ((c.aged time).put time n).period ≠ none := by
    rwa [period_put, period_aged]
  calc ((c.aged time).put time n).apply (.add time 1)
      = .ok ((((c.aged time).put time n).aged time).put time 1) := add_eq hagain
    _ = .ok (((c.aged time).put time n).put time 1) := by rw [aged_put hperiod hn]
    _ = .ok ((c.aged time).put time (n + 1)) := by rw [put_put hn Nat.one_pos hmost]

/-- Occurrences that are counted one by one, by their number. -/
theorem foldlM_add_one (hperiod : Span.zero ≤ c.period) (htime : time.minus? c.period ≠ none)
    (hmost : n + 1 ≤ maxCount) :
    (List.replicate (n + 1) (Act.add time 1)).foldlM apply c =
      .ok ((c.aged time).put time (n + 1)) := by
  induction n with
  | zero =>
      show (c.add time 1 >>= fun c => .ok c) = _
      rw [add_eq htime]
      rfl
  | succ n ih =>
      rw [List.replicate_succ', List.foldlM_append, ih (Nat.le_of_succ_le hmost)]
      show (((c.aged time).put time (n + 1)).apply (.add time 1) >>= fun c => .ok c) = _
      rw [apply_put_one hperiod htime (Nat.succ_pos n) hmost]
      rfl

end Operations

/-- **Counting at once is counting one by one.**  Whatever a counter holds: at a time from which its
period reaches back into the calendar, counting `n` occurrences, up to as many as can be told of at
once, leaves the same counter as `n` times counting one, and counting none leaves the counter that
dropping a stale window leaves. -/
theorem bulk_counting_is_unit_counting {c : OccurrenceCounter} (hperiod : Span.zero ≤ c.period)
    {time : Instant} (htime : time.minus? c.period ≠ none) :
    (∀ n, 1 ≤ n → n ≤ maxCount → ∃ c', c.add time n = .ok c' ∧
      (List.replicate n (Act.add time 1)).foldlM apply c = .ok c') ∧
    ∃ c', c.add time 0 = .ok c' ∧ c.dropStale time = .ok c' := by
  refine ⟨fun n hn hmost => ?_, _, add_eq htime, dropStale_eq htime⟩
  obtain ⟨k, rfl⟩ := Nat.exists_eq_succ_of_ne_zero (Nat.ne_of_gt hn)
  exact ⟨_, add_eq htime, foldlM_add_one hperiod htime hmost⟩

/-- A counter of a minute, three occurrences short of the largest count, all of them at one time. -/
def nearlyFull : OccurrenceCounter := ⟨⟨60000000⟩, [(⟨0⟩, maxCount - 3)], maxCount - 3⟩

/-- The same counter after five occurrences at an earlier time: its total stops at the largest
count, and the occurrences are an entry of their own. -/
def overfull : OccurrenceCounter :=
  ⟨⟨60000000⟩, [(⟨0⟩, maxCount - 3), (⟨-1000000⟩, 5)], maxCount⟩

/-- A counter fills up in the same way at once and one by one. -/
theorem bulk_counting_is_unit_counting_nearlyFull :
    Span.zero ≤ nearlyFull.period ∧ (⟨-1000000⟩ : Instant).minus? nearlyFull.period ≠ none ∧
      nearlyFull.add ⟨-1000000⟩ 5 = .ok overfull ∧
      (List.replicate 5 (Act.add ⟨-1000000⟩ 1)).foldlM apply nearlyFull = .ok overfull := by
  have hperiod : Span.zero ≤ nearlyFull.period := by decide
  have htime : (⟨-1000000⟩ : Instant).minus? nearlyFull.period ≠ none := by decide
  have hfull : nearlyFull.add ⟨-1000000⟩ 5 = .ok overfull := rfl
  obtain ⟨c', hc', hunits⟩ :=
    (bulk_counting_is_unit_counting hperiod htime).1 5 (by decide) (by decide)
  cases hfull.symm.trans hc'
  exact ⟨hperiod, htime, hfull, hunits⟩

end NodeAlerts.OccurrenceCounter
