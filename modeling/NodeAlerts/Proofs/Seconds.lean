import NodeAlerts.Proofs.Arithmetic
import NodeAlerts.Proofs.Calendar
import NodeAlerts.Time.Instant

/-!
# Times as seconds

A time that is written in seconds is read back from a double, as some number of microseconds
(`Instant.reread`).  That number is rounded three times: where the microseconds become a double,
where they are divided by a million and where they are multiplied by it again (`Retold`).

* `reread_mono`: times keep their order;
* `reread_eq_self`: from 1907 to 2033 the time that is read back is the time that was written;
* `ofSeconds?_toSeconds`: a time of the calendar is read back as one, but for those after
  `lastTold`, the last 512 microseconds, whose seconds are rounded to the end of the calendar;
* `le_lastTold_of_ofSeconds?`: a time that was read from seconds is not one of those.
-/

namespace NodeAlerts.Instant

open NodeAlerts.Double Float.Model.UnpackedFloat

/-! ## Rounding three times -/

/-- `n` microseconds are read back as the whole number nearest to `v`. -/
def Retold (n : ℕ) (v : ℚ) : Prop :=
  ∃ a b : ℚ, Rounds n a ∧ Rounds (a / 1000000) b ∧ Rounds (b * 1000000) v

section Retold

variable {n n' : ℕ} {v v' : ℚ}

theorem Retold.nonneg (h : Retold n v) : 0 ≤ ⌊v + 1 / 2⌋ := by
  obtain ⟨a, b, -, -, hv⟩ := h
  have hpos : 0 ≤ v := hv.nonneg
  exact Int.floor_nonneg.2 (by linarith)

theorem Retold.mono (h : Retold n v) (h' : Retold n' v') (hle : n ≤ n') :
    ⌊v + 1 / 2⌋ ≤ ⌊v' + 1 / 2⌋ := by
  obtain ⟨a, b, ha, hb, hv⟩ := h
  obtain ⟨a', b', ha', hb', hv'⟩ := h'
  have haa : a ≤ a' := ha.mono ha' (by exact_mod_cast hle)
  have hbb : b ≤ b' := hb.mono hb' (by linarith)
  have hvv : v ≤ v' := hv.mono hv' (by linarith)
  exact Int.floor_le_floor (by linarith)

/-- Two parts in `2 ^ 53` are less than half a microsecond. -/
theorem Retold.eq_self (h : Retold n v) (hn : 0 < n) (hhigh : n ≤ 2000000000000000) :
    ⌊v + 1 / 2⌋ = n := by
  obtain ⟨a, b, ha, hb, hv⟩ := h
  have hexact : (n : ℚ) = a := (rounds_natCast hn (by omega)).unique ha
  subst hexact
  have hmax : (n : ℚ) ≤ 2000000000000000 := by exact_mod_cast hhigh
  obtain ⟨hlow, hhigh⟩ := abs_le.1 hb.abs_sub_le
  obtain ⟨hlow', hhigh'⟩ := abs_le.1 hv.abs_sub_le
  rw [Int.floor_eq_iff]
  norm_num at hlow hhigh hlow' hhigh' ⊢
  constructor <;> linarith

end Retold

theorem hasValue_million : HasValue 1000000 .positive 1000000 := by
  refine ⟨.finite .positive 8589934592000000 (-33) (by decide), by decide, 8589934592000000, -33,
    ?_, rfl, ?_⟩
  · exact ⟨by decide, by decide, by decide, by decide⟩
  · norm_num

theorem exists_retold (s : Sign) {n : ℕ} (hn : 0 < n) (hhigh : n ≤ 2 ^ 64) :
    ∃ v, Retold n v ∧ isFinite (toSeconds ⟨s.apply n⟩) = true ∧
      HasValue (toSeconds ⟨s.apply n⟩ * 1000000) s v := by
  obtain ⟨a, ha, hra⟩ := exists_ofInt s hn hhigh
  have hlow : (2 : ℚ) ^ (0 : ℤ) ≤ a := hra.zpow_le (by rw [zpow_zero]; exact_mod_cast hn)
  have hhigh : a ≤ 2 ^ (64 : ℤ) := hra.le_zpow (by exact_mod_cast hhigh)
  norm_num at hlow hhigh
  obtain ⟨b, hb, hrb⟩ := ha.exists_div hasValue_million (by constructor <;> norm_num <;> linarith)
  have hlow' : (2 : ℚ) ^ (-20 : ℤ) ≤ b := hrb.zpow_le (by norm_num; linarith)
  have hhigh' : b ≤ 2 ^ (45 : ℤ) := hrb.le_zpow (by norm_num; linarith)
  norm_num at hlow' hhigh'
  obtain ⟨v, hv, hrv⟩ := hb.exists_mul hasValue_million (by constructor <;> norm_num <;> linarith)
  have hdiv : s / .positive = s := by cases s <;> rfl
  have hmul : s * .positive = s := by cases s <;> rfl
  rw [hdiv] at hb hv
  rw [hmul] at hv
  exact ⟨v, ⟨a, b, hra, hrb, hrv⟩, hb.isFinite, hv⟩

/-! ## Either side of 1970 -/

/-- `k` microseconds are read back as `l`. -/
inductive Echo : ℤ → ℤ → Prop where
  /-- Zero is told exactly. -/
  | zero : Echo 0 0
  /-- A positive number goes to the nearest whole one, a half going up. -/
  | positive {n : ℕ} {v : ℚ} (hn : 0 < n) (h : Retold n v) : Echo n ⌊v + 1 / 2⌋
  /-- A negative number is told like its opposite. -/
  | negative {n : ℕ} {v : ℚ} (hn : 0 < n) (h : Retold n v) : Echo (-n) (-⌊v + 1 / 2⌋)

theorem Echo.mono {k k' l l' : ℤ} (h : Echo k l) (h' : Echo k' l') (hle : k ≤ k') : l ≤ l' := by
  cases h with
  | zero =>
      cases h' with
      | zero => exact le_rfl
      | positive hn' h' => exact h'.nonneg
      | negative hn' h' => omega
  | positive hn h =>
      cases h' with
      | zero => omega
      | positive hn' h' => exact h.mono h' (by omega)
      | negative hn' h' => omega
  | negative hn h =>
      have hnonneg := h.nonneg
      cases h' with
      | zero => omega
      | positive hn' h' =>
          have hnonneg' := h'.nonneg
          omega
      | negative hn' h' =>
          have hmono := h'.mono h (by omega)
          omega

theorem Echo.eq_self {k l : ℤ} (h : Echo k l) (hk : k.natAbs ≤ 2000000000000000) : l = k := by
  cases h with
  | zero => rfl
  | positive hn h => exact h.eq_self hn (by omega)
  | negative hn h => rw [h.eq_self hn (by omega)]

/-! ## Written and read -/

/-- The microseconds that are read back from the seconds of an instant. -/
def reread (t : Instant) : Int := nearest (t.toSeconds * 1000000)

theorem exists_echo {t : Instant} (h : t.micros.natAbs ≤ 2 ^ 64) :
    isFinite t.toSeconds = true ∧
      ∃ l, Echo t.micros l ∧ t.reread = max minQuantity (min l maxQuantity) := by
  obtain ⟨k⟩ := t
  rcases lt_trichotomy k 0 with hneg | rfl | hpos
  · obtain ⟨n, rfl⟩ := Int.eq_negSucc_of_lt_zero hneg
    obtain ⟨v, hretold, hfinite, hvalue⟩ := exists_retold .negative n.succ_pos h
    exact ⟨hfinite, _, .negative n.succ_pos hretold, hvalue.nearest_eq⟩
  · exact ⟨by decide, 0, .zero, by decide +kernel⟩
  · obtain ⟨n, rfl⟩ := Int.eq_ofNat_of_zero_le hpos.le
    have hn : 0 < n := by omega
    obtain ⟨v, hretold, hfinite, hvalue⟩ := exists_retold .positive hn h
    exact ⟨hfinite, _, .positive hn hretold, hvalue.nearest_eq⟩

/-- **Times keep their order in seconds.** -/
theorem reread_mono {t t' : Instant} (h : t.micros.natAbs ≤ 2 ^ 64)
    (h' : t'.micros.natAbs ≤ 2 ^ 64) (hle : t.micros ≤ t'.micros) : t.reread ≤ t'.reread := by
  obtain ⟨-, l, hl, hreread⟩ := exists_echo h
  obtain ⟨-, l', hl', hreread'⟩ := exists_echo h'
  have hmono := hl.mono hl' hle
  rw [hreread, hreread']
  omega

/-- **Times of this age are told exactly.** -/
theorem reread_eq_self {t : Instant} (h : t.micros.natAbs ≤ 2000000000000000) :
    t.reread = t.micros := by
  obtain ⟨-, l, hl, hreread⟩ := exists_echo (t := t) (by omega)
  have hself := hl.eq_self h
  rw [hreread, minQuantity, maxQuantity]
  omega

/-- The last instant whose seconds lie in the calendar. -/
def lastTold : Instant := ⟨8210266876799999487⟩

theorem natAbs_le_of_inCalendar {t : Instant} (h : t.InCalendar) : t.micros.natAbs ≤ 2 ^ 64 := by
  obtain ⟨hlow, hhigh⟩ := h
  simp only [first, last] at hlow hhigh
  omega

/-- The end of the calendar is reached between two instants. -/
theorem inCalendar_reread_iff {t : Instant} (h : t.InCalendar) :
    (⟨t.reread⟩ : Instant).InCalendar ↔ t.micros ≤ lastTold.micros := by
  have habs := natAbs_le_of_inCalendar h
  constructor
  · intro hreread
    by_contra hafter
    have hmono : reread ⟨lastTold.micros + 1⟩ ≤ t.reread :=
      reread_mono (by decide) habs (Int.add_one_le_of_lt (not_le.1 hafter))
    have hend : last.micros < reread ⟨lastTold.micros + 1⟩ := by decide +kernel
    exact absurd hreread.2 (not_le.2 (hend.trans_le hmono))
  · intro hbefore
    have hlow : first.reread ≤ t.reread := reread_mono (by decide) habs h.1
    have hhigh : t.reread ≤ lastTold.reread := reread_mono habs (by decide) hbefore
    have hfirst : first.micros ≤ first.reread := by decide +kernel
    have hlast : lastTold.reread ≤ last.micros := by decide +kernel
    exact ⟨hfirst.trans hlow, hhigh.trans hlast⟩

/-- **What is read from the seconds of a time.** -/
theorem ofSeconds?_toSeconds {t : Instant} (h : t.InCalendar) :
    ofSeconds? t.toSeconds =
      if t.micros ≤ lastTold.micros then some ⟨t.reread⟩ else none := by
  obtain ⟨hfinite, -⟩ := exists_echo (natAbs_le_of_inCalendar h)
  have hread : ofSeconds? t.toSeconds =
      if (⟨t.reread⟩ : Instant).InCalendar then some ⟨t.reread⟩ else none := if_pos hfinite
  rw [hread]
  exact if_congr (inCalendar_reread_iff h) rfl rfl

/-! ## Read and written -/

/-- No double is a time of the last 512 microseconds. -/
theorem nearest_le_lastTold {x : Float} (h : nearest x ≤ last.micros) :
    nearest x ≤ lastTold.micros := by
  by_contra hafter
  simp only [last, lastTold, not_le] at h hafter
  rw [nearest] at h hafter
  cases hkind : kind x with
  | nan =>
      rw [hkind] at hafter
      cases hafter
  | infinite negative =>
      rw [hkind] at h hafter
      cases negative
      · exact absurd h (by decide)
      · exact absurd hafter (by decide)
  | finite p =>
      rw [hkind] at h hafter
      simp only [minQuantity, maxQuantity, Parts.toInt] at h hafter
      by_cases hnegative : p.negative = true
      · rw [if_pos hnegative] at hafter
        omega
      · rw [if_neg hnegative] at h hafter
        have hdvd := Parts.dvd_round (significand_lt hkind) (by omega)
        omega

/-- A time that is read from seconds can be told in seconds again. -/
theorem le_lastTold_of_ofSeconds? {x : Float} {t : Instant} (h : ofSeconds? x = some t) :
    t.micros ≤ lastTold.micros := by
  have hcalendar := inCalendar_of_ofSeconds? h
  rw [ofSeconds?] at h
  split at h
  · simp only at h
    split at h
    · cases h
      exact nearest_le_lastTold hcalendar.2
    · cases h
  · cases h

end NodeAlerts.Instant
