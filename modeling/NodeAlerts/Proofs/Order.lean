import NodeAlerts.Proofs.Arithmetic

/-!
# The order of counts as doubles

A count is compared with a threshold as the nearest double.  Rounding keeps the order
(`Rounds.mono`), and of two doubles with all their bits the one with the larger value is the larger
one, by its exponent or else by its mantissa (`Full.lex_of_le`).  So a threshold that a count
reaches is reached by every larger count (`le_ofCount_mono`), whatever double the threshold is.
-/

namespace NodeAlerts.Double

open Float.Model Float.Model.UnpackedFloat

/-- Of two doubles with all their bits the larger one has the larger exponent, or the larger
mantissa. -/
theorem Full.lex_of_le {m m' : ℕ} {e e' : ℤ} (h : Full m e) (h' : Full m' e')
    (hle : (m : ℚ) * 2 ^ e ≤ m' * 2 ^ e') : e < e' ∨ e = e' ∧ m ≤ m' := by
  rcases lt_trichotomy e e' with hlt | rfl | hgt
  · exact Or.inl hlt
  · have hmantissa : (m : ℚ) ≤ m' := le_of_mul_le_mul_right hle (two_zpow_pos e)
    exact Or.inr ⟨rfl, by exact_mod_cast hmantissa⟩
  · -- the mantissa makes up for less than one power of two
    have hlow : (2 : ℚ) ^ 52 ≤ m := by exact_mod_cast h.low
    have hhigh : (m' : ℚ) < 2 ^ 53 := by exact_mod_cast h'.high
    have hlt : (m' : ℚ) * 2 ^ e' < m * 2 ^ e := calc
      (m' : ℚ) * 2 ^ e' < 2 ^ 53 * 2 ^ e' := mul_lt_mul_of_pos_right hhigh (two_zpow_pos e')
      _ = 2 ^ 52 * (2 * 2 ^ e') := by ring
      _ ≤ 2 ^ 52 * 2 ^ e := by gcongr; exact two_mul_zpow_le hgt
      _ ≤ m * 2 ^ e := by gcongr
    exact absurd hle (not_le.2 hlt)

theorem isLE_then_compare_iff {m m' : ℕ} {e e' : ℤ} :
    ((compare e e').then (compare m m')).isLE = true ↔ e < e' ∨ e = e' ∧ m ≤ m' := by
  rw [Ordering.isLE_then_iff_or, compare_lt_iff_lt, compare_eq_iff_eq, Nat.isLE_compare]

/-- Doubles are compared as they are unpacked. -/
theorem le_iff_unpack {x y : Float} : x ≤ y ↔ x.toModel.unpack.le y.toModel.unpack = true :=
  decide_eq_true_iff

/-- What is at most zero is at most every positive number. -/
theorem le_finite_of_le_zero {u : UnpackedFloat} {s : Sign} {m : ℕ} {e : ℤ} (hm : 0 < m)
    (h : u.le (.zero s) = true) : u.le (.finite .positive m e hm) = true := by
  cases u with
  | infinity s' =>
      cases s' with
      | positive => cases h
      | negative => rfl
  | notANumber => cases h
  | zero s' => rfl
  | finite s' m' e' hm' =>
      cases s' with
      | positive => cases h
      | negative => rfl

/-- What is at most a positive number is at most every larger one. -/
theorem le_finite_of_le_finite {u : UnpackedFloat} {m m' : ℕ} {e e' : ℤ} {hm : 0 < m} (hm' : 0 < m')
    (h : u.le (.finite .positive m e hm) = true) (hlex : e < e' ∨ e = e' ∧ m ≤ m') :
    u.le (.finite .positive m' e' hm') = true := by
  cases u with
  | infinity s =>
      cases s with
      | positive => cases h
      | negative => rfl
  | notANumber => cases h
  | zero s => rfl
  | finite s n f hn =>
      cases s with
      | negative => rfl
      | positive =>
          have hle := isLE_then_compare_iff.1 h
          exact isLE_then_compare_iff.2 (by omega)

/-- **A threshold that a double reaches is reached by every larger one.** -/
theorem HasValue.le_mono {x y t : Float} {v w : ℚ} (hx : HasValue x .positive v)
    (hy : HasValue y .positive w) (hle : v ≤ w) (h : t ≤ x) : t ≤ y := by
  obtain ⟨u, hxu, hu⟩ := hx
  obtain ⟨u', hyu, hu'⟩ := hy
  have hunpack : x.toModel.unpack = u := by rw [hxu, hu.unpack_pack]
  have hunpack' : y.toModel.unpack = u' := by rw [hyu, hu'.unpack_pack]
  obtain ⟨m, e, hfull, rfl, rfl⟩ := hu
  obtain ⟨m', e', hfull', rfl, rfl⟩ := hu'
  rw [le_iff_unpack, hunpack] at h
  rw [le_iff_unpack, hunpack']
  exact le_finite_of_le_finite hfull'.pos h (hfull.lex_of_le hfull' hle)

theorem unpack_ofCount_zero : (ofCount 0).toModel.unpack = .zero .positive := rfl

/-- **A threshold that a count reaches is reached by every larger count.** -/
theorem le_ofCount_mono {m n : ℕ} (hle : m ≤ n) (hn : n ≤ maxCount) {t : Float}
    (h : t ≤ ofCount m) : t ≤ ofCount n := by
  have hmax : n ≤ 2 ^ 64 := hn.trans (by decide)
  rcases Nat.eq_zero_or_pos m with rfl | hm
  · rcases Nat.eq_zero_or_pos n with rfl | hpos
    · exact h
    · obtain ⟨r, ⟨u, hyu, hu⟩, -⟩ := exists_ofNat hpos hmax
      have hunpack : (ofCount n).toModel.unpack = u := by
        show (Float.ofNat n).toModel.unpack = u
        rw [hyu, hu.unpack_pack]
      obtain ⟨m, e, hfull, rfl, -⟩ := hu
      rw [le_iff_unpack, unpack_ofCount_zero] at h
      rw [le_iff_unpack, hunpack]
      exact le_finite_of_le_zero hfull.pos h
  · obtain ⟨r, hr, hrounds⟩ := exists_ofNat hm (hle.trans hmax)
    obtain ⟨r', hr', hrounds'⟩ := exists_ofNat (hm.trans_le hle) hmax
    exact hr.le_mono hr' (hrounds.mono hrounds' (by exact_mod_cast hle)) h

end NodeAlerts.Double
