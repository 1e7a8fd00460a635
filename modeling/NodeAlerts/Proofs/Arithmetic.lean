import Mathlib
import NodeAlerts.Double.Binary
import NodeAlerts.Proofs.Rounding

/-!
# Arithmetic of doubles

A double that has all its fifty-three bits is `± v` for one rational number `v` (`HasValue`).  A
product, a quotient and the double of a whole number have the exact result as their value, rounded
to fifty-three bits (`HasValue.exists_mul`, `HasValue.exists_div`, `exists_ofNat`), where that is
neither tiny nor huge (`Modest`), and the whole number nearest to a double is told by its value
(`HasValue.nearest_eq`).

Doubles calculate on a mantissa with two guard bits, which say how the mantissa falls short of the
exact number (`Guards`).  Shifting it to fifty-three bits keeps the number they stand for, and
rounding it then goes to the nearest, a half to the even neighbour (`exists_roundWithAccuracy`).
-/

namespace NodeAlerts.Double

open Float.Model Float.Model.UnpackedFloat

/-! ## Doubles with all their bits -/

/-- Numbers that are well inside the range of doubles. -/
structure Modest (q : ℚ) : Prop where
  /-- They are not too near to zero. -/
  low : 2 ^ (-100 : ℤ) ≤ q
  /-- They are not too far away from it. -/
  high : q ≤ 2 ^ (100 : ℤ)

/-- The mantissa and the exponent of a double that has all its bits. -/
structure Full (m : ℕ) (e : ℤ) : Prop where
  /-- The first bit is set. -/
  low : 2 ^ 52 ≤ m
  /-- There are no further bits. -/
  high : m < 2 ^ 53
  /-- The exponent is not below its range. -/
  least : -1074 ≤ e
  /-- The exponent is not above its range. -/
  greatest : e ≤ 971

theorem Full.pos {m : ℕ} {e : ℤ} (h : Full m e) : 0 < m := Nat.lt_of_lt_of_le (by decide) h.low

theorem Full.log2_eq {m : ℕ} {e : ℤ} (h : Full m e) : m.log2 = 52 :=
  (Nat.log2_eq_iff h.pos.ne').2 ⟨h.low, h.high⟩

/-- An unpacked double has all its bits, and is `± v`. -/
def Unpacked (u : UnpackedFloat) (s : Sign) (v : ℚ) : Prop :=
  ∃ (m : ℕ) (e : ℤ) (h : Full m e), u = .finite s m e h.pos ∧ v = m * 2 ^ e

/-! ## Guard bits -/

/-- A mantissa with its two guard bits stands for a number. -/
def Guards (em : ExtendedMantissa) (x : ℚ) : Prop :=
  match em.roundBit, em.stickyBit with
  | false, false => x = em.mantissa
  | false, true => em.mantissa < x ∧ x < em.mantissa + 1 / 2
  | true, false => x = em.mantissa + 1 / 2
  | true, true => em.mantissa + 1 / 2 < x ∧ x < em.mantissa + 1

theorem guards_exact (m : ℕ) : Guards (.ofMantissaAndAccuracy m .exact) m := rfl

theorem Guards.floor {em : ExtendedMantissa} {x : ℚ} (h : Guards em x) : ⌊x⌋ = em.mantissa := by
  rw [Int.floor_eq_iff]
  obtain ⟨m, round, sticky⟩ := em
  cases round <;> cases sticky <;> simp only [Guards] at h ⊢ <;> push_cast <;> grind

/-- A mantissa loses its last bit, which the guard bits remember. -/
theorem Guards.shiftRightOne {em : ExtendedMantissa} {x : ℚ} (h : Guards em x) :
    Guards em.shiftRightOne (x / 2) := by
  obtain ⟨m, round, sticky⟩ := em
  have hsplit : (m : ℚ) = 2 * ((m / 2 : ℕ) : ℚ) + ((m % 2 : ℕ) : ℚ) := by
    exact_mod_cast (Nat.div_add_mod m 2).symm
  rcases Nat.mod_two_eq_zero_or_one m with hbit | hbit <;> cases round <;> cases sticky <;>
    simp [Guards, ExtendedMantissa.shiftRightOne, hbit] at h hsplit ⊢ <;> grind

theorem Guards.shiftRight {em : ExtendedMantissa} {x : ℚ} (h : Guards em x) (k : ℕ) :
    Guards (em >>> k) (x / 2 ^ k) := by
  induction k with
  | zero =>
      rw [pow_zero, div_one]
      exact h
  | succ k ih =>
      have hstep : em >>> (k + 1) = (em >>> k).shiftRightOne := rfl
      rw [hstep, pow_succ, ← div_div]
      exact ih.shiftRightOne

theorem Guards.roundedMantissa {em : ExtendedMantissa} {x : ℚ} (h : Guards em x) :
    (em.roundedMantissa : ℤ) = halfEven x := by
  have hfloor := h.floor
  have hfract : Int.fract x = x - em.mantissa := by rw [Int.fract, hfloor, Int.cast_natCast]
  rw [halfEven, hfloor, hfract]
  obtain ⟨m, round, sticky⟩ := em
  cases round <;> cases sticky <;> simp only [Guards] at h
  · rw [if_pos (by linarith)]
    rfl
  · rw [if_pos (by linarith)]
    rfl
  · rw [if_neg (by linarith), if_pos (by linarith)]
    rfl
  · rw [if_neg (by linarith), if_neg (by linarith)]
    rfl

theorem floor_of_guards {m : ℕ} {accuracy : Accuracy} {x : ℚ}
    (h : Guards (.ofMantissaAndAccuracy m accuracy) x) : ⌊x⌋ = m := by
  have hfloor := h.floor
  cases accuracy with
  | exact => exact hfloor
  | inexact o => cases o <;> exact hfloor

/-- The first bit of a number is that of its mantissa. -/
theorem bounds_of_guards {m : ℕ} {e : ℤ} {accuracy : Accuracy} {x : ℚ}
    (h : Guards (.ofMantissaAndAccuracy m accuracy) x) (hm : 0 < m) :
    2 ^ (m.log2 + e : ℤ) ≤ x * 2 ^ e ∧ x * 2 ^ e < 2 ^ (m.log2 + e + 1 : ℤ) := by
  obtain ⟨hle, hlt⟩ := Int.floor_eq_iff.1 (floor_of_guards h)
  have hlow : (2 : ℚ) ^ m.log2 ≤ x := by
    refine le_trans ?_ hle
    exact_mod_cast Nat.log2_self_le hm.ne'
  have hhigh : x < (2 : ℚ) ^ (m.log2 + 1) := by
    refine lt_of_lt_of_le hlt ?_
    exact_mod_cast Nat.lt_log2_self
  constructor
  · rw [zpow_add₀ (by norm_num), zpow_natCast]
    exact mul_le_mul_of_nonneg_right hlow (two_zpow_pos e).le
  · rw [add_right_comm, zpow_add₀ (by norm_num)]
    exact mul_lt_mul_of_pos_right (by exact_mod_cast hhigh) (two_zpow_pos e)

/-- What the guard bits say of a fraction. -/
theorem guards_accuracyOfFraction (q : ℕ) {r d : ℕ} (hr : r < d) :
    Guards (.ofMantissaAndAccuracy q (accuracyOfFraction r d)) (q + r / d : ℚ) := by
  have hpos : (0 : ℚ) < d := by exact_mod_cast Nat.zero_lt_of_lt hr
  have hhigh : (r / d : ℚ) < 1 := (div_lt_one hpos).2 (by exact_mod_cast hr)
  rw [accuracyOfFraction]
  by_cases hzero : r = 0
  · rw [if_pos hzero, hzero, Nat.cast_zero, zero_div, add_zero]
    exact guards_exact q
  have hlow : (0 : ℚ) < r / d := div_pos (by exact_mod_cast Nat.pos_of_ne_zero hzero) hpos
  rw [if_neg hzero]
  rcases lt_trichotomy (2 * r) d with hlt | heq | hgt
  · rw [compare_lt_iff_lt.2 hlt]
    have hhalf : (r / d : ℚ) < 1 / 2 := by
      rw [div_lt_div_iff₀ hpos (by norm_num)]
      exact_mod_cast (by omega : r * 2 < 1 * d)
    show (q : ℚ) < q + r / d ∧ (q : ℚ) + r / d < q + 1 / 2
    constructor <;> linarith
  · rw [compare_eq_iff_eq.2 heq]
    have hhalf : (r / d : ℚ) = 1 / 2 := by
      rw [div_eq_div_iff hpos.ne' (by norm_num)]
      exact_mod_cast (by omega : r * 2 = 1 * d)
    exact congrArg _ hhalf
  · rw [compare_gt_iff_gt.2 hgt]
    have hhalf : (1 / 2 : ℚ) < r / d := by
      rw [div_lt_div_iff₀ (by norm_num) hpos]
      exact_mod_cast (by omega : 1 * d < r * 2)
    show (q : ℚ) + 1 / 2 < q + r / d ∧ (q : ℚ) + r / d < q + 1
    constructor <;> linarith

/-! ## Rounding a mantissa -/

theorem shiftToTargetExponent_eq {m : ℕ} {e : ℤ} (accuracy : Accuracy) (hm : 2 ^ 52 ≤ m)
    (he : -1022 ≤ m.log2 + e) :
    shiftToTargetExponent Format.binary64 m e accuracy =
      (ExtendedMantissa.ofMantissaAndAccuracy m accuracy >>> (m.log2 - 52), m.log2 + e - 52) := by
  have hlog : 52 ≤ m.log2 := (Nat.le_log2 (by omega)).2 hm
  have hamount : (Format.binary64.targetExponent (totalExponent m e) - e).toNat = m.log2 - 52 := by
    simp only [Format.targetExponent, totalExponent, Format.mantissaBits, Format.minExponent]
    norm_num
    omega
  rw [shiftToTargetExponent, shiftToExponent, hamount]
  congr 1
  omega

/-- A rounded mantissa may have one bit too many, which is then shifted out. -/
theorem exists_shiftToTargetExponent {n : ℕ} {e : ℤ} (hlow : 2 ^ 52 ≤ n) (hhigh : n ≤ 2 ^ 53)
    (hleast : -1074 ≤ e) (hgreatest : e ≤ 970) :
    ∃ (m : ℕ) (f : ℤ), Full m f ∧ (m : ℚ) * 2 ^ f = n * 2 ^ e ∧
      shiftToTargetExponent Format.binary64 n e .exact = (⟨m, false, false⟩, f) := by
  rcases hhigh.lt_or_eq with hlt | rfl
  · refine ⟨n, e, ⟨hlow, hlt, hleast, by omega⟩, rfl, ?_⟩
    have hlog : n.log2 = 52 := (Nat.log2_eq_iff (by omega)).2 ⟨hlow, hlt⟩
    rw [shiftToTargetExponent_eq .exact hlow (by omega), hlog]
    congr 1
    omega
  · refine ⟨2 ^ 52, e + 1, ⟨by decide, by decide, by omega, by omega⟩, ?_, ?_⟩
    · rw [zpow_add_one₀ (by norm_num)]
      push_cast
      ring
    · rw [shiftToTargetExponent_eq .exact hlow (by rw [Nat.log2_two_pow]; omega),
        Nat.log2_two_pow]
      congr 1
      omega

/-- **A mantissa with guard bits is rounded to fifty-three bits.** -/
theorem exists_roundWithAccuracy (s : Sign) {m : ℕ} {e : ℤ} {accuracy : Accuracy} {x : ℚ}
    (hx : Guards (.ofMantissaAndAccuracy m accuracy) x) (hm : 2 ^ 52 ≤ m)
    (hq : Modest (x * 2 ^ e)) :
    ∃ r, Unpacked (roundWithAccuracy Format.binary64 s m e accuracy) s r ∧
      Rounds (x * 2 ^ e) r := by
  have hlog : 52 ≤ m.log2 := (Nat.le_log2 (by omega)).2 hm
  obtain ⟨hlow, hhigh⟩ := bounds_of_guards (e := e) hx (by omega)
  have hleast := (zpow_lt_zpow_iff_right₀ (by norm_num)).1 (hq.low.trans_lt hhigh)
  have hgreatest := (zpow_le_zpow_iff_right₀ (by norm_num)).1 (hlow.trans hq.high)
  have hpow : ∀ k : ℕ, (2 : ℚ) ^ k * 2 ^ (m.log2 + e - 52) = 2 ^ (m.log2 + e - 52 + k) := by
    intro k
    rw [zpow_add₀ (by norm_num) _ (k : ℤ), zpow_natCast, mul_comm]
  have hlow' : 2 ^ 52 * 2 ^ (m.log2 + e - 52) ≤ x * 2 ^ e := by
    rw [hpow]
    convert hlow using 2
    omega
  have hhigh' : x * 2 ^ e < 2 ^ 53 * 2 ^ (m.log2 + e - 52) := by
    rw [hpow]
    convert hhigh using 2
    omega
  have hscale : x / 2 ^ (m.log2 - 52) = x * 2 ^ e / 2 ^ (m.log2 + e - 52) := by
    have hexponent : (m.log2 + e - 52 : ℤ) = (m.log2 - 52 : ℕ) + e := by omega
    rw [hexponent, zpow_add₀ (by norm_num), zpow_natCast,
      mul_div_mul_right _ _ (two_zpow_pos e).ne']
  have hrounded := (hx.shiftRight (m.log2 - 52)).roundedMantissa
  rw [hscale] at hrounded
  obtain ⟨hleast', hgreatest'⟩ := halfEven_mem hlow' hhigh'
  rw [← hrounded] at hleast' hgreatest'
  obtain ⟨m', e', hfull, hvalue, hshift⟩ :=
    exists_shiftToTargetExponent (e := m.log2 + e - 52) (by exact_mod_cast hleast')
      (by exact_mod_cast hgreatest') (by omega) (by omega)
  refine ⟨m' * 2 ^ e', ⟨m', e', hfull, ?_, rfl⟩, m.log2 + e - 52, hlow', hhigh', ?_⟩
  · rw [roundWithAccuracy, shiftToTargetExponent_eq accuracy hm (by omega)]
    simp only [hshift]
    exact dif_neg hfull.pos.ne'
  · rw [hvalue, ← hrounded, Int.cast_natCast]

/-! ## Packed doubles -/

theorem toNat_packComponents (s : Sign) (e : BitVec 11) (m : BitVec 52) :
    (packComponents Format.binary64 s e m).toNat =
      (s.toBitVec.toNat * 2 ^ 11 + e.toNat) * 2 ^ 52 + m.toNat := by
  rw [packComponents, BitVec.toNat_append, BitVec.toNat_append,
    ← Nat.shiftLeft_add_eq_or_of_lt e.isLt, ← Nat.shiftLeft_add_eq_or_of_lt m.isLt,
    Nat.shiftLeft_eq, Nat.shiftLeft_eq]

namespace Full

variable {m : ℕ} {e : ℤ} (h : Full m e) {s : Sign}

include h

theorem pack_finite (s : Sign) :
    UnpackedFloat.pack Format.binary64 (.finite s m e h.pos) =
      packComponents Format.binary64 s (BitVec.ofNat 11 (e + 1075).toNat) (BitVec.ofNat 52 m) := by
  have hleast := h.least
  have hgreatest := h.greatest
  have hexponent : (e + Format.binary64.exponentBias +
      Format.binary64.mantissaBitsWithoutImplicit).toNat = (e + 1075).toNat := by
    simp only [Format.exponentBias]
    congr 1
    norm_num
    omega
  rw [UnpackedFloat.pack, hexponent, if_neg (by norm_num; omega), h.log2_eq,
    if_pos (show 52 + 1 = Format.binary64.mantissaBits from rfl)]

theorem toNat_exponent : (BitVec.ofNat 11 (e + 1075).toNat).toNat = (e + 1075).toNat := by
  have hleast := h.least
  have hgreatest := h.greatest
  rw [BitVec.toNat_ofNat, Nat.mod_eq_of_lt (by omega)]

theorem toNat_mantissa : (BitVec.ofNat 52 m).toNat = m - 2 ^ 52 := by
  have hlow := h.low
  have hhigh := h.high
  rw [BitVec.toNat_ofNat]
  omega

theorem unpack_pack (s : Sign) :
    UnpackedFloat.unpack Format.binary64
      (UnpackedFloat.pack Format.binary64 (.finite s m e h.pos)) = .finite s m e h.pos := by
  have hlow := h.low
  have hleast := h.least
  have hgreatest := h.greatest
  have hmantissa : (1#1 ++ BitVec.ofNat 52 m).toNat = m := by
    rw [BitVec.toNat_append, ← Nat.shiftLeft_add_eq_or_of_lt (BitVec.isLt _), h.toNat_mantissa,
      Nat.shiftLeft_eq]
    show 1 * 2 ^ 52 + _ = _
    omega
  have hne : ∀ b : BitVec 11, b.toNat = 0 ∨ b.toNat = 2047 →
      BitVec.ofNat 11 (e + 1075).toNat ≠ b := by
    intro b hb heq
    rw [← heq, h.toNat_exponent] at hb
    omega
  rw [h.pack_finite, UnpackedFloat.unpack]
  simp only [unpackExponent_packComponents, unpackMantissa_packComponents,
    unpackSign_packComponents, Sign.ofBitVec_toBitVec]
  rw [if_neg (hne _ (.inr rfl)), if_neg (hne _ (.inl rfl))]
  simp only [hmantissa, h.toNat_exponent]
  congr 1
  show ((e + 1075).toNat : ℤ) - (1023 + 52) = e
  omega

theorem kind_eq {x : Float} (hx : x.toModel = .pack (.finite s m e h.pos)) :
    kind x = .finite ⟨s == .negative, m, e⟩ := by
  have hlow := h.low
  have hhigh := h.high
  have hleast := h.least
  have hgreatest := h.greatest
  have hsign : s.toBitVec.toNat < 2 := s.toBitVec.isLt
  have hbits : x.toBits.toNat =
      (s.toBitVec.toNat * 2 ^ 11 + (e + 1075).toNat) * 2 ^ 52 + (m - 2 ^ 52) := by
    have hmodel : x.toBits.toNat =
        (UnpackedFloat.pack Format.binary64 (.finite s m e h.pos)).toNat :=
      congrArg (fun x : Float.Model => x.toBits.toNat) hx
    rw [hmodel, h.pack_finite, toNat_packComponents, h.toNat_exponent, h.toNat_mantissa]
  have hnegative : (x.toBits.toNat / Nat.pow 2 63 == 1) = (s == .negative) := by
    have hdiv : x.toBits.toNat / Nat.pow 2 63 = s.toBitVec.toNat := by
      rw [hbits, Nat.pow_eq]
      omega
    rw [hdiv]
    cases s <;> rfl
  have hpower : x.toBits.toNat / Nat.pow 2 52 % Nat.pow 2 11 = (e + 1075).toNat := by
    rw [hbits, Nat.pow_eq, Nat.pow_eq]
    omega
  have hfraction : x.toBits.toNat % Nat.pow 2 52 = m - 2 ^ 52 := by
    rw [hbits, Nat.pow_eq]
    omega
  have hsignificand : Nat.pow 2 52 + (m - 2 ^ 52) = m := by
    rw [Nat.pow_eq]
    omega
  have hexponent : ((e + 1075).toNat : ℤ) - 1075 = e := by omega
  unfold kind
  dsimp only
  rw [hnegative, hpower, hfraction, if_neg (by omega), if_neg (by omega), hsignificand, hexponent]

end Full

theorem Unpacked.unpack_pack {u : UnpackedFloat} {s : Sign} {v : ℚ} (h : Unpacked u s v) :
    (Float.Model.pack u).unpack = u := by
  obtain ⟨m, e, hfull, rfl, -⟩ := h
  exact hfull.unpack_pack s

/-- A double has all its bits, and is `± v`. -/
def HasValue (x : Float) (s : Sign) (v : ℚ) : Prop :=
  ∃ u, x.toModel = .pack u ∧ Unpacked u s v

/-! ## Products and quotients -/

section Arithmetic

variable {x y : Float} {s s' : Sign} {v w : ℚ}

theorem Unpacked.exists_mul {u u' : UnpackedFloat} (h : Unpacked u s v) (h' : Unpacked u' s' w)
    (hq : Modest (v * w)) :
    ∃ r, Unpacked (UnpackedFloat.mul Format.binary64 u u') (s * s') r ∧ Rounds (v * w) r := by
  obtain ⟨m, e, hfull, rfl, rfl⟩ := h
  obtain ⟨m', e', hfull', rfl, rfl⟩ := h'
  have hproduct : (m : ℚ) * 2 ^ e * (m' * 2 ^ e') = (m * m' : ℕ) * 2 ^ (e + e') := by
    rw [zpow_add₀ (by norm_num)]
    push_cast
    ring
  have hm : 2 ^ 52 ≤ m * m' := hfull.low.trans (Nat.le_mul_of_pos_right m hfull'.pos)
  rw [hproduct] at hq ⊢
  exact exists_roundWithAccuracy (s * s') (guards_exact _) hm hq

theorem HasValue.exists_mul (hx : HasValue x s v) (hy : HasValue y s' w) (hq : Modest (v * w)) :
    ∃ r, HasValue (x * y) (s * s') r ∧ Rounds (v * w) r := by
  obtain ⟨u, hx, hu⟩ := hx
  obtain ⟨u', hy, hu'⟩ := hy
  obtain ⟨r, hr, hrounds⟩ := hu.exists_mul hu' hq
  refine ⟨r, ⟨_, ?_, hr⟩, hrounds⟩
  show Float.Model.pack (UnpackedFloat.mul Format.binary64 x.toModel.unpack y.toModel.unpack) = _
  rw [hx, hy, hu.unpack_pack, hu'.unpack_pack]

theorem Full.div_lt {m m' : ℕ} {e e' : ℤ} (h : Full m e) (h' : Full m' e') :
    (m : ℚ) * 2 ^ e / (m' * 2 ^ e') < 2 ^ (e - e' + 1) := by
  have hhigh : (m : ℚ) < 2 ^ 53 := by exact_mod_cast h.high
  have hlow : (2 : ℚ) ^ 52 ≤ m' := by exact_mod_cast h'.low
  have hpos : (0 : ℚ) < m' := by exact_mod_cast h'.pos
  have hscale : (2 : ℚ) ^ (e - e' + 1) * 2 ^ e' = 2 * 2 ^ e := by
    rw [← zpow_add₀ (by norm_num), ← zpow_one_add₀ (by norm_num)]
    congr 1
    omega
  rw [div_lt_iff₀ (mul_pos hpos (two_zpow_pos e'))]
  calc (m : ℚ) * 2 ^ e < 2 ^ 53 * 2 ^ e := mul_lt_mul_of_pos_right hhigh (two_zpow_pos e)
    _ = 2 ^ 52 * (2 ^ (e - e' + 1) * 2 ^ e') := by rw [hscale]; ring
    _ ≤ m' * (2 ^ (e - e' + 1) * 2 ^ e') := by gcongr
    _ = 2 ^ (e - e' + 1) * (m' * 2 ^ e') := by ring

/-- A quotient is taken to at least fifty-three bits. -/
theorem Full.divCore_eq {m m' : ℕ} {e e' : ℤ} (h : Full m e) (h' : Full m' e')
    (he : -1021 ≤ e - e') :
    divCore Format.binary64 m e m' e' =
      (m * 2 ^ 53 / m', e - e' - 53, accuracyOfFraction (m * 2 ^ 53 % m') m') := by
  have htarget : min (e - e') (Format.binary64.targetExponent
      (totalExponent m e - totalExponent m' e')) = e - e' - 53 := by
    simp only [Format.targetExponent, totalExponent, Format.mantissaBits, Format.minExponent,
      h.log2_eq, h'.log2_eq]
    norm_num
    omega
  have hamount : (e - e' - (e - e' - 53)).toNat = 53 := by omega
  rw [divCore, htarget, hamount, Nat.shiftLeft_eq]

theorem Unpacked.exists_div {u u' : UnpackedFloat} (h : Unpacked u s v) (h' : Unpacked u' s' w)
    (hq : Modest (v / w)) :
    ∃ r, Unpacked (UnpackedFloat.div Format.binary64 u u') (s / s') r ∧ Rounds (v / w) r := by
  obtain ⟨m, e, hfull, rfl, rfl⟩ := h
  obtain ⟨m', e', hfull', rfl, rfl⟩ := h'
  have hpos : (0 : ℚ) < m' := by exact_mod_cast hfull'.pos
  have hexponent :=
    (zpow_lt_zpow_iff_right₀ (by norm_num)).1 (hq.low.trans_lt (hfull.div_lt hfull'))
  have hsplit : ((m * 2 ^ 53 : ℕ) / m' : ℚ) =
      (m * 2 ^ 53 / m' : ℕ) + (m * 2 ^ 53 % m' : ℕ) / m' := by
    rw [add_div' _ _ _ hpos.ne']
    congr 1
    exact_mod_cast (Nat.div_add_mod' (m * 2 ^ 53) m').symm
  have hquotient : (m : ℚ) * 2 ^ e / (m' * 2 ^ e') =
      ((m * 2 ^ 53 / m' : ℕ) + (m * 2 ^ 53 % m' : ℕ) / m') * 2 ^ (e - e' - 53) := by
    rw [← hsplit, zpow_sub₀ (by norm_num), zpow_sub₀ (by norm_num)]
    push_cast
    field_simp
  have hm : 2 ^ 52 ≤ m * 2 ^ 53 / m' := by
    rw [Nat.le_div_iff_mul_le hfull'.pos]
    have hlow := hfull.low
    have hhigh := hfull'.high
    omega
  rw [hquotient] at hq ⊢
  rw [UnpackedFloat.div, hfull.divCore_eq hfull' (by omega)]
  exact exists_roundWithAccuracy (s / s')
    (guards_accuracyOfFraction _ (Nat.mod_lt _ hfull'.pos)) hm hq

theorem HasValue.exists_div (hx : HasValue x s v) (hy : HasValue y s' w) (hq : Modest (v / w)) :
    ∃ r, HasValue (x / y) (s / s') r ∧ Rounds (v / w) r := by
  obtain ⟨u, hx, hu⟩ := hx
  obtain ⟨u', hy, hu'⟩ := hy
  obtain ⟨r, hr, hrounds⟩ := hu.exists_div hu' hq
  refine ⟨r, ⟨_, ?_, hr⟩, hrounds⟩
  show Float.Model.pack (UnpackedFloat.div Format.binary64 x.toModel.unpack y.toModel.unpack) = _
  rw [hx, hy, hu.unpack_pack, hu'.unpack_pack]

theorem HasValue.neg (hx : HasValue x s v) : HasValue x.neg (-s) v := by
  obtain ⟨u, hx, hu⟩ := hx
  refine ⟨u.neg, ?_, ?_⟩
  · show Float.Model.pack x.toModel.unpack.neg = _
    rw [hx, hu.unpack_pack]
  · obtain ⟨m, e, hfull, rfl, rfl⟩ := hu
    exact ⟨m, e, hfull, rfl, rfl⟩

end Arithmetic

/-! ## Whole numbers as doubles -/

section Counts

variable {n : ℕ}

theorem modest_natCast (hn : 0 < n) (hhigh : n ≤ 2 ^ 64) : Modest n := by
  have hone : (1 : ℚ) ≤ n := by exact_mod_cast hn
  have hmax : (n : ℚ) ≤ 2 ^ 64 := by exact_mod_cast hhigh
  constructor
  · refine le_trans ?_ hone
    norm_num
  · refine hmax.trans ?_
    norm_num

theorem exists_round (hn : 0 < n) (hhigh : n < 2 ^ 53) :
    ∃ r, Unpacked (UnpackedFloat.round Format.binary64 .positive n 0) .positive r ∧
      Rounds n r := by
  have hlog : n.log2 < 53 := (Nat.log2_lt hn.ne').2 hhigh
  have hamount : (0 - Format.binary64.targetExponent (totalExponent n 0)).toNat = 52 - n.log2 := by
    simp only [Format.targetExponent, totalExponent, Format.mantissaBits, Format.minExponent]
    norm_num
    omega
  have hq : Modest n := modest_natCast hn (by omega)
  rw [natCast_eq_mul_zpow n (52 - n.log2)] at hq ⊢
  rw [UnpackedFloat.round, decreaseExponent, hamount, Nat.shiftLeft_eq]
  exact exists_roundWithAccuracy .positive (guards_exact _) (le_mul_two_pow hn hhigh) hq

theorem hasValue_toFloat (hn : 0 < n) (hhigh : n < 2 ^ 53) :
    HasValue n.toUInt64.toFloat .positive n := by
  obtain ⟨r, hr, hrounds⟩ := exists_round hn hhigh
  rw [hrounds.unique (rounds_natCast hn hhigh)] at hr
  refine ⟨_, ?_, hr⟩
  have htoNat : n.toUInt64.toNat = n := by
    rw [Nat.toUInt64, UInt64.toNat_ofNat', Nat.mod_eq_of_lt (by omega)]
  have hcompare : compare (n : ℤ) 0 = .gt := compare_gt_iff_gt.2 (by omega)
  show Float.Model.pack (UnpackedFloat.normalize Format.binary64 n.toUInt64.toNat 0 .positive) = _
  rw [htoNat, UnpackedFloat.normalize, hcompare, Int.toNat_natCast]

theorem exists_ofScientific (hlow : 2 ^ 53 ≤ n) (hhigh : n ≤ 2 ^ 64) :
    ∃ r, Unpacked (UnpackedFloat.ofScientific Format.binary64 n 0) .positive r ∧ Rounds n r := by
  have hn : 0 < n := by omega
  have hvalue : (n : ℚ) = (n * 2 ^ 53 * 1 : ℕ) * 2 ^ (-53 + 0 : ℤ) := by
    push_cast
    norm_num
    ring
  have hq : Modest n := modest_natCast hn hhigh
  have hm : 2 ^ 52 ≤ n * 2 ^ 53 * 1 := by omega
  have hlarge : ¬ (0 : ℤ) < -((2 : ℤ) ^ Format.binary64.exponentBits + n.log2) := by
    norm_num
  rw [hvalue] at hq ⊢
  rw [UnpackedFloat.ofScientific, dif_neg hn.ne', if_neg (by norm_num), if_neg hlarge,
    if_pos (le_refl _), UnpackedFloat.mul, Nat.shiftLeft_eq]
  exact exists_roundWithAccuracy .positive (guards_exact _) hm hq

theorem hasValue_one : HasValue Float.exactlyRepresentablePowersOfTen[0] .positive 1 := by
  refine ⟨.finite .positive (2 ^ 52) (-52) (by decide), by decide, 2 ^ 52, -52, ?_, rfl, ?_⟩
  · exact ⟨by decide, by decide, by decide, by decide⟩
  · norm_num

/-- **A whole number goes to the nearest double.**  Small ones are multiplied by a power of ten,
here by one; large ones are rounded at once. -/
theorem exists_ofNat (hn : 0 < n) (hhigh : n ≤ 2 ^ 64) :
    ∃ r, HasValue (Float.ofNat n) .positive r ∧ Rounds n r := by
  show ∃ r, HasValue (Float.ofScientific n false 0) .positive r ∧ Rounds n r
  by_cases hsmall : n < 2 ^ 53
  · have hq : Modest (n * 1) := by
      rw [mul_one]
      exact modest_natCast hn hhigh
    obtain ⟨r, hr, hrounds⟩ := (hasValue_toFloat hn hsmall).exists_mul hasValue_one hq
    rw [mul_one] at hrounds
    rw [Float.ofScientific, dif_pos ⟨hsmall, by decide⟩]
    exact ⟨r, hr, hrounds⟩
  · obtain ⟨r, hr, hrounds⟩ := exists_ofScientific (not_lt.1 hsmall) hhigh
    rw [Float.ofScientific, dif_neg fun h => hsmall h.1]
    exact ⟨r, ⟨_, rfl, hr⟩, hrounds⟩

end Counts

/-- The sign of a whole number is that of its double. -/
theorem exists_ofInt (s : Sign) {n : ℕ} (hn : 0 < n) (hhigh : n ≤ 2 ^ 64) :
    ∃ r, HasValue (ofInt (s.apply n)) s r ∧ Rounds n r := by
  obtain ⟨r, hr, hrounds⟩ := exists_ofNat hn hhigh
  cases s with
  | positive => exact ⟨r, hr, hrounds⟩
  | negative =>
      obtain ⟨k, rfl⟩ := Nat.exists_eq_add_one_of_ne_zero hn.ne'
      exact ⟨r, hr.neg, hrounds⟩

/-! ## Doubles as whole numbers -/

theorem HasValue.isFinite {x : Float} {s : Sign} {v : ℚ} (hx : HasValue x s v) :
    isFinite x = true := by
  obtain ⟨_, hx, m, e, hfull, rfl, -⟩ := hx
  rw [Double.isFinite, hfull.kind_eq hx]

theorem Parts.cast_round (negative : Bool) (m : ℕ) (e : ℤ) :
    ((⟨negative, m, e⟩ : Parts).round : ℤ) = ⌊(m : ℚ) * 2 ^ e + 1 / 2⌋ := by
  cases e with
  | ofNat k =>
      have hvalue : (m : ℚ) * 2 ^ (Int.ofNat k) + 1 / 2 = (m * 2 ^ k : ℕ) + 1 / 2 := by
        rw [Int.ofNat_eq_natCast, zpow_natCast]
        push_cast
        rfl
      rw [hvalue, Int.floor_natCast_add]
      norm_num
      rfl
  | negSucc k =>
      have hvalue : (m : ℚ) * 2 ^ (Int.negSucc k) + 1 / 2 =
          ((m + 2 ^ k : ℕ) : ℤ) / ((2 ^ (k + 1) : ℕ) : ℚ) := by
        rw [zpow_negSucc]
        push_cast
        field_simp
        ring
      rw [hvalue, Rat.floor_intCast_div_natCast]
      rfl

/-- **The whole number nearest to a double**, as far as those are kept. -/
theorem HasValue.nearest_eq {x : Float} {s : Sign} {v : ℚ} (hx : HasValue x s v) :
    nearest x = max minQuantity (min (s.apply ⌊v + 1 / 2⌋) maxQuantity) := by
  obtain ⟨_, hx, m, e, hfull, rfl, rfl⟩ := hx
  rw [nearest, hfull.kind_eq hx]
  dsimp only
  rw [Parts.toInt, Parts.cast_round]
  cases s <;> rfl

theorem significand_lt {x : Float} {p : Parts} (h : kind x = .finite p) :
    p.significand < 2 ^ 53 := by
  have hfraction : x.toBits.toNat % Nat.pow 2 52 < 2 ^ 52 := Nat.mod_lt _ (Nat.two_pow_pos 52)
  unfold kind at h
  dsimp only at h
  split_ifs at h
  · cases h
    exact hfraction.trans (by decide)
  · cases h
    show 2 ^ 52 + x.toBits.toNat % Nat.pow 2 52 < 2 ^ 53
    omega

/-- Large doubles are multiples of 1024. -/
theorem Parts.dvd_round {p : Parts} (h : p.significand < 2 ^ 53) (hlarge : 2 ^ 62 < p.round) :
    1024 ∣ p.round := by
  obtain ⟨negative, m, e⟩ := p
  change m < 2 ^ 53 at h
  cases e with
  | ofNat k =>
      have hround : (⟨negative, m, Int.ofNat k⟩ : Parts).round = m * 2 ^ k := rfl
      rw [hround] at hlarge ⊢
      have hk : 10 ≤ k := by
        by_contra hk
        have hpow : 2 ^ k ≤ 2 ^ 9 := Nat.pow_le_pow_right (by decide) (by omega)
        have hmul : m * 2 ^ k ≤ m * 2 ^ 9 := Nat.mul_le_mul_left m hpow
        omega
      exact Dvd.dvd.mul_left (pow_dvd_pow 2 hk) m
  | negSucc k =>
      have hround : (⟨negative, m, Int.negSucc k⟩ : Parts).round = (m + 2 ^ k) / 2 ^ (k + 1) := rfl
      have hle : (m + 2 ^ k) / 2 ^ (k + 1) ≤ m + 1 := by
        refine Nat.div_le_of_le_mul ?_
        have hpow : 2 ^ k ≤ 2 ^ (k + 1) := Nat.pow_le_pow_right (by decide) (by omega)
        have hmul : m ≤ 2 ^ (k + 1) * m := Nat.le_mul_of_pos_left m (Nat.two_pow_pos _)
        rw [Nat.mul_add, Nat.mul_one]
        omega
      rw [hround] at hlarge
      omega

end NodeAlerts.Double
