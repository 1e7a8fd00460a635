import Mathlib.Algebra.Order.Field.Power
import Mathlib.Data.Rat.Floor
import Mathlib.Tactic.Linarith
import Mathlib.Tactic.Ring

/-!
# Rounding to fifty-three bits

What a calculation with doubles gives, where it stays away from the ends of their range, is the
exact result rounded to fifty-three bits (`Rounds`), a half going to the even neighbour
(`halfEven`).  Two facts about it carry what is known of such calculations:

* `Rounds.mono`: rounding keeps the order;
* `Rounds.abs_sub_le`: it is off by at most a part in `2 ^ 53`.

The powers of two are rounded to themselves (`rounds_zpow`), so that a bound by one of them is kept
(`Rounds.zpow_le`, `Rounds.le_zpow`).
-/

namespace NodeAlerts.Double

/-! ## To whole numbers -/

/-- The whole number nearest to a rational one, a half going to the even neighbour. -/
def halfEven (x : ℚ) : ℤ :=
  if Int.fract x < 1 / 2 then ⌊x⌋
  else if Int.fract x = 1 / 2 then ⌊x⌋ + ⌊x⌋ % 2
  else ⌊x⌋ + 1

theorem floor_le_halfEven (x : ℚ) : ⌊x⌋ ≤ halfEven x := by
  rw [halfEven]
  split_ifs <;> omega

theorem halfEven_le (x : ℚ) : halfEven x ≤ ⌊x⌋ + 1 := by
  rw [halfEven]
  split_ifs <;> omega

theorem halfEven_intCast (n : ℤ) : halfEven n = n := by
  rw [halfEven, Int.fract_intCast, if_pos (by norm_num), Int.floor_intCast]

theorem halfEven_mono {x y : ℚ} (h : x ≤ y) : halfEven x ≤ halfEven y := by
  rcases (Int.floor_le_floor h).lt_or_eq with hlt | heq
  · exact (halfEven_le x).trans ((Int.add_one_le_of_lt hlt).trans (floor_le_halfEven y))
  · -- between two whole numbers only the fractions count
    have hfract : Int.fract x ≤ Int.fract y := by
      rw [Int.fract, Int.fract, heq]
      linarith
    by_cases hx : Int.fract x < 1 / 2
    · rw [halfEven, if_pos hx, heq]
      exact floor_le_halfEven y
    · have hy : ¬ Int.fract y < 1 / 2 := fun hy => hx (hfract.trans_lt hy)
      by_cases hy' : Int.fract y = 1 / 2
      · have hx' : Int.fract x = 1 / 2 := le_antisymm (hfract.trans hy'.le) (not_lt.1 hx)
        rw [halfEven, halfEven, if_neg hx, if_neg hy, if_pos hx', if_pos hy', heq]
      · have hrounded : halfEven y = ⌊y⌋ + 1 := by rw [halfEven, if_neg hy, if_neg hy']
        rw [hrounded, ← heq]
        exact halfEven_le x

theorem le_halfEven {n : ℤ} {x : ℚ} (h : (n : ℚ) ≤ x) : n ≤ halfEven x := by
  rw [← halfEven_intCast n]
  exact halfEven_mono h

theorem halfEven_le_of_le {n : ℤ} {x : ℚ} (h : x ≤ n) : halfEven x ≤ n := by
  rw [← halfEven_intCast n]
  exact halfEven_mono h

theorem abs_halfEven_sub_le (x : ℚ) : |(halfEven x : ℚ) - x| ≤ 1 / 2 := by
  have hsplit := Int.floor_add_fract x
  have hlow := Int.fract_nonneg x
  have hhigh := Int.fract_lt_one x
  rw [abs_le, halfEven]
  split_ifs with hlt heq
  · constructor <;> linarith
  · rcases Int.emod_two_eq_zero_or_one ⌊x⌋ with hbit | hbit <;> rw [hbit] <;> push_cast <;>
      constructor <;> linarith
  · have hgt : 1 / 2 < Int.fract x := lt_of_le_of_ne (not_lt.1 hlt) (Ne.symm heq)
    push_cast
    constructor <;> linarith

/-! ## To doubles -/

/-- `r` is `q` rounded to fifty-three bits. -/
def Rounds (q r : ℚ) : Prop :=
  ∃ e : ℤ, 2 ^ 52 * 2 ^ e ≤ q ∧ q < 2 ^ 53 * 2 ^ e ∧ r = halfEven (q / 2 ^ e) * 2 ^ e

theorem two_zpow_pos (e : ℤ) : (0 : ℚ) < 2 ^ e := zpow_pos (by norm_num) e

theorem two_mul_zpow_le {e f : ℤ} (h : e < f) : (2 : ℚ) * 2 ^ e ≤ 2 ^ f := by
  rw [← zpow_one_add₀ (by norm_num)]
  exact zpow_le_zpow_right₀ (by norm_num) (by omega)

theorem halfEven_mem {q : ℚ} {e : ℤ} (hlow : 2 ^ 52 * 2 ^ e ≤ q) (hhigh : q < 2 ^ 53 * 2 ^ e) :
    2 ^ 52 ≤ halfEven (q / 2 ^ e) ∧ halfEven (q / 2 ^ e) ≤ 2 ^ 53 := by
  constructor
  · refine le_halfEven ?_
    rw [le_div_iff₀ (two_zpow_pos e)]
    exact_mod_cast hlow
  · refine halfEven_le_of_le ?_
    rw [div_le_iff₀ (two_zpow_pos e)]
    exact_mod_cast hhigh.le

section Rounds

variable {q r q' r' : ℚ}

/-- **Rounding keeps the order.** -/
theorem Rounds.mono (h : Rounds q r) (h' : Rounds q' r') (hle : q ≤ q') : r ≤ r' := by
  obtain ⟨e, hlow, hhigh, rfl⟩ := h
  obtain ⟨e', hlow', hhigh', rfl⟩ := h'
  have hpos := two_zpow_pos e
  have hpos' := two_zpow_pos e'
  rcases lt_trichotomy e e' with hlt | rfl | hgt
  · -- what is rounded to the lower exponent is at most the least that has the higher one
    have hr : (halfEven (q / 2 ^ e) : ℚ) ≤ 2 ^ 53 := by exact_mod_cast (halfEven_mem hlow hhigh).2
    have hr' : (2 : ℚ) ^ 52 ≤ halfEven (q' / 2 ^ e') := by
      exact_mod_cast (halfEven_mem hlow' hhigh').1
    calc (halfEven (q / 2 ^ e) : ℚ) * 2 ^ e
        ≤ 2 ^ 53 * 2 ^ e := mul_le_mul_of_nonneg_right hr hpos.le
      _ = 2 ^ 52 * (2 * 2 ^ e) := by ring
      _ ≤ 2 ^ 52 * 2 ^ e' := mul_le_mul_of_nonneg_left (two_mul_zpow_le hlt) (by norm_num)
      _ ≤ halfEven (q' / 2 ^ e') * 2 ^ e' := mul_le_mul_of_nonneg_right hr' hpos'.le
  · have hr := halfEven_mono (div_le_div_of_nonneg_right hle hpos.le)
    exact mul_le_mul_of_nonneg_right (by exact_mod_cast hr) hpos.le
  · have hstep := two_mul_zpow_le hgt
    linarith

theorem Rounds.unique (h : Rounds q r) (h' : Rounds q r') : r = r' :=
  le_antisymm (h.mono h' le_rfl) (h'.mono h le_rfl)

theorem Rounds.nonneg (h : Rounds q r) : 0 ≤ r := by
  obtain ⟨e, hlow, hhigh, rfl⟩ := h
  have hmem := (halfEven_mem hlow hhigh).1
  have hcast : (0 : ℚ) ≤ halfEven (q / 2 ^ e) := by
    exact_mod_cast (by omega : 0 ≤ halfEven (q / 2 ^ e))
  exact mul_nonneg hcast (two_zpow_pos e).le

/-- **Rounding is off by at most a part in `2 ^ 53`.** -/
theorem Rounds.abs_sub_le (h : Rounds q r) : |r - q| ≤ q / 2 ^ 53 := by
  obtain ⟨e, hlow, -, rfl⟩ := h
  have hpos := two_zpow_pos e
  have hsplit : halfEven (q / 2 ^ e) * 2 ^ e - q = (halfEven (q / 2 ^ e) - q / 2 ^ e) * 2 ^ e := by
    field_simp
  rw [hsplit, abs_mul, abs_of_pos hpos]
  calc |(halfEven (q / 2 ^ e) : ℚ) - q / 2 ^ e| * 2 ^ e
      ≤ 1 / 2 * 2 ^ e := mul_le_mul_of_nonneg_right (abs_halfEven_sub_le _) hpos.le
    _ = 2 ^ 52 * 2 ^ e / 2 ^ 53 := by ring
    _ ≤ q / 2 ^ 53 := div_le_div_of_nonneg_right hlow (by norm_num)

/-- A number of fifty-three bits is rounded to itself. -/
theorem rounds_self {m : ℕ} (hlow : 2 ^ 52 ≤ m) (hhigh : m < 2 ^ 53) (e : ℤ) :
    Rounds (m * 2 ^ e) (m * 2 ^ e) := by
  have hm : (2 : ℚ) ^ 52 ≤ m := by exact_mod_cast hlow
  have hm' : (m : ℚ) < 2 ^ 53 := by exact_mod_cast hhigh
  have hpos := two_zpow_pos e
  refine ⟨e, mul_le_mul_of_nonneg_right hm hpos.le, mul_lt_mul_of_pos_right hm' hpos, ?_⟩
  rw [mul_div_cancel_right₀ _ hpos.ne']
  exact congrArg (fun k : ℤ => (k : ℚ) * 2 ^ e) (halfEven_intCast m).symm

theorem rounds_zpow (k : ℤ) : Rounds (2 ^ k) (2 ^ k) := by
  have hpower : (2 : ℚ) ^ k = (2 ^ 52 : ℕ) * 2 ^ (k - 52) := by
    rw [Nat.cast_pow, Nat.cast_ofNat, ← zpow_natCast, ← zpow_add₀ (by norm_num)]
    congr 1
    omega
  rw [hpower]
  exact rounds_self (by norm_num) (by norm_num) (k - 52)

theorem Rounds.zpow_le {k : ℤ} (h : Rounds q r) (hle : 2 ^ k ≤ q) : 2 ^ k ≤ r :=
  (rounds_zpow k).mono h hle

theorem Rounds.le_zpow {k : ℤ} (h : Rounds q r) (hle : q ≤ 2 ^ k) : r ≤ 2 ^ k :=
  h.mono (rounds_zpow k) hle

end Rounds

/-! ## Whole numbers -/

section Counts

variable {n : ℕ}

theorem le_mul_two_pow (hn : 0 < n) (hhigh : n < 2 ^ 53) : 2 ^ 52 ≤ n * 2 ^ (52 - n.log2) := by
  have hlog : n.log2 < 53 := (Nat.log2_lt hn.ne').2 hhigh
  calc 2 ^ 52 = 2 ^ n.log2 * 2 ^ (52 - n.log2) := by rw [← pow_add]; congr 1; omega
    _ ≤ n * 2 ^ (52 - n.log2) := Nat.mul_le_mul_right _ (Nat.log2_self_le hn.ne')

theorem mul_two_pow_lt (hn : 0 < n) (hhigh : n < 2 ^ 53) : n * 2 ^ (52 - n.log2) < 2 ^ 53 := by
  have hlog : n.log2 < 53 := (Nat.log2_lt hn.ne').2 hhigh
  calc n * 2 ^ (52 - n.log2)
      < 2 ^ (n.log2 + 1) * 2 ^ (52 - n.log2) :=
        Nat.mul_lt_mul_of_pos_right Nat.lt_log2_self (Nat.two_pow_pos _)
    _ = 2 ^ 53 := by rw [← pow_add]; congr 1; omega

theorem natCast_eq_mul_zpow (n k : ℕ) : (n : ℚ) = (n * 2 ^ k : ℕ) * 2 ^ (0 - k : ℤ) := by
  rw [zero_sub, zpow_neg, zpow_natCast]
  push_cast
  field_simp

/-- A whole number of at most fifty-three bits is rounded to itself. -/
theorem rounds_natCast (hn : 0 < n) (hhigh : n < 2 ^ 53) : Rounds n n := by
  rw [natCast_eq_mul_zpow n (52 - n.log2)]
  exact rounds_self (le_mul_two_pow hn hhigh) (mul_two_pow_lt hn hhigh) _

end Counts

end NodeAlerts.Double
