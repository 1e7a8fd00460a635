/-!
# Doubles as exact binary numbers

A finite double is `± significand · 2 ^ exponent` (`Parts`).  Everything that turns a double into a
whole number goes through its parts in exact arithmetic: `toCount` drops the fraction, `nearest`
rounds a half away from zero, and both stop at the ends of their range (`toCount_le`,
`nearest_mem`) instead of wrapping.
-/

namespace NodeAlerts.Double

/-- A finite double: `± significand · 2 ^ exponent`. -/
structure Parts where
  /-- Whether the sign bit is set. -/
  negative : Bool
  /-- The significand, below `2 ^ 53`. -/
  significand : Nat
  /-- The power of two of the significand's last bit. -/
  exponent : Int
  deriving Repr, DecidableEq

/-- What a double is. -/
inductive Kind where
  /-- Not a number. -/
  | nan
  /-- An infinity. -/
  | infinite (negative : Bool)
  /-- A finite number. -/
  | finite (parts : Parts)
  deriving Repr, DecidableEq

/-- Reads the sign, the eleven exponent bits and the fifty-two fraction bits of a double. -/
def kind (x : Float) : Kind :=
  let bits := x.toBits.toNat
  let negative := bits / Nat.pow 2 63 == 1
  let power : Nat := bits / Nat.pow 2 52 % Nat.pow 2 11
  let fraction : Nat := bits % Nat.pow 2 52
  if power = 2047 then
    if fraction = 0 then .infinite negative else .nan
  else if power = 0 then .finite ⟨negative, fraction, -1074⟩
  else .finite ⟨negative, Nat.pow 2 52 + fraction, (power : Int) - 1075⟩

/-- Whether a double is neither an infinity nor a NaN. -/
def isFinite (x : Float) : Bool :=
  match kind x with
  | .finite _ => true
  | _ => false

namespace Parts

/-- The magnitude without its fraction. -/
def floor (p : Parts) : Nat :=
  match p.exponent with
  | .ofNat e => p.significand * Nat.pow 2 e
  | .negSucc e => p.significand / Nat.pow 2 (e + 1)

/-- The magnitude rounded to a whole number, a half going up. -/
def round (p : Parts) : Nat :=
  match p.exponent with
  | .ofNat e => p.significand * Nat.pow 2 e
  | .negSucc e => (p.significand + Nat.pow 2 e) / Nat.pow 2 (e + 1)

/-- The whole number nearest to the signed value, a half going away from zero. -/
def toInt (p : Parts) : Int := if p.negative then -p.round else p.round

end Parts

/-! ## Bounded whole numbers -/

/-- The largest count that is kept, `2 ^ 64 - 1`. -/
def maxCount : Nat := 18446744073709551615

/-- The largest signed quantity that is kept, `2 ^ 63 - 1`. -/
def maxQuantity : Int := 9223372036854775807

/-- The smallest signed quantity that is kept, `-2 ^ 63`. -/
def minQuantity : Int := -9223372036854775808

/-- The count a double stands for: its fraction is dropped, negative numbers and NaN count as zero,
and counts stop at `maxCount`. -/
def toCount (x : Float) : Nat :=
  match kind x with
  | .nan => 0
  | .infinite negative => if negative then 0 else maxCount
  | .finite p => if p.negative then 0 else min p.floor maxCount

/-- The whole number nearest to a double, a half going away from zero; NaN counts as zero and
quantities stop at the ends of their range. -/
def nearest (x : Float) : Int :=
  match kind x with
  | .nan => 0
  | .infinite negative => if negative then minQuantity else maxQuantity
  | .finite p => max minQuantity (min p.toInt maxQuantity)

/-- The double nearest to a count. -/
def ofCount (n : Nat) : Float := Float.ofNat n

/-- The double nearest to a whole number. -/
def ofInt (n : Int) : Float := Float.ofInt n

theorem toCount_le (x : Float) : toCount x ≤ maxCount := by
  unfold toCount
  split
  · exact Nat.zero_le _
  · split
    · exact Nat.zero_le _
    · exact Nat.le_refl _
  · split
    · exact Nat.zero_le _
    · exact Nat.min_le_right _ _

theorem nearest_mem (x : Float) : minQuantity ≤ nearest x ∧ nearest x ≤ maxQuantity := by
  unfold nearest minQuantity maxQuantity
  split
  · omega
  · split <;> omega
  · omega

end NodeAlerts.Double
