import NodeAlerts.Double.Binary

/-!
# The shortest decimal of a double

`shortest` gives the fewest digits `d₁d₂…dₙ` and the power of ten of the first digit such that the
decimal `d₁.d₂…dₙ · 10 ^ e` reads back as the given double, and of those the decimal nearest to it.

The reals that read back as `m · 2 ^ q` form an interval around it, half a step wide on each side
(a quarter step below a power of two), with its ends included when `m` is even.  For one digit, two
digits and so on, the two neighbours of the value on that decimal grid are tested against the
interval in whole-number arithmetic.
-/

namespace NodeAlerts.Double

/-- Which way a value halfway between two decimals of the same length goes. -/
inductive Tie where
  /-- Away from zero. -/
  | away
  /-- To the decimal with an even last digit. -/
  | toEven
  deriving Repr, DecidableEq

/-- A positive decimal: its digits, most significant first, and the power of ten of the first. -/
structure Decimal where
  /-- The digits, without a leading or trailing zero. -/
  digits : List Nat
  /-- The power of ten of the first digit. -/
  exponent : Int
  deriving Repr, DecidableEq

/-- The decimal digits of a number, most significant first. -/
def decimalDigits (n : Nat) : List Nat :=
  (Nat.toDigits 10 n).map fun c => c.toNat - '0'.toNat

/-- The reals that read back as one double, as multiples of `1 / scale`. -/
structure Interval where
  /-- The lower end. -/
  low : Nat
  /-- The double itself. -/
  value : Nat
  /-- The upper end. -/
  high : Nat
  /-- The common denominator. -/
  scale : Nat
  /-- Whether the ends belong to the interval. -/
  closed : Bool
  deriving Repr

/-- The interval of a positive double.  Below a power of two the next double is only half as far,
except where the exponent is already the least. -/
def Interval.of (p : Parts) : Interval :=
  let below := if p.significand = Nat.pow 2 52 ∧ p.exponent ≠ -1074 then 1 else 2
  let up := (p.exponent - 2).toNat
  let down := (2 - p.exponent).toNat
  { low := (4 * p.significand - below) * Nat.pow 2 up
    value := 4 * p.significand * Nat.pow 2 up
    high := (4 * p.significand + 2) * Nat.pow 2 up
    scale := Nat.pow 2 down
    closed := p.significand % 2 = 0 }

/-- Whether `n · 10 ^ power` lies in the interval. -/
def Interval.holds (i : Interval) (n : Nat) (power : Int) : Bool :=
  let x := n * Nat.pow 10 power.toNat * i.scale
  let unit := Nat.pow 10 (-power).toNat
  if i.closed then i.low * unit ≤ x && x ≤ i.high * unit
  else i.low * unit < x && x < i.high * unit

/-- The power of ten of the value's first digit.  Every double is above `10 ^ -400`. -/
def Interval.magnitude (i : Interval) : Int :=
  let whole := i.value * Nat.pow 10 400 / i.scale
  ((Nat.toDigits 10 whole).length : Int) - 401

/-- The decimal of the interval on the grid `10 ^ power`: of the value's two neighbours the nearer
one that lies in the interval. -/
def Interval.onGrid (tie : Tie) (i : Interval) (power : Int) : Option Nat :=
  let num := i.value * Nat.pow 10 (-power).toNat
  let den := i.scale * Nat.pow 10 power.toNat
  let floor := num / den
  let rest := num % den
  let up : Bool :=
    if 2 * rest = den then
      match tie with
      | .away => true
      | .toEven => floor % 2 == 1
    else decide (den < 2 * rest)
  let first := if up then floor + 1 else floor
  let second := if up then floor else floor + 1
  if i.holds first power then some first
  else if i.holds second power then some second
  else none

/-- Tries `digits` digits, then one more, up to `fuel` times; the last resort is the value rounded
down, which seventeen digits never need. -/
def Interval.search (tie : Tie) (i : Interval) (magnitude : Int) : Nat → Nat → Nat × Int
  | 0, digits =>
    let power := magnitude - digits
    (i.value * Nat.pow 10 (-power).toNat / (i.scale * Nat.pow 10 power.toNat), power)
  | fuel + 1, digits =>
    let power := magnitude - digits
    match i.onGrid tie power with
    | some n => (n, power)
    | none => i.search tie magnitude fuel (digits + 1)

/-- The shortest decimal that reads back as the magnitude of `p`; zero has the digit `0`. -/
def shortest (tie : Tie) (p : Parts) : Decimal :=
  if p.significand = 0 then ⟨[0], 0⟩
  else
    let i := Interval.of p
    let (n, power) := i.search tie i.magnitude 17 0
    let digits := decimalDigits n
    ⟨(digits.reverse.dropWhile (· = 0)).reverse, power + digits.length - 1⟩

end NodeAlerts.Double
