import NodeAlerts.Double.Binary

/-!
# Reading decimal numbers

A `Numeral` is a decimal as written: sign, digits before and after the point, power of ten.

* `Numeral.nearest` is the double nearest to the written number.
* `Numeral.scaled?` is the reading used for JSON: the leading digits that fit sixty-four bits become
  one double, which is then scaled once by a power of ten.  It can differ from the nearest double in
  the last bit, and a number beyond the largest double has no reading.
* `readFloat?` reads a whole text, including the names of NaN and infinity.
-/

namespace NodeAlerts.Double

/-- A decimal number as written. -/
structure Numeral where
  /-- Whether a minus sign stands in front. -/
  negative : Bool
  /-- The digits before the point. -/
  whole : List Nat
  /-- The digits after the point; `none` without a point. -/
  fraction : Option (List Nat)
  /-- The power of ten written behind the digits, if any. -/
  exponent : Option Int
  deriving Repr, DecidableEq

/-- The number a list of digits stands for. -/
def digitsValue (digits : List Nat) : Nat := digits.foldl (fun n d => 10 * n + d) 0

/-- The digit a character stands for. -/
def digit? (c : Char) : Option Nat :=
  if '0' ≤ c ∧ c ≤ '9' then some (c.toNat - '0'.toNat) else none

namespace Numeral

/-- Whether the number is written without point and exponent. -/
def isWhole (n : Numeral) : Bool := n.fraction.isNone && n.exponent.isNone

/-- The whole number written before the point, with its sign. -/
def wholeValue (n : Numeral) : Int :=
  if n.negative then -digitsValue n.whole else digitsValue n.whole

/-- Applies the sign of the numeral. -/
def signed (n : Numeral) (x : Float) : Float := if n.negative then -x else x

/-- The double nearest to the written number, possibly an infinity.  Beyond the powers of ten that
a double can reach the digits do not matter. -/
def nearest (n : Numeral) : Float :=
  let digits := n.whole ++ n.fraction.getD []
  let value := digitsValue digits
  let power := n.exponent.getD 0 - (n.fraction.getD []).length
  let size := (digits.dropWhile (· = 0)).length + power
  n.signed <|
    if value = 0 ∨ size < -400 then 0
    else if 400 < size then 1 / 0
    else Float.ofScientific value (power < 0) power.natAbs

/-! ### Scaling -/

/-- Takes digits into `value` while it stays below `2 ^ 64`; gives the value and the digits left. -/
def absorb (value : Nat) : List Nat → Nat × List Nat
  | [] => (value, [])
  | d :: ds => if 10 * value + d ≤ maxCount then absorb (10 * value + d) ds else (value, d :: ds)

/-- The double `10 ^ n`. -/
def powerOfTen (n : Nat) : Float := Float.ofScientific 1 false n

/-- Scales a double by a power of ten, in steps of at most `10 ^ 308`; there is no result beyond the
largest double. -/
def scale? (x : Float) (power : Int) : Option Float :=
  match power with
  | .ofNat e =>
    if e ≤ 308 then
      let y := x * powerOfTen e
      if isFinite y then some y else none
    else if x == 0 then some x
    else none
  | .negSucc e =>
    if e + 1 ≤ 308 then some (x / powerOfTen (e + 1))
    else if e + 1 ≤ 616 then some (x / powerOfTen 308 / powerOfTen (e + 1 - 308))
    else some 0

/-- The double obtained by scaling the leading digits, if it is finite. -/
def scaled? (n : Numeral) : Option Float :=
  let (value, wholeLeft) := absorb 0 n.whole
  let (value, fractionLeft) := absorb value (n.fraction.getD [])
  let taken := (n.fraction.getD []).length - fractionLeft.length
  let power := n.exponent.getD 0 + wholeLeft.length - taken
  (scale? (ofCount value) power).map n.signed

end Numeral

/-! ## Texts -/

/-- Splits the leading digits off a text. -/
def takeDigits : List Char → List Nat × List Char
  | [] => ([], [])
  | c :: cs =>
    match digit? c with
    | some d => let (ds, rest) := takeDigits cs; (d :: ds, rest)
    | none => ([], c :: cs)

/-- Splits a leading sign off a text; gives whether it is a minus sign. -/
def takeSign : List Char → Bool × List Char
  | '-' :: cs => (true, cs)
  | '+' :: cs => (false, cs)
  | cs => (false, cs)

/-- The exponent behind the digits: empty, or `e` and an optionally signed number. -/
def readExponent? : List Char → Option (Option Int)
  | [] => some none
  | c :: cs =>
    if c = 'e' ∨ c = 'E' then
      let (negative, cs) := takeSign cs
      match takeDigits cs with
      | ([], _) => none
      | (ds, []) =>
        some (some (if negative then -(digitsValue ds : Int) else (digitsValue ds : Int)))
      | _ => none
    else none

/-- The digits with point and exponent; at least one digit stands before or after the point. -/
def readNumeral? (negative : Bool) (cs : List Char) : Option Numeral :=
  let (whole, cs) := takeDigits cs
  let (fraction, cs) :=
    match cs with
    | '.' :: cs => let (ds, cs) := takeDigits cs; (some ds, cs)
    | cs => (none, cs)
  if whole.isEmpty && (fraction.getD []).isEmpty then none
  else (readExponent? cs).map fun exponent => ⟨negative, whole, fraction, exponent⟩

/-- The double a text stands for: an optional sign, then a decimal number, `inf`, `infinity` or
`nan`, the names in any case. -/
def readFloat? (s : String) : Option Float :=
  let (negative, cs) := takeSign s.toList
  let name := String.ofList (cs.map Char.toLower)
  if name = "inf" ∨ name = "infinity" then some (if negative then -1 / 0 else 1 / 0)
  else if name = "nan" then some (0 / 0)
  else (readNumeral? negative cs).map Numeral.nearest

/-- The whole number a text of digits with an optional sign stands for. -/
def readInt? (s : String) : Option Int :=
  let (negative, cs) := takeSign s.toList
  match takeDigits cs with
  | ([], _) => none
  | (ds, []) => some (if negative then -(digitsValue ds : Int) else (digitsValue ds : Int))
  | _ => none

/-- A whole number, if it is one of sixty-four bits with a sign. -/
def inQuantity? (n : Int) : Option Int :=
  if minQuantity ≤ n ∧ n ≤ maxQuantity then some n else none

/-- The whole number of sixty-four bits with a sign that a text stands for. -/
def readQuantity? (s : String) : Option Int := (readInt? s).bind inQuantity?

end NodeAlerts.Double
