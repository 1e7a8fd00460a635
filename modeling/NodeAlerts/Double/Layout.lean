import NodeAlerts.Double.Shortest

/-!
# How doubles are written

Two layouts share the shortest digits of a double.

* `plain`, for messages: always positional, no `.0` on whole numbers, `NaN`, `inf` and `-inf` for
  the rest.
* `wire`, for JSON: positional from `0.00001` to sixteen whole digits, with `.0` on whole numbers,
  and otherwise scientific with a signed exponent.
-/

namespace NodeAlerts.Double

/-- The decisions of a layout for finite doubles. -/
structure Layout where
  /-- The exponents of the first digit that are written positionally; `none` for all. -/
  positional : Option (Int × Int)
  /-- What follows a whole number written positionally. -/
  wholeSuffix : String
  /-- The mark between digits and exponent; an exponent that is not negative gets a plus sign. -/
  exponentMark : String
  /-- How a value halfway between two shortest decimals goes. -/
  tie : Tie

/-- Positional, without a mark on whole numbers. -/
def plain : Layout where
  positional := none
  wholeSuffix := ""
  exponentMark := "e"
  tie := .away

/-- The notation of numbers on the wire. -/
def wire : Layout where
  positional := some (-5, 15)
  wholeSuffix := ".0"
  exponentMark := "e"
  tie := .toEven

/-- Digits as text. -/
def digitText (digits : List Nat) : String :=
  String.ofList (digits.map fun d => Char.ofNat ('0'.toNat + d))

/-- A decimal in positional notation. -/
def Decimal.positional (d : Decimal) (wholeSuffix : String) : String :=
  if d.exponent < 0 then
    "0." ++ digitText (List.replicate (-d.exponent - 1).toNat 0 ++ d.digits)
  else
    let whole := d.exponent.toNat + 1
    if d.digits.length ≤ whole then
      digitText (d.digits ++ List.replicate (whole - d.digits.length) 0) ++ wholeSuffix
    else digitText (d.digits.take whole) ++ "." ++ digitText (d.digits.drop whole)

/-- A decimal in scientific notation. -/
def Decimal.scientific (d : Decimal) (mark : String) : String :=
  let fraction := if d.digits.length ≤ 1 then "" else "." ++ digitText (d.digits.drop 1)
  let sign := if d.exponent < 0 then "-" else "+"
  digitText (d.digits.take 1) ++ fraction ++ mark ++ sign ++ toString d.exponent.natAbs

/-- A decimal in the notation that the layout chooses for its size. -/
def Layout.decimal (l : Layout) (d : Decimal) : String :=
  match l.positional with
  | none => d.positional l.wholeSuffix
  | some (low, high) =>
    if low ≤ d.exponent ∧ d.exponent ≤ high then d.positional l.wholeSuffix
    else d.scientific l.exponentMark

/-- A finite double in the given layout. -/
def Layout.text (l : Layout) (p : Parts) : String :=
  (if p.negative then "-" else "") ++ l.decimal (shortest l.tie p)

/-- A double as messages show it. -/
def plainText (x : Float) : String :=
  match kind x with
  | .nan => "NaN"
  | .infinite negative => if negative then "-inf" else "inf"
  | .finite p => plain.text p

/-- A double as JSON writes it; there is no JSON number for NaN and the infinities. -/
def wireText? (x : Float) : Option String :=
  match kind x with
  | .finite p => some (wire.text p)
  | _ => none

end NodeAlerts.Double
