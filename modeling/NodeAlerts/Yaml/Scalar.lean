import NodeAlerts.Double.Numeral
import NodeAlerts.Yaml.Character

/-!
# What scalars stand for

A scalar without quotes stands for nothing, a truth value, a number or a text, depending on how it
is written or on its tag.
-/

namespace NodeAlerts.Yaml

open NodeAlerts.Double

/-- What a scalar stands for. -/
inductive Scalar where
  /-- Nothing. -/
  | null
  /-- A truth value. -/
  | flag (b : Bool)
  /-- A whole number of sixty-four bits. -/
  | whole (n : Int)
  /-- Another number, as written. -/
  | real (text : String)
  /-- A text. -/
  | text (s : String)
  /-- Something that is not what its tag says, or that is not known yet. -/
  | invalid
  deriving Repr, DecidableEq, Inhabited

namespace Scalar

/-- The number written in a base. -/
def readBase? (base : Nat) (cs : List Char) : Option Int := do
  let (negative, digits) := takeSign cs
  let n ← readDigits? base digits
  inQuantity? (if negative then -(n : Int) else n)

/-- The whole number written with a base or a plus sign in front. -/
def readMarked? : List Char → Option Int
  | '0' :: 'x' :: cs => readBase? 16 cs
  | '0' :: 'o' :: cs => readBase? 8 cs
  | '+' :: cs => readBase? 10 cs
  | _ => none

/-- The names of infinities and NaN. -/
def specialNames : List String :=
  [".inf", ".Inf", ".INF", "+.inf", "+.Inf", "+.INF", "-.inf", "-.Inf", "-.INF", ".nan", "NaN",
    ".NAN"]

/-- Whether a text is a number. -/
def isNumber (s : String) : Bool := specialNames.contains s || (readFloat? s).isSome

/-- The names of nothing; an empty text is not one of them. -/
def nullNames : List String := ["~", "null"]

/-- The truth value with a name. -/
def flag? (s : String) : Option Bool :=
  if s = "true" then some true else if s = "false" then some false else none

/-- What a scalar without quotes and tag stands for. -/
def ofPlain (s : String) : Scalar :=
  if let some n := readMarked? s.toList then .whole n
  else if nullNames.contains s then .null
  else if let some b := flag? s then .flag b
  else if let some n := readQuantity? s then .whole n
  else if isNumber s then .real s
  else .text s

/-- What a scalar without quotes stands for when its tag names a type of the standard. -/
def ofTyped (type s : String) : Scalar :=
  if type = "bool" then ((flag? s).map flag).getD .invalid
  else if type = "int" then ((readQuantity? s).map whole).getD .invalid
  else if type = "float" then if isNumber s then .real s else .invalid
  else if type = "null" then if nullNames.contains s then .null else .invalid
  else .text s

/-- The name that a scalar is as a key. -/
def name? : Scalar → Option String
  | .text s => some s
  | .whole n => some (toString n)
  | .flag b => some (if b then "true" else "false")
  | .real s => some s
  | .null => none
  | .invalid => none

end Scalar

end NodeAlerts.Yaml
