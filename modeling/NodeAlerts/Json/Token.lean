import NodeAlerts.Json.Scalar

/-!
# The tokens of a JSON text

`Token.scan?` splits the bytes of a JSON text into tokens and refuses what breaks the grammar: of
numbers, of escapes, and control characters inside a text.  A number out of range and a text that is
not well-formed are tokens without a value; they are refused only where their value is used.
-/

namespace NodeAlerts.Json

open NodeAlerts.Double

/-- A token of a JSON text. -/
inductive Token where
  /-- `{` -/
  | openObject
  /-- `}` -/
  | closeObject
  /-- `[` -/
  | openArray
  /-- `]` -/
  | closeArray
  /-- `:` -/
  | colon
  /-- `,` -/
  | comma
  /-- `null` -/
  | null
  /-- `true` or `false` -/
  | bool (b : Bool)
  /-- A number, if it is in range. -/
  | number (n : Option Number)
  /-- A text between quotes, if it is well-formed. -/
  | text (s : Option String)
  deriving Repr

/-! ## Numbers -/

/-- The digit a byte stands for. -/
def digit? (b : UInt8) : Option Nat :=
  if 0x30 ≤ b ∧ b ≤ 0x39 then some (b.toNat - 0x30) else none

/-- Splits the leading digits off; `taken` holds those already read, last first. -/
def takeDigits (taken : List Nat) : List UInt8 → List Nat × List UInt8
  | [] => (taken.reverse, [])
  | b :: bs =>
    match digit? b with
    | some d => takeDigits (d :: taken) bs
    | none => (taken.reverse, b :: bs)

/-- The digits behind the point, of which there is at least one; no point, no digits. -/
def fraction? : List UInt8 → Option (Option (List Nat) × List UInt8)
  | 0x2E :: bs =>
    match takeDigits [] bs with
    | ([], _) => none
    | (ds, rest) => some (some ds, rest)
  | bs => some (none, bs)

/-- The power of ten behind `e`, if there is one. -/
def exponent? : List UInt8 → Option (Option Int × List UInt8)
  | [] => some (none, [])
  | b :: bs =>
    if b = 0x65 ∨ b = 0x45 then
      let (negative, bs) :=
        match bs with
        | 0x2D :: bs => (true, bs)
        | 0x2B :: bs => (false, bs)
        | bs => (false, bs)
      match takeDigits [] bs with
      | ([], _) => none
      | (ds, rest) =>
        some (some (if negative then -(digitsValue ds : Int) else (digitsValue ds : Int)), rest)
    else some (none, b :: bs)

/-- The unsigned number at the start of the bytes: no zero stands before another digit. -/
def number? (negative : Bool) (bs : List UInt8) : Option (Numeral × List UInt8) :=
  match takeDigits [] bs with
  | ([], _) => none
  | (0 :: _ :: _, _) => none
  | (whole, bs) => do
    let (fraction, bs) ← fraction? bs
    let (exponent, bs) ← exponent? bs
    return (⟨negative, whole, fraction, exponent⟩, bs)

/-! ## Texts -/

/-- The value of a hexadecimal digit. -/
def hexDigit? (b : UInt8) : Option Nat :=
  if 0x30 ≤ b ∧ b ≤ 0x39 then some (b.toNat - 0x30)
  else if 0x41 ≤ b ∧ b ≤ 0x46 then some (b.toNat - 0x37)
  else if 0x61 ≤ b ∧ b ≤ 0x66 then some (b.toNat - 0x57)
  else none

/-- The byte that a short escape stands for. -/
def escaped? (b : UInt8) : Option UInt8 :=
  match b with
  | 0x22 => some 0x22
  | 0x5C => some 0x5C
  | 0x2F => some 0x2F
  | 0x62 => some 0x08
  | 0x66 => some 0x0C
  | 0x6E => some 0x0A
  | 0x72 => some 0x0D
  | 0x74 => some 0x09
  | _ => none

/-- The content of a text up to its closing quote; `taken` holds what was read, last first. -/
def text? (taken : Written) : List UInt8 → Option (Written × List UInt8)
  | [] => none
  | 0x22 :: bs => some (taken.reverse, bs)
  | 0x5C :: 0x75 :: a :: b :: c :: d :: bs =>
    match hexDigit? a, hexDigit? b, hexDigit? c, hexDigit? d with
    | some a, some b, some c, some d =>
      text? (.code (((a * 16 + b) * 16 + c) * 16 + d) :: taken) bs
    | _, _, _, _ => none
  | 0x5C :: e :: bs =>
    match escaped? e with
    | some b => text? (.byte b :: taken) bs
    | none => none
  | b :: bs => if b < 0x20 ∨ b = 0x5C then none else text? (.byte b :: taken) bs

/-! ## The scanner -/

/-- The token at the start of the bytes, which do not start with a blank. -/
def token? : List UInt8 → Option (Token × List UInt8)
  | [] => none
  | 0x7B :: bs => some (.openObject, bs)
  | 0x7D :: bs => some (.closeObject, bs)
  | 0x5B :: bs => some (.openArray, bs)
  | 0x5D :: bs => some (.closeArray, bs)
  | 0x3A :: bs => some (.colon, bs)
  | 0x2C :: bs => some (.comma, bs)
  | 0x22 :: bs => (text? [] bs).map fun (w, bs) => (.text (decode? w), bs)
  | 0x2D :: bs => (number? true bs).map fun (n, bs) => (.number (Number.ofNumeral? n), bs)
  | 0x6E :: 0x75 :: 0x6C :: 0x6C :: bs => some (.null, bs)
  | 0x74 :: 0x72 :: 0x75 :: 0x65 :: bs => some (.bool true, bs)
  | 0x66 :: 0x61 :: 0x6C :: 0x73 :: 0x65 :: bs => some (.bool false, bs)
  | bs => (number? false bs).map fun (n, bs) => (.number (Number.ofNumeral? n), bs)

/-- Whether a byte may stand between tokens. -/
def isBlank (b : UInt8) : Bool := b = 0x20 || b = 0x0A || b = 0x0D || b = 0x09

/-- Reads at most `fuel` tokens; `taken` holds those already read, last first. -/
def Token.scanFrom (taken : List Token) : Nat → List UInt8 → Option (List Token)
  | 0, bs => if bs.all isBlank then some taken.reverse else none
  | fuel + 1, bs =>
    match bs.dropWhile isBlank with
    | [] => some taken.reverse
    | b :: bs =>
      match token? (b :: bs) with
      | some (t, rest) => scanFrom (t :: taken) fuel rest
      | none => none

/-- The tokens of a JSON text.  Every token takes at least one byte, so their number bounds the
loop. -/
def Token.scan? (bytes : List UInt8) : Option (List Token) := scanFrom [] bytes.length bytes

end NodeAlerts.Json
