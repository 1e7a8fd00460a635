import NodeAlerts.Double.Layout
import NodeAlerts.Double.Numeral

/-!
# JSON numbers and texts

* `Number.ofNumeral?` is the number that a written number stands for: a whole number of sixty-four
  bits where it fits, and else a finite double.
* `decode?` is the text that a written text stands for: well-formed UTF-8 with paired surrogates.
-/

namespace NodeAlerts.Json

open NodeAlerts.Double

/-! ## Numbers -/

/-- A JSON number. -/
inductive Number where
  /-- A whole number from `-2 ^ 63` to `2 ^ 64 - 1`. -/
  | int (n : Int)
  /-- A finite double. -/
  | float (x : Float)
  deriving Repr

namespace Number

/-- The number a numeral stands for, unless it is beyond the largest double.  Numerals without
point and exponent are whole numbers where they fit; `-0` is a double. -/
def ofNumeral? (n : Numeral) : Option Number :=
  let i := n.wholeValue
  if n.isWhole ∧ minQuantity ≤ i ∧ i ≤ maxCount ∧ ¬(n.negative ∧ i = 0) then some (.int i)
  else n.scaled?.map .float

/-- The double nearest to a number. -/
def toFloat : Number → Float
  | .int n => ofInt n
  | .float x => x

/-- A number as JSON writes it. -/
def write : Number → String
  | .int n => toString n
  | .float x => (wireText? x).getD "null"

end Number

/-! ## Texts -/

/-- One element of a written text. -/
inductive Unit16 where
  /-- A byte, written as it is or by a short escape. -/
  | byte (b : UInt8)
  /-- A sixteen-bit code, written by four hexadecimal digits. -/
  | code (u : Nat)
  deriving Repr, DecidableEq

/-- The content of a text as written, without its quotes. -/
abbrev Written := List Unit16

/-- The UTF-8 bytes of a code point. -/
def codePointBytes (n : Nat) : List UInt8 := (String.singleton (Char.ofNat n)).toUTF8.toList

/-- The UTF-8 bytes of a written text; none if it holds half of a surrogate pair. -/
def utf8? : Written → Option (List UInt8)
  | [] => some []
  | .byte b :: w => (utf8? w).map (b :: ·)
  | .code u :: w =>
    if u < 0xD800 ∨ 0xDFFF < u then (utf8? w).map (codePointBytes u ++ ·)
    else if 0xDC00 ≤ u then none
    else
      match w with
      | .code l :: w =>
        if 0xDC00 ≤ l ∧ l ≤ 0xDFFF then
          (utf8? w).map (codePointBytes (0x10000 + (u - 0xD800) * 0x400 + (l - 0xDC00)) ++ ·)
        else none
      | _ => none

/-- The text that was written, if it is well-formed. -/
def decode? (w : Written) : Option String := do
  String.fromUTF8? (← utf8? w).toByteArray

/-- The hexadecimal digit of a number below sixteen. -/
def hexDigit (n : Nat) : Char :=
  Char.ofNat (if n < 10 then '0'.toNat + n else 'a'.toNat + (n - 10))

/-- A character inside quotes: quotes, backslashes and control characters are escaped. -/
def escape (c : Char) : List Char :=
  match c with
  | '"' => ['\\', '"']
  | '\\' => ['\\', '\\']
  | '\n' => ['\\', 'n']
  | '\r' => ['\\', 'r']
  | '\t' => ['\\', 't']
  | '\x08' => ['\\', 'b']
  | '\x0c' => ['\\', 'f']
  | c =>
    if c.toNat < 0x20 then
      ['\\', 'u', '0', '0', hexDigit (c.toNat / 16), hexDigit (c.toNat % 16)]
    else [c]

/-- A text between quotes. -/
def quote (s : String) : String := "\"" ++ String.ofList (s.toList.flatMap escape) ++ "\""

end NodeAlerts.Json
