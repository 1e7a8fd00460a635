/-!
# Characters of YAML

The classes of characters that tell where a scalar, a name or a line ends.  The end of a text is
read as the character NUL, and nothing behind a NUL is read.
-/

namespace NodeAlerts.Yaml

/-- The character that is read at the end of a text. -/
def endMark : Char := '\x00'

/-- A line feed or carriage return. -/
def isBreak (c : Char) : Bool := c = '\n' || c = '\r'

/-- A space or tab. -/
def isGap (c : Char) : Bool := c = ' ' || c = '\t'

/-- Whether a line ends here. -/
def endsLine (c : Char) : Bool := isBreak c || c = endMark

/-- Whether a run of characters without gaps ends here. -/
def endsRun (c : Char) : Bool := isGap c || endsLine c

/-- The marks of flow collections. -/
def isFlowMark (c : Char) : Bool := [',', '[', ']', '\x7b', '\x7d'].contains c

/-- An ASCII letter or digit, `_` or `-`. -/
def isWordChar (c : Char) : Bool := c.isAlphanum || c = '_' || c = '-'

/-- The characters of the name of an anchor. -/
def isAnchorChar (c : Char) : Bool :=
  !isGap c && !endsLine c && !isFlowMark c && c ≠ '\ufeff'

/-- The characters of the address that a tag may be. -/
def isUriChar (c : Char) : Bool :=
  c.isAlphanum || "-#;/?:@&=+$,_.!~*'()[]%".toList.contains c

/-- The characters of a tag behind its handle. -/
def isTagChar (c : Char) : Bool := isUriChar c && !isFlowMark c && c ≠ '!'

/-- The value of a hexadecimal digit. -/
def hexDigit? (c : Char) : Option Nat :=
  if '0' ≤ c ∧ c ≤ '9' then some (c.toNat - '0'.toNat)
  else if 'a' ≤ c ∧ c ≤ 'f' then some (c.toNat - 'a'.toNat + 10)
  else if 'A' ≤ c ∧ c ≤ 'F' then some (c.toNat - 'A'.toNat + 10)
  else none

/-- The number that digits of a base up to sixteen stand for. -/
def readDigits? (base : Nat) (cs : List Char) : Option Nat := do
  let digits ← cs.mapM hexDigit?
  if digits.isEmpty || digits.any (base ≤ ·) then none
  else some (digits.foldl (fun n d => base * n + d) 0)

/-- The character with a code, if there is one. -/
def charOfCode? (n : Nat) : Option Char := if n.isValidChar then some (Char.ofNat n) else none

end NodeAlerts.Yaml
