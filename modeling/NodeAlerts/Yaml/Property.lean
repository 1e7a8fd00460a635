import NodeAlerts.Yaml.Cursor
import NodeAlerts.Yaml.Token

/-!
# Names, types and directives

An anchor names a node and an alias stands for a named node.  A tag gives the type of a node: a
handle, which a directive may replace, and a suffix.  Directives stand on lines of their own before
a document.
-/

namespace NodeAlerts.Yaml.Property

/-! ## Anchors -/

/-- Reads the name behind the mark of an anchor or alias. -/
def name? (c : Cursor) : Option (String × Cursor) :=
  match (c.skip 1).takeRun isAnchorChar with
  | ([], _) => none
  | (name, c) => some (String.ofList name, c)

/-! ## Tags -/

/-- The number of bytes of the escaped character that starts with a byte. -/
def escapeWidth? (byte : Nat) : Option Nat :=
  if byte < 0x80 then some 1
  else if 0xc0 ≤ byte ∧ byte < 0xe0 then some 2
  else if 0xe0 ≤ byte ∧ byte < 0xf0 then some 3
  else if 0xf0 ≤ byte ∧ byte < 0xf8 then some 4
  else none

/-- Reads an escaped byte: `%` and two hexadecimal digits. -/
def escapedByte? (c : Cursor) : Option (Nat × Cursor) := do
  let high ← hexDigit? (c.peekAt 1)
  let low ← hexDigit? (c.peekAt 2)
  if c.peek = '%' then some (16 * high + low, c.skip 3) else none

/-- Reads `n` further bytes of an escaped character. -/
def escapedTail? : Nat → Nat → Cursor → Option (Nat × Cursor)
  | 0, code, c => some (code, c)
  | n + 1, code, c => do
    let (byte, c) ← escapedByte? c
    if 0x80 ≤ byte ∧ byte < 0xc0 then escapedTail? n (256 * code + byte) c else none

/-- Reads an escaped character. -/
def escaped? (c : Cursor) : Option (Char × Cursor) := do
  let (byte, c) ← escapedByte? c
  let width ← escapeWidth? byte
  let (code, c) ← escapedTail? (width - 1) byte c
  return (← charOfCode? code, c)

/-- Reads characters with a property, some of them escaped, behind `text`, which stands last
character first. -/
def uri? (p : Char → Bool) : Nat → List Char → Cursor → Option (List Char × Cursor)
  | 0, _, _ => none
  | steps + 1, text, c =>
    if !p c.peek then some (text.reverse, c)
    else if c.peek = '%' then do
      let (ch, c) ← escaped? c
      uri? p steps (ch :: text) c
    else uri? p steps (c.peek :: text) (c.skip 1)

/-- Reads the handle of a tag: a word between exclamation marks, or what looks like its start. -/
def handle? (c : Cursor) : Option (List Char × Cursor) :=
  if c.peek = '!' then
    let (word, c) := (c.skip 1).takeRun isWordChar
    if c.peek = '!' then some ('!' :: word ++ ['!'], c.skip 1) else some ('!' :: word, c)
  else none

/-- Whether a handle has an exclamation mark at both ends. -/
def isClosed (handle : List Char) : Bool := 2 ≤ handle.length && handle.getLast? = some '!'

/-- Reads a tag that is written out between `!<` and `>`. -/
def verbatimTag? (c : Cursor) : Option (Token × Cursor) := do
  let (suffix, c) ← uri? isUriChar c.budget [] (c.skip 2)
  if c.peek = '>' then some (.tag "" (String.ofList suffix), c.skip 1) else none

/-- Reads a tag that is written with a handle; a lone exclamation mark is its own suffix. -/
def shortTag? (c : Cursor) : Option (Token × Cursor) := do
  let (handle, c) ← handle? c
  if isClosed handle then
    let (suffix, c) ← uri? isTagChar c.budget [] c
    return (.tag (String.ofList handle) (String.ofList suffix), c)
  else
    let (suffix, c) ← uri? isTagChar c.budget (handle.drop 1).reverse c
    if suffix.isEmpty then return (.tag "" "!", c)
    else return (.tag "!" (String.ofList suffix), c)

/-- Reads a tag. -/
def tag? (flow : Bool) (c : Cursor) : Option (Token × Cursor) := do
  let (token, c) ← if c.peekAt 1 = '<' then verbatimTag? c else shortTag? c
  if endsRun c.peek || (flow && isFlowMark c.peek) then some (token, c) else none

/-! ## Directives -/

/-- Steps over blanks. -/
def skipGap (c : Cursor) : Cursor := c.skipBlanks (c.rest.takeWhile isGap).length

/-- Reads a number of at most nine digits. -/
def versionNumber? (c : Cursor) : Option Cursor :=
  let (digits, c) := c.takeRun Char.isDigit
  if digits.isEmpty || 9 < digits.length then none else some c

/-- Reads the version behind its directive. -/
def version? (c : Cursor) : Option (Token × Cursor) := do
  let c ← versionNumber? (skipGap c)
  if c.peek = '.' then some (.versionDirective, ← versionNumber? (c.skip 1)) else none

/-- Reads what a handle stands for: the start of a tag. -/
def tagStart? (c : Cursor) : Option (List Char × Cursor) :=
  if c.peek = '!' then uri? isUriChar c.budget ['!'] (c.skip 1)
  else if isTagChar c.peek then uri? isUriChar c.budget [] c
  else none

/-- Reads a handle and what it stands for. -/
def tagDirective? (c : Cursor) : Option (Token × Cursor) := do
  let (handle, c) ← handle? (skipGap c)
  if handle ≠ ['!'] ∧ !isClosed handle then none
  let (start, c) ← tagStart? (skipGap c)
  if endsRun c.peek then
    some (.tagDirective (String.ofList handle) (String.ofList start), c)
  else none

/-- Reads a directive and its line; an unknown one has no effect. -/
def directive? (c : Cursor) : Option (Token × Cursor) := do
  let (name, c) := (c.skip 1).takeRun isWordChar
  if name.isEmpty || !endsRun c.peek then none
  let (token, c) ←
    if name = "YAML".toList then version? c
    else if name = "TAG".toList then tagDirective? c
    else some (.tagDirective "" "", c.skipComment)
  let gap ← c.gap?
  if endsLine gap.cursor.peek then some (token, gap.cursor.skipBreak) else none

end NodeAlerts.Yaml.Property
