import NodeAlerts.Yaml.Block
import NodeAlerts.Yaml.Plain
import NodeAlerts.Yaml.Property
import NodeAlerts.Yaml.Quoted

/-!
# Layout

Lists and mappings start where a dash or a key stands deeper than what is around, and end before the
first line that does not.  Whether a scalar is a key shows only at the colon behind it, which stands
on its line and at most 1024 characters behind its start; the tokens that make it a key are put
before it then.

* `Layout.next?` reads one token, and with it what its indentation starts or ends;
* `Token.ofText?` reads all tokens of a text.
-/

namespace NodeAlerts.Yaml

/-- Where something stands that a colon would make a key. -/
structure KeyMark where
  /-- The number of tokens before it. -/
  position : Nat
  /-- Where it starts. -/
  cursor : Cursor
  /-- Whether it has to become a key, because it stands where the keys of a mapping stand. -/
  required : Bool

/-- An indentation. -/
structure Indent where
  /-- The column of what is around. -/
  outer : Int
  /-- Whether it belongs to a list or mapping, and not only makes room behind a key or dash. -/
  isBlock : Bool

/-- A text read up to some point. -/
structure Layout where
  /-- The rest of the text. -/
  cursor : Cursor
  /-- The tokens so far. -/
  tokens : Array Token := #[]
  /-- Whether a key may start here. -/
  keyAllowed : Bool := true
  /-- What may become a key. -/
  key : Option KeyMark := none
  /-- What may become a key around each open flow collection, innermost first. -/
  outerKeys : List (Option KeyMark) := []
  /-- The column of the innermost indentation. -/
  indent : Int := -1
  /-- The indentations, innermost first. -/
  indents : List Indent := []
  /-- Where a colon needs no blank behind it, because the key before it needs no end. -/
  tightColon : Nat := 0
  /-- Whether a flow mapping was opened, so that pairs in flow lists show as keys. -/
  inMapping : Bool := false
  /-- Whether a pair in a flow list was opened as a mapping of its own. -/
  inPair : Bool := false
  /-- The column of the last token, if that is an anchor or a tag. -/
  propertyColumn : Option Nat := none

namespace Layout

/-- Whether a flow collection is open. -/
def inFlow (s : Layout) : Bool := !s.outerKeys.isEmpty

/-- The most flow collections inside of one another. -/
def maxDepth : Nat := 255

/-- Adds a token. -/
def push (s : Layout) (t : Token) : Layout :=
  { s with tokens := s.tokens.push t, propertyColumn := none }

/-- Adds a token before the one at a position. -/
def insert (s : Layout) (position : Nat) (t : Token) : Layout :=
  { s with tokens := s.tokens.insertIdxIfInBounds position t }

/-- Goes on elsewhere. -/
def moveTo (s : Layout) (c : Cursor) : Layout := { s with cursor := c }

/-! ## Indentation -/

/-- Ends the lists and mappings that stand deeper than a column. -/
def unindent (column : Int) (s : Layout) : Layout :=
  if s.inFlow then s else close s.indents s
where
  /-- Ends the innermost indentations. -/
  close : List Indent → Layout → Layout
    | [], s => s
    | i :: rest, s =>
      if column < s.indent then
        let s := { s with indent := i.outer, indents := rest }
        close rest (if i.isBlock then s.push .blockEnd else s)
      else s

/-- Whether the innermost indentation belongs to a list or mapping. -/
def inBlock (s : Layout) : Bool :=
  match s.indents with
  | [] => false
  | i :: _ => i.isBlock

/-- Gives up the indentations that only make room. -/
def tighten (s : Layout) : Layout := drop s.indents s
where
  /-- Gives up the innermost indentations. -/
  drop : List Indent → Layout → Layout
    | [], s => s
    | i :: rest, s =>
      if i.isBlock then s else drop rest { s with indent := i.outer, indents := rest }

/-- Makes room: what follows a key or dash stands at least one column deeper. -/
def makeRoom (s : Layout) : Layout :=
  if !s.inFlow && s.inBlock then
    { s with indent := s.indent + 1, indents := ⟨s.indent, false⟩ :: s.indents }
  else s

/-- Starts a list or mapping at a column unless it goes on there; its token is put before the one at
`position`, or behind all. -/
def indentTo (s : Layout) (column : Nat) (position : Option Nat) (t : Token) : Layout :=
  if s.inFlow then s
  else
    let s :=
      match s.indents with
      | i :: rest =>
        if s.indent ≤ (column : Int) ∧ !i.isBlock then
          { s with indent := i.outer, indents := rest }
        else s
      | [] => s
    if s.indent < (column : Int) then
      let s := { s with indent := column, indents := ⟨s.indent, true⟩ :: s.indents }
      match position with
      | some n => s.insert n t
      | none => s.push t
    else s

/-! ## Keys -/

/-- Notes that a key may start here, if that is allowed. -/
def markKey (s : Layout) : Layout :=
  if s.keyAllowed then
    let required := !s.inFlow && s.indent = s.cursor.column && s.inBlock
    { s with key := some ⟨s.tokens.size, s.cursor, required⟩ }
  else s

/-- Forgets what may become a key, unless it has to become one. -/
def dropKey? (s : Layout) : Option Layout :=
  match s.key with
  | some k => if k.required then none else some { s with key := none }
  | none => some s

/-- The most characters between the start of a key and its colon. -/
def maxKeyLength : Nat := 1024

/-- Forgets what can no longer become a key. -/
def expireKey? (s : Layout) : Option Layout :=
  match s.key with
  | some k =>
    let expired := k.cursor.line < s.cursor.line || k.cursor.index + maxKeyLength < s.cursor.index
    if !s.inFlow && expired then s.dropKey? else some s
  | none => some s

/-- Allows or forbids keys. -/
def allowKey (s : Layout) (allowed : Bool) : Layout := { s with keyAllowed := allowed }

/-! ## Blanks -/

/-- Steps over blanks, comments and line ends.  A line end outside of flow collections allows
keys. -/
def skipSpace? (s : Layout) : Option Layout := do
  let (c, crossed) ← s.cursor.toContent? (!s.indents.isEmpty) s.indent false s.cursor.budget
  return { s with cursor := c, keyAllowed := s.keyAllowed || (crossed && !s.inFlow) }

/-- Steps over the blanks and the comment behind a mark. -/
def skipGap? (s : Layout) : Option Layout := do
  let gap ← s.cursor.gap?
  return s.moveTo gap.cursor

/-! ## Flow collections -/

/-- Ends the mapping that a pair in a flow list is. -/
def endPair (s : Layout) : Layout :=
  if s.inPair then { s.push .flowMappingEnd with inPair := false, inMapping := false } else s

/-- Opens a flow collection. -/
def openFlow? (s : Layout) (t : Token) : Option Layout := do
  let s := s.markKey.makeRoom
  if maxDepth ≤ s.outerKeys.length then none
  let s ← { s with
    cursor := s.cursor.skip 1
    outerKeys := s.key :: s.outerKeys
    key := none
    keyAllowed := true
    inMapping := s.inMapping || t == Token.flowMappingStart }.skipGap?
  return s.push t

/-- Closes a flow collection.  A colon right behind it makes it a key. -/
def closeFlow? (s : Layout) (t : Token) : Option Layout := do
  let s ← s.dropKey?
  let s :=
    match s.outerKeys with
    | [] => s
    | k :: rest => { s with key := k, outerKeys := rest }
  let s := (s.allowKey false).endPair
  let s ← (s.moveTo (s.cursor.skip 1)).skipGap?
  let s := if s.inFlow then { s with tightColon := s.cursor.index } else s
  return s.push t

/-- Reads the comma between items of a flow collection. -/
def flowEntry? (s : Layout) : Option Layout := do
  let s ← s.dropKey?
  let s := (s.allowKey true).endPair
  let s ← (s.moveTo (s.cursor.skip 1)).skipGap?
  return s.push .flowEntry

/-! ## Entries, keys and values -/

/-- Reads the dash before an item of a list. -/
def entry? (s : Layout) : Option Layout := do
  if s.inFlow || !s.keyAllowed then none
  let start := s.cursor
  if start.column = 0 ∧ s.propertyColumn = some 0 ∧ -1 < s.indent then none
  let s := (s.moveTo (start.skip 1)).indentTo start.column none .sequenceStart
  let gap ← s.cursor.gap?
  let c := gap.cursor
  if gap.tabs ∧ c.peek = '-' ∧ endsRun (c.peekAt 1) then none
  let s := s.moveTo c
  let s := if isBreak c.peek || isFlowMark c.peek then s.makeRoom else s
  let s ← s.dropKey?
  return (s.allowKey true).push .entry

/-- Steps over spaces, comments and line ends behind the mark of a key, which a space or line end
has to follow. -/
def afterKey? (spaced : Bool) : Nat → Cursor → Option Cursor
  | 0, _ => none
  | steps + 1, c =>
    if c.peek = ' ' then afterKey? true steps (c.skipBlanks 1)
    else if isBreak c.peek then afterKey? true steps c.skipBreak
    else if c.peek = '#' then afterKey? spaced steps c.skipComment
    else if spaced && c.peek ≠ '\t' then some c
    else none

/-- Reads the mark of a key that is not shown by its colon. -/
def explicitKey? (s : Layout) : Option Layout := do
  let start := s.cursor
  if !s.inFlow && !s.keyAllowed then none
  let s :=
    if s.inFlow then { s with inMapping := true }
    else s.indentTo start.column none .mappingStart
  let s ← s.dropKey?
  let c ← afterKey? false start.budget (start.skip 1)
  return ((s.moveTo c).allowKey (!s.inFlow)).push .key

/-- Reads the colon before a value.  A tab behind it does not do for a space before a word. -/
def value? (s : Layout) : Option Layout := do
  let start := s.cursor
  let c := start.skip 1
  let c ←
    if c.peek = '\t' then do
      let gap ← c.gap?
      if !gap.spaces && isWordChar gap.cursor.peek then none else some gap.cursor
    else some c
  let pair := s.inFlow && !s.inMapping
  let s := { s with cursor := c, inPair := pair }
  match s.key with
  | some k =>
    if pair && k.cursor.line < start.line then none
    let s := s.insert k.position .key
    let s := if pair then s.insert k.position .flowMappingStart else s
    let s := (s.indentTo k.cursor.column (some k.position) .mappingStart).makeRoom
    return ({ s with key := none }.allowKey false).push .value
  | none =>
    let s := if pair then s.push .flowMappingStart else s
    if !s.inFlow && !s.keyAllowed then none
    let s := (s.indentTo start.column none .mappingStart).makeRoom
    return (s.allowKey (!s.inFlow)).push .value

/-! ## Scalars and properties -/

/-- Reads a scalar without quotes. -/
def plain? (s : Layout) : Option Layout := do
  let s := s.markKey.tighten
  let (text, c) ← Plain.read? s.inFlow (s.indent + 1) s.cursor
  return ((s.moveTo c).allowKey c.fresh).push (.scalar true text)

/-- Reads a scalar in quotes.  A colon right behind it makes it a key. -/
def quoted? (s : Layout) : Option Layout := do
  let s := s.markKey.allowKey false
  let (text, c) ← Quoted.read? s.inFlow s.indent s.cursor
  let s ← (s.moveTo c).skipSpace?
  return { s with tightColon := s.cursor.index }.push (.scalar false text)

/-- Reads a block scalar. -/
def block? (s : Layout) : Option Layout := do
  let s := (s.markKey.allowKey true).tighten
  let (text, c) ← Block.read? s.indent s.cursor
  return (s.moveTo c).push (.scalar false text)

/-- Reads a tag, an anchor or an alias. -/
def property? (s : Layout) : Option Layout := do
  let start := s.cursor
  let s := s.markKey.allowKey false
  match start.peek with
  | '!' =>
    let (t, c) ← Property.tag? s.inFlow start
    return { (s.moveTo c).push t with propertyColumn := some start.column }
  | '&' =>
    let (name, c) ← Property.name? start
    return { (s.moveTo c).push (.anchor name) with propertyColumn := some start.column }
  | _ =>
    let (name, c) ← Property.name? start
    return (s.moveTo c).push (.alias name)

/-! ## Documents -/

/-- Ends everything that is open by indentation. -/
def endBlocks? (s : Layout) : Option Layout := do
  let s ← (s.unindent (-1)).dropKey?
  return s.allowKey false

/-- Reads a directive. -/
def directive? (s : Layout) : Option Layout := do
  let s ← s.endBlocks?
  let (t, c) ← Property.directive? s.cursor
  return (s.moveTo c).push t

/-- Reads the mark before a document. -/
def documentStart? (s : Layout) : Option Layout := do
  let s ← s.endBlocks?
  return (s.moveTo (s.cursor.skip 3)).push .documentStart

/-- Reads the mark behind a document, behind which its line has to end. -/
def documentEnd? (s : Layout) : Option Layout := do
  let s ← s.endBlocks?
  let s ← (s.moveTo (s.cursor.skip 3)).skipGap?
  if endsLine s.cursor.peek then some (s.push .documentEnd) else none

/-! ## Tokens -/

/-- Reads one token. -/
def next? (s : Layout) : Option Layout :=
  let c := s.cursor
  let follow := c.peekAt 1
  if c.column = 0 ∧ c.peek = '%' then s.directive?
  else if c.atMark '-' then s.documentStart?
  else if c.atMark '.' then s.documentEnd?
  else if (c.column : Int) < s.indent then none
  else
    match c.peek with
    | '[' => s.openFlow? .flowSequenceStart
    | '\x7b' => s.openFlow? .flowMappingStart
    | ']' => s.closeFlow? .flowSequenceEnd
    | '\x7d' => s.closeFlow? .flowMappingEnd
    | ',' => s.flowEntry?
    | '*' => s.property?
    | '&' => s.property?
    | '!' => s.property?
    | '\'' => s.quoted?
    | '"' => s.quoted?
    | '-' => if endsRun follow then s.entry? else s.plain?
    | '?' => if endsRun follow then s.explicitKey? else s.plain?
    | ':' =>
      if endsRun follow || (s.inFlow && (isFlowMark follow || c.index = s.tightColon)) then s.value?
      else s.plain?
    | '|' => if s.inFlow then s.plain? else s.block?
    | '>' => if s.inFlow then s.plain? else s.block?
    | '%' => none
    | '@' => none
    | '\x60' => none
    | _ => s.plain?

/-- The tokens at the end of a text; what has to become a key still does not. -/
def finish? (s : Layout) : Option (List Token) := do
  let s ← s.dropKey?
  return (s.unindent (-1)).tokens.toList

/-- Reads the tokens of the rest of a text. -/
def readAll? : Nat → Layout → Option (List Token)
  | 0, _ => none
  | steps + 1, s => do
    let s ← s.skipSpace?
    let s ← s.expireKey?
    let s := s.unindent s.cursor.column
    if s.cursor.atEnd then s.finish? else readAll? steps (← s.next?)

end Layout

/-- The tokens of a text. -/
def Token.ofText? (text : String) : Option (List Token) :=
  let c := Cursor.ofText text
  Layout.readAll? c.budget { cursor := c }

end NodeAlerts.Yaml
