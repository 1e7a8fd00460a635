import NodeAlerts.Yaml.Character

/-!
# Reading positions

A `Cursor` is the rest of a text and the place where it starts: line, column, number of characters
before it, and whether only blanks stand before it on its line.  Lines end with a line feed, a
carriage return, or both.
-/

namespace NodeAlerts.Yaml

/-- The rest of a text and where it starts. -/
structure Cursor where
  /-- What is not yet read. -/
  rest : List Char
  /-- The number of lines before. -/
  line : Nat := 0
  /-- The number of characters before on the line. -/
  column : Nat := 0
  /-- The number of characters before in the whole text. -/
  index : Nat := 0
  /-- Whether only blanks were read on the line. -/
  fresh : Bool := true

namespace Cursor

/-- The start of a text; nothing behind a NUL is read. -/
def ofText (text : String) : Cursor where
  rest := text.toList.takeWhile (· ≠ endMark)

/-- The next character. -/
def peek (c : Cursor) : Char := c.rest.headD endMark

/-- The character behind the next `n`. -/
def peekAt (c : Cursor) (n : Nat) : Char := (c.rest.drop n).headD endMark

/-- Whether everything is read. -/
def atEnd (c : Cursor) : Bool := c.rest.isEmpty

/-- Steps over `n` blanks. -/
def skipBlanks (c : Cursor) (n : Nat) : Cursor :=
  { c with rest := c.rest.drop n, column := c.column + n, index := c.index + n }

/-- Steps over `n` characters of a line. -/
def skip (c : Cursor) (n : Nat) : Cursor :=
  if n = 0 then c else { c.skipBlanks n with fresh := false }

/-- Steps over the longest run of characters with a property; gives the run. -/
def takeRun (c : Cursor) (p : Char → Bool) : List Char × Cursor :=
  let run := c.rest.takeWhile p
  (run, c.skip run.length)

/-- Steps over the end of a line. -/
def skipBreak (c : Cursor) : Cursor :=
  let next (rest : List Char) (n : Nat) : Cursor := ⟨rest, c.line + 1, 0, c.index + n, true⟩
  match c.rest with
  | '\r' :: '\n' :: rest => next rest 2
  | '\r' :: rest => next rest 1
  | '\n' :: rest => next rest 1
  | _ => c

/-- Steps over a comment, up to the end of its line. -/
def skipComment (c : Cursor) : Cursor := (c.takeRun fun ch => !endsLine ch).2

/-- Whether the line is the mark of three characters that separates documents. -/
def atMark (c : Cursor) (mark : Char) : Bool :=
  c.column = 0 && c.rest.take 3 = [mark, mark, mark] && endsRun (c.peekAt 3)

/-- Whether a mark starts or ends a document here. -/
def atDocumentMark (c : Cursor) : Bool := c.atMark '-' || c.atMark '.'

/-- The blanks behind something on a line, and the comment behind them. -/
structure Gap where
  /-- Where they end. -/
  cursor : Cursor
  /-- Whether there are tabs. -/
  tabs : Bool
  /-- Whether there are spaces. -/
  spaces : Bool

/-- Steps over blanks and a comment, which needs a blank before it. -/
def gap? (c : Cursor) : Option Gap :=
  let run := c.rest.takeWhile isGap
  let c := c.skipBlanks run.length
  let tabs := run.contains '\t'
  let spaces := run.contains ' '
  if c.peek = '#' then
    if run.isEmpty then none else some ⟨c.skipComment, tabs, spaces⟩
  else some ⟨c, tabs, spaces⟩

/-- Steps over blanks, comments and line ends; tells whether a line ended.  In a block, nothing but
a comment may stand behind a tab to the left of column `indent`. -/
def toContent? (inBlock : Bool) (indent : Int) (crossed : Bool) :
    Nat → Cursor → Option (Cursor × Bool)
  | 0, _ => none
  | steps + 1, c =>
    if c.peek = '\t' ∧ inBlock ∧ c.fresh ∧ (c.column : Int) < indent then do
      let gap ← c.gap?
      if endsLine gap.cursor.peek then toContent? inBlock indent crossed steps gap.cursor
      else none
    else if isGap c.peek then toContent? inBlock indent crossed steps (c.skipBlanks 1)
    else if isBreak c.peek then toContent? inBlock indent true steps c.skipBreak
    else if c.peek = '#' then toContent? inBlock indent crossed steps c.skipComment
    else some (c, crossed)

/-- Enough steps for reading all that is left. -/
def budget (c : Cursor) : Nat := c.rest.length + 1

end Cursor

end NodeAlerts.Yaml
