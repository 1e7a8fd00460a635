import NodeAlerts.Yaml.Folding

/-!
# Scalars in quotes

In single quotes a quote is written twice; in double quotes a backslash starts an escape, and at the
end of a line hides it.  Behind the closing quote only what cannot belong to a scalar may stand.
-/

namespace NodeAlerts.Yaml.Quoted

/-- The characters that escapes of one letter stand for. -/
def escapes : List (Char × Char) :=
  [('0', '\x00'), ('a', '\x07'), ('b', '\x08'), ('t', '\t'), ('\t', '\t'), ('n', '\n'),
    ('v', '\x0b'), ('f', '\x0c'), ('r', '\r'), ('e', '\x1b'), (' ', ' '), ('"', '"'), ('/', '/'),
    ('\\', '\\'), ('N', '\u0085'), ('_', '\u00a0'), ('L', '\u2028'), ('P', '\u2029')]

/-- The number of hexadecimal digits behind the letter of an escape. -/
def codeLength? (c : Char) : Option Nat := [('x', 2), ('u', 4), ('U', 8)].lookup c

/-- Reads an escape behind its backslash. -/
def escape? (c : Cursor) : Option (Char × Cursor) :=
  let letter := c.peekAt 1
  match codeLength? letter with
  | some n => do
    let digits := (c.rest.drop 2).take n
    let code ← readDigits? 16 digits
    if digits.length = n then some (← charOfCode? code, c.skip (n + 2)) else none
  | none => (escapes.lookup letter).map fun ch => (ch, c.skip 2)

/-- Reads characters up to a blank, a line end or the closing quote; tells whether a line end was
hidden behind them. -/
def run? (single : Bool) : Nat → List Char → Cursor → Option (List Char × Bool × Cursor)
  | 0, _, _ => none
  | steps + 1, text, c =>
    if endsRun c.peek then some (text, false, c)
    else if single && c.peek = '\'' then
      if c.peekAt 1 = '\'' then run? single steps ('\'' :: text) (c.skip 2)
      else some (text, false, c)
    else if !single && c.peek = '"' then some (text, false, c)
    else if !single && c.peek = '\\' then
      if isBreak (c.peekAt 1) then some (text, true, (c.skip 1).skipBreak)
      else do
        let (ch, c) ← escape? c
        run? single steps (ch :: text) c
    else run? single steps (c.peek :: text) (c.skip 1)

/-- Steps over blanks and line ends, `lines` telling whether a line ended before.  Tabs to the left
of column `indent` are refused. -/
def skipFold? (indent : Int) : Nat → Bool → Fold → Cursor → Option (Fold × Bool × Cursor)
  | 0, _, _, _ => none
  | steps + 1, lines, f, c =>
    if isGap c.peek then
      if !lines then
        skipFold? indent steps lines { f with blanks := c.peek :: f.blanks } (c.skipBlanks 1)
      else if c.peek = '\t' ∧ (c.column : Int) < indent then none
      else skipFold? indent steps lines f (c.skipBlanks 1)
    else if isBreak c.peek then
      if lines then skipFold? indent steps true { f with more := f.more + 1 } c.skipBreak
      else skipFold? indent steps true { f with blanks := [], broken := true } c.skipBreak
    else some (f, lines, c)

/-- Reads a scalar up to its closing quote behind `text`, which stands last character first. -/
def readFrom? (single : Bool) (indent : Int) : Nat → List Char → Cursor →
    Option (List Char × Cursor)
  | 0, _, _ => none
  | steps + 1, text, c =>
    if c.atDocumentMark || c.atEnd || (c.column : Int) < indent then none
    else do
      let (text, hidden, c) ← run? single (steps + 1) text c
      if c.peek = (if single then '\'' else '"') then some (text, c)
      else
        let (f, lines, c) ← skipFold? indent (steps + 1) hidden {} c
        readFrom? single indent steps (f.read lines ++ text) c

/-- Whether a character may stand behind a scalar in quotes that started on this line, or not. -/
def mayFollow (flow sameLine : Bool) (c : Char) : Bool :=
  endsLine c || (c = ':' && (flow || sameLine)) || (flow && [',', '\x7d', ']'].contains c)

/-- Reads a scalar in quotes whose further lines have to stand at column `indent` or behind. -/
def read? (flow : Bool) (indent : Int) (c : Cursor) : Option (String × Cursor) := do
  let start := c.skip 1
  let (text, last) ← readFrom? (c.peek = '\'') indent start.budget [] start
  let gap ← (last.skip 1).gap?
  if mayFollow flow (c.line = gap.cursor.line) gap.cursor.peek then
    some (String.ofList text.reverse, gap.cursor)
  else none

end NodeAlerts.Yaml.Quoted
