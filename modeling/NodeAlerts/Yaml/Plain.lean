import NodeAlerts.Yaml.Folding

/-!
# Scalars without quotes

A plain scalar ends before a comment, before a colon that ends a key, inside of flow collections
before their marks, and outside of them before a line that does not stand deep enough.
-/

namespace NodeAlerts.Yaml.Plain

/-- Whether a plain scalar goes on with a character, given what is behind it. -/
def goesOn (flow : Bool) (c : Char) (rest : List Char) : Bool :=
  if c = ':' then
    let follow := rest.headD endMark
    !endsRun follow && !(flow && isFlowMark follow)
  else !(flow && isFlowMark c)

/-- The characters up to a blank or the end of the scalar. -/
def run (flow : Bool) : List Char → List Char
  | [] => []
  | c :: cs => if endsRun c || !goesOn flow c cs then [] else c :: run flow cs

/-- Steps over blanks and line ends behind a run of characters.  A line with a tab to the left of
column `indent` has to be empty. -/
def skipFold? (indent : Int) : Nat → Fold → Cursor → Option (Fold × Cursor)
  | 0, _, _ => none
  | steps + 1, f, c =>
    if isGap c.peek then
      if !c.fresh then
        skipFold? indent steps { f with blanks := c.peek :: f.blanks } (c.skipBlanks 1)
      else if c.peek = '\t' ∧ (c.column : Int) < indent then do
        let gap ← c.gap?
        if endsLine gap.cursor.peek then skipFold? indent steps f gap.cursor else none
      else skipFold? indent steps f (c.skipBlanks 1)
    else if isBreak c.peek then
      if c.fresh then skipFold? indent steps { f with more := f.more + 1 } c.skipBreak
      else skipFold? indent steps { f with blanks := [], broken := true } c.skipBreak
    else some (f, c)

/-- Reads a plain scalar behind `text`, which stands last character first. -/
def readFrom? (flow : Bool) (indent : Int) : Nat → List Char → Fold → Cursor →
    Option (List Char × Cursor)
  | 0, _, _, _ => none
  | steps + 1, text, f, c =>
    if c.atDocumentMark || c.peek = '#' then some (text, c)
    else if flow && c.peek = '-' && isFlowMark (c.peekAt 1) then none
    else
      let chars := run flow c.rest
      let (text, f) :=
        if chars.isEmpty then (text, f)
        else (chars.reverse ++ f.read c.fresh ++ text, ({} : Fold))
      let c := c.skip chars.length
      if isGap c.peek || isBreak c.peek then do
        let (f, c) ← skipFold? indent (steps + 1) f c
        if !flow && (c.column : Int) < indent then some (text, c)
        else readFrom? flow indent steps text f c
      else some (text, c)

/-- Reads a plain scalar whose further lines have to stand at column `indent` or behind. -/
def read? (flow : Bool) (indent : Int) (c : Cursor) : Option (String × Cursor) :=
  if flow && (c.column : Int) < indent then none
  else (readFrom? flow indent c.budget [] {} c).map fun r => (String.ofList r.1.reverse, r.2)

end NodeAlerts.Yaml.Plain
