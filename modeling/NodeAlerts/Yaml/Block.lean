import NodeAlerts.Yaml.Folding

/-!
# Block scalars

A block scalar consists of the lines behind its mark that stand deep enough.  Behind `|` every line
end is read, behind `>` line ends are folded unless a line next to them starts with a blank.
-/

namespace NodeAlerts.Yaml.Block

/-- What becomes of the line ends behind the last line. -/
inductive Tail where
  /-- None is read. -/
  | strip
  /-- One is read. -/
  | clip
  /-- All are read. -/
  | keep
  deriving DecidableEq

/-- What stands behind the mark of a block scalar. -/
structure Header where
  /-- What becomes of the line ends behind the last line. -/
  tail : Tail
  /-- How much deeper the lines stand, if it is said. -/
  depth : Option Nat

/-- The meaning of `+` and `-`. -/
def tail? (c : Char) : Option Tail :=
  if c = '+' then some .keep else if c = '-' then some .strip else none

/-- Reads the digit that tells how much deeper the lines stand; it is not zero. -/
def depth? (c : Cursor) : Option (Option Nat × Cursor) :=
  if c.peek.isDigit then
    if c.peek = '0' then none else some (some (c.peek.toNat - '0'.toNat), c.skip 1)
  else some (none, c)

/-- Reads what stands behind the mark of a block scalar. -/
def header? (c : Cursor) : Option (Header × Cursor) := do
  match tail? c.peek with
  | some tail =>
    let (depth, c) ← depth? (c.skip 1)
    return (⟨tail, depth⟩, c)
  | none =>
    let (depth, c) ← depth? c
    match depth, tail? c.peek with
    | some _, some tail => return (⟨tail, depth⟩, c.skip 1)
    | _, _ => return (⟨.clip, depth⟩, c)

/-- Steps over the start of lines up to column `width`, and over empty lines; gives the number of
lines stepped over. -/
def skipIndent (width : Nat) : Nat → Nat → Cursor → Nat × Cursor
  | 0, breaks, c => (breaks, c)
  | steps + 1, breaks, c =>
    let spaces := (c.rest.take (width - c.column)).takeWhile (· = ' ')
    let c := c.skipBlanks spaces.length
    if isBreak c.peek then skipIndent width steps (breaks + 1) c.skipBreak else (breaks, c)

/-- Steps over empty lines and the start of the first line that is not empty; gives their largest
depth and number. -/
def findIndent : Nat → Nat → Nat → Cursor → Nat × Nat × Cursor
  | 0, width, breaks, c => (width, breaks, c)
  | steps + 1, width, breaks, c =>
    let spaces := c.rest.takeWhile (· = ' ')
    let c := c.skipBlanks spaces.length
    let width := max width c.column
    if isBreak c.peek then findIndent steps width (breaks + 1) c.skipBreak
    else (width, breaks, c)

/-- Lines read so far. -/
structure Lines where
  /-- Their text, last character first. -/
  text : List Char
  /-- Whether a line end was read behind the text. -/
  broken : Bool
  /-- The number of further line ends. -/
  more : Nat
  /-- Whether the last line starts with a blank. -/
  blank : Bool

/-- What stands between the lines read so far and a next line, last character first. -/
def Lines.between (ls : Lines) (literal blank : Bool) : List Char :=
  if !literal && ls.broken && !ls.blank && !blank then
    (Fold.ofBreaks true ls.more).reverse
  else Fold.feeds ls.more ++ Fold.feeds (if ls.broken then 1 else 0)

/-- Reads the lines that stand at column `width`. -/
def readLines (literal : Bool) (width : Nat) : Nat → Lines → Cursor → Lines × Cursor
  | 0, ls, c => (ls, c)
  | steps + 1, ls, c =>
    if c.column ≠ width || c.atEnd || (width = 0 && c.atMark '.') then (ls, c)
    else
      let blank := isGap c.peek
      let line := c.rest.takeWhile fun ch => !endsLine ch
      let text := line.reverse ++ ls.between literal blank ++ ls.text
      let c := c.skip line.length
      if c.atEnd then (⟨text, false, 0, blank⟩, c)
      else
        let c := c.skipBreak
        let (more, c) := skipIndent width (steps + 1) 0 c
        readLines literal width steps ⟨text, true, more, blank⟩ c

/-- The text of a block scalar without lines, with or without a line end behind its header. -/
def emptyText (tail : Tail) (broken : Bool) (more : Nat) : List Char :=
  match tail with
  | .strip => []
  | .clip => Fold.feeds (if broken then 1 else 0)
  | .keep => if !broken then [] else Fold.feeds (max more 1)

/-- The line ends that are read behind the last line. -/
def tailText (tail : Tail) (ls : Lines) (unfinished : Bool) : List Char :=
  let first := if ls.broken then 1 else 0
  let last := if unfinished then 1 else 0
  match tail with
  | .strip => []
  | .clip => Fold.feeds (first + last)
  | .keep => Fold.feeds (first + last + ls.more)

/-- Reads a block scalar inside of a block at column `indent`. -/
def read? (indent : Int) (start : Cursor) : Option (String × Cursor) := do
  let literal := start.peek = '|'
  let (header, c) ← header? (start.skip 1)
  let gap ← c.gap?
  if !endsLine gap.cursor.peek then none
  let c := gap.cursor
  let broken := isBreak c.peek
  let c := c.skipBreak
  if c.peek = '\t' then none
  let (width, more, c) :=
    match header.depth with
    | some depth =>
      let width := (if 0 ≤ indent then indent.toNat else 0) + depth
      let (more, c) := skipIndent width c.budget 0 c
      (width, more, c)
    | none =>
      let (found, more, c) := findIndent c.budget 0 0 c
      (max found ((indent + 1).toNat), more, c)
  if c.atEnd then
    return (String.ofList (emptyText header.tail (broken && c.line ≠ start.line) more), c)
  if c.column < width ∧ indent < (c.column : Int) then none
  let (ls, c) := readLines literal width c.budget ⟨[], false, more, false⟩ c
  let tail := tailText header.tail ls (c.atEnd && max width 1 ≤ c.column)
  return (String.ofList (ls.text.reverse ++ tail), c)

end NodeAlerts.Yaml.Block
