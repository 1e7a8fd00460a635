import NodeAlerts.Yaml.Cursor

/-!
# Line folding

Scalars may go on behind the end of a line.  A single line end is read as a space, and of several
the first is not read.  Blanks around line ends are not read.
-/

namespace NodeAlerts.Yaml

/-- What was read between two runs of characters of a scalar. -/
structure Fold where
  /-- The blanks, last first. -/
  blanks : List Char := []
  /-- Whether a line ended. -/
  broken : Bool := false
  /-- The number of further line ends. -/
  more : Nat := 0

namespace Fold

/-- Line feeds. -/
def feeds (n : Nat) : List Char := List.replicate n '\n'

/-- What line ends are read as. -/
def ofBreaks (broken : Bool) (more : Nat) : List Char :=
  if broken && more = 0 then [' '] else feeds more

/-- What a fold is read as, last first, when `lines` tells whether lines ended. -/
def read (f : Fold) (lines : Bool) : List Char :=
  if lines then (ofBreaks f.broken f.more).reverse else f.blanks

end Fold

end NodeAlerts.Yaml
