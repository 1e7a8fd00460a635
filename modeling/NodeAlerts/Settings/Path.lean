import NodeAlerts.Settings.Entry

/-!
# Paths of settings

The name of a setting may be a path: names of groups, separated by points, and places in lists, in
brackets.  Names are read in lower case.  `Entry.place` lays a setting over the one at a path; what
stands in the way of the path is replaced by groups and lists, and a list grows up to the place that
is named.
-/

namespace NodeAlerts

/-- Why there are no settings. -/
inductive SettingsError where
  /-- A source is missing or malformed, or a setting is missing or of the wrong kind. -/
  | unreadable
  /-- No list of this length has or can get an item at this place. -/
  | placeOutside (place : Int) (length : Nat)
  deriving Repr, DecidableEq

namespace Entry

open NodeAlerts.Double NodeAlerts.Text

/-- A step of a path. -/
inductive Step where
  /-- To the member of a group. -/
  | member (name : String)
  /-- To the item of a list; a place below zero counts from the end. -/
  | item (place : Int)
  deriving Repr, DecidableEq

namespace Step

/-- The characters of names in paths. -/
def isNameChar (c : Char) : Bool := c.isAlphanum || c = ' ' || c = '_' || c = '-'

/-- A space or tab. -/
def isGap (c : Char) : Bool := c = ' ' || c = '\t'

/-- Reads a name. -/
def name? (cs : List Char) : Option (Step × List Char) :=
  let name := cs.takeWhile isNameChar
  if name.isEmpty then none else some (.member (String.ofList name), cs.dropWhile isNameChar)

/-- Reads a place in a list, up to the closing bracket. -/
def place? (cs : List Char) : Option (Step × List Char) := do
  let cs := cs.dropWhile isGap
  let sign := cs.takeWhile (· = '-')
  let digits := (cs.dropWhile (· = '-')).takeWhile Char.isDigit
  let rest := ((cs.dropWhile (· = '-')).dropWhile Char.isDigit).dropWhile isGap
  let place ← readQuantity? (String.ofList (sign ++ digits))
  match rest with
  | ']' :: rest => some (.item place, rest)
  | _ => none

/-- Reads steps up to the end of a text. -/
def readAll? : Nat → List Char → Option (List Step)
  | _, [] => some []
  | 0, _ => none
  | steps + 1, c :: cs => do
    let (step, rest) ← if c = '.' then name? cs else if c = '[' then place? cs else none
    return step :: (← readAll? steps rest)

end Step

/-- The path that a name in lower case is; one that is no path is a single step. -/
def path (name : String) : List Step :=
  let name := lowerName name
  let steps := do
    let (first, rest) ← Step.name? name.toList
    return first :: (← Step.readAll? rest.length rest)
  steps.getD [.member name]

/-- More items than a list can have. -/
def tooManyItems : Nat := 268435456

/-- The place in a list of some length that a number means, which may lie behind its end but not
before its start. -/
def placeIn (place : Int) (length : Nat) : Except SettingsError Nat :=
  if 0 ≤ place ∧ place < tooManyItems then .ok place.toNat
  else if place < 0 ∧ place.natAbs ≤ length then .ok (length - place.natAbs)
  else .error (.placeOutside place length)

/-- Lays a setting over the one at a path. -/
def place (new : Entry) : List Step → Entry → Except SettingsError Entry
  | [], _ => .ok new
  | [.member name], e => .ok (.group (overlayAll e.members [(name, new)]))
  | .member name :: rest, e => do
    let inner ← place new rest ((e.members.lookup name).getD .absent)
    return .group (e.members.put name inner)
  | .item n :: rest, e => do
    let n ← placeIn n e.items.length
    let items := e.items ++ List.replicate (n + 1 - e.items.length) .absent
    let inner ← place new rest (items[n]?.getD .absent)
    return .list (items.set n inner)

end Entry

end NodeAlerts
