import NodeAlerts.Json.Value

/-!
# Reading JSON into structures

A structure with named fields is read from a `Row`: an object, whose members may stand in any order
and where unknown members are passed over without a look at their values, or an array with the
fields in the order of the structure.  Fields are taken one after another in that order.

* `Row.required` takes a field that has to be there;
* `Row.nullable` takes a field that may be `null`, or absent from an object;
* `Row.defaulted` takes a field that may be absent from objects and arrays.

A key that is given twice, under one name or under two names of the same field, is refused.  A
reader gets the number of containers that may still be opened (`Reader`).
-/

namespace NodeAlerts.Json

open NodeAlerts.Double

/-- Reads an `α` from a tree whose containers nest at most as deep as the given room. -/
abbrev Reader (α : Type) := Nat → Tree → Option α

/-- The members of an object, if all their keys are well-formed. -/
def keyed? (members : List (Option String × Tree)) : Option (List (String × Tree)) :=
  members.mapM fun m => m.1.map fun key => (key, m.2)

/-- The fields of a structure that are not yet read. -/
inductive Row where
  /-- The members of an object. -/
  | members (room : Nat) (fields : List (String × Tree))
  /-- The rest of an array. -/
  | items (room : Nat) (fields : List Tree)

namespace Row

/-- Opens an object or array. -/
def ofTree? : Reader Row
  | room + 1, .object fields => do
    return .members room (← keyed? fields)
  | room + 1, .array fields => some (.items room fields)
  | _, _ => none

/-- Takes the field known under `names`: its tree, if it is there, and the room inside it. -/
def take (names : List String) : Row → Option (Option (Nat × Tree) × Row)
  | .members room fields =>
    match fields.filter fun f => names.contains f.1 with
    | [] => some (none, .members room fields)
    | [f] => some (some (room, f.2), .members room fields)
    | _ => none
  | .items room [] => some (none, .items room [])
  | .items room (field :: fields) => some (some (room, field), .items room fields)

/-- Whether the fields are given by position. -/
def isItems : Row → Bool
  | .members .. => false
  | .items .. => true

/-- Nothing is left over: all items of an array were fields. -/
def finish : Row → Option Unit
  | .items _ (_ :: _) => none
  | _ => some ()

end Row

/-- Reads fields one after another. -/
abbrev RowM := StateT Row Option

namespace Row

/-- Takes a field that has to be there. -/
def required {α : Type} (names : List String) (read : Reader α) : RowM α := do
  match ← take names with
  | some (room, tree) => read room tree
  | none => failure

/-- Takes a field that may be `null`, or absent from an object. -/
def nullable {α : Type} (names : List String) (read : Reader α) : RowM (Option α) := do
  match ← take names with
  | some (_, .null) => return none
  | some (room, tree) => return some (← read room tree)
  | none => if (← get).isItems then failure else return none

/-- Takes a field that may be absent. -/
def defaulted {α : Type} (names : List String) (read : Reader α) (value : α) : RowM α := do
  match ← take names with
  | some (room, tree) => read room tree
  | none => return value

/-- Reads a structure from an object or array by its fields. -/
def read {α : Type} (fields : RowM α) : Reader α := fun room tree => do
  let (value, rest) ← fields.run (← ofTree? room tree)
  rest.finish
  return value

end Row

/-! ## Readers of single values -/

namespace Reader

/-- A text. -/
def text : Reader String
  | _, .text s => s
  | _, _ => none

/-- `true` or `false`. -/
def bool : Reader Bool
  | _, .bool b => some b
  | _, _ => none

/-- Any number, as a double. -/
def float : Reader Float
  | _, .number n => n.map Number.toFloat
  | _, _ => none

/-- A whole number from `-2 ^ 63` to `2 ^ 63 - 1`. -/
def quantity : Reader Int
  | _, .number (some (.int i)) => if i ≤ maxQuantity then some i else none
  | _, _ => none

/-- A whole number from `0` to `2 ^ 64 - 1`. -/
def count : Reader Nat
  | _, .number (some (.int i)) => if 0 ≤ i then some i.toNat else none
  | _, _ => none

/-- Any value. -/
def value : Reader Value := Value.ofTree?

/-- A value that may be `null`. -/
def orNull {α : Type} (read : Reader α) : Reader (Option α)
  | _, .null => some none
  | room, tree => (read room tree).map some

/-- One of several named alternatives without content: its name, or an object with that single key
and the value `null`. -/
def choice {α : Type} (ofName? : String → Option α) : Reader α
  | _, .text s => do ofName? (← s)
  | _ + 1, .object [(key, .null)] => do ofName? (← key)
  | _, _ => none

/-- One of several named alternatives with content: an object with that single key. -/
def alternative {α : Type} (ofName? : String → Option (Reader α)) : Reader α
  | room + 1, .object [(key, tree)] => do
    let read ← ofName? (← key)
    read room tree
  | _, _ => none

end Reader

/-- Reads a whole JSON text. -/
def readAs? {α : Type} (read : Reader α) (bytes : List UInt8) : Option α := do
  read Value.maxDepth (← Tree.read? bytes)

end NodeAlerts.Json
