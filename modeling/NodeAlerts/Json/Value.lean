import NodeAlerts.Json.Tree
import NodeAlerts.Table

/-!
# JSON as meant

A `Value` is an evaluated JSON value: texts are well-formed, numbers are whole numbers of sixty-four
bits or finite doubles, objects hold each key once, by increasing key.

* `Value.ofTree?` evaluates a tree whose numbers are in range, whose texts are well-formed, and
  whose containers nest only as deep as `room` allows; `Value.toTree` is the tree of a value.
* `Value.write` writes a value without blanks.
-/

namespace NodeAlerts.Json

open NodeAlerts.Double

/-- A JSON value. -/
inductive Value where
  /-- `null` -/
  | null
  /-- `true` or `false` -/
  | bool (b : Bool)
  /-- A number. -/
  | number (n : Number)
  /-- A text. -/
  | text (s : String)
  /-- An array. -/
  | array (items : List Value)
  /-- An object: its members by increasing key. -/
  | object (members : List (String × Value))
  deriving Repr, Inhabited

/-- A JSON object: a value for each of its keys. -/
abbrev Object := Table Value

namespace Value

/-- The object with these members. -/
def ofObject (o : Object) : Value := .object o.entries

/-- A double as a JSON value: NaN and the infinities have no number and become `null`. -/
def ofFloat (x : Float) : Value := if isFinite x then .number (.float x) else .null

/-- A count as a JSON value. -/
def ofCount (n : Nat) : Value := .number (.int n)

/-- The member of an object stored under `key`. -/
def member? (v : Value) (key : String) : Option Value :=
  match v with
  | .object members => Sorted.get? key members
  | _ => none

/-- A number as a double. -/
def toFloat? : Value → Option Float
  | .number n => some n.toFloat
  | _ => none

/-- The greatest number of containers that may enclose one another. -/
def maxDepth : Nat := 127

/-- Evaluates a tree whose containers nest at most `room` deep.  Of repeated keys the last wins. -/
def ofTree? : Nat → Tree → Option Value
  | _, .null => some .null
  | _, .bool b => some (.bool b)
  | _, .number n => n.map .number
  | _, .text s => s.map .text
  | 0, .array _ => none
  | 0, .object _ => none
  | room + 1, .array items => (items.mapM (ofTree? room)).map .array
  | room + 1, .object members => do
    let members ← members.mapM fun m => do return (← m.1, ← ofTree? room m.2)
    return .ofObject (Table.ofList members)

mutual

/-- A value as it would be written. -/
def toTree : Value → Tree
  | .null => .null
  | .bool b => .bool b
  | .number n => .number (some n)
  | .text s => .text (some s)
  | .array items => .array (itemTrees items)
  | .object members => .object (memberTrees members)

/-- The items of an array as they would be written. -/
def itemTrees : List Value → List Tree
  | [] => []
  | v :: vs => toTree v :: itemTrees vs

/-- The members of an object as they would be written. -/
def memberTrees : List (String × Value) → List (Option String × Tree)
  | [] => []
  | (k, v) :: ms => (some k, toTree v) :: memberTrees ms

end

mutual

/-- How many containers enclose one another. -/
def depth : Value → Nat
  | .array items => itemsDepth items + 1
  | .object members => membersDepth members + 1
  | _ => 0

/-- The greatest depth of the items of an array. -/
def itemsDepth : List Value → Nat
  | [] => 0
  | v :: vs => max (depth v) (itemsDepth vs)

/-- The greatest depth of the members of an object. -/
def membersDepth : List (String × Value) → Nat
  | [] => 0
  | (_, v) :: ms => max (depth v) (membersDepth ms)

end

/-- The value written in a JSON text. -/
def read? (bytes : List UInt8) : Option Value := do ofTree? maxDepth (← Tree.read? bytes)

/-- The object written in a JSON text. -/
def readObject? (bytes : List UInt8) : Option Object := do
  match ← Tree.read? bytes with
  | .object members =>
    let members ← members.mapM fun m => do return (← m.1, ← ofTree? (maxDepth - 1) m.2)
    return Table.ofList members
  | _ => none

/-! ## Writing -/

mutual

/-- A value without blanks. -/
def write : Value → String
  | .null => "null"
  | .bool b => if b then "true" else "false"
  | .number n => n.write
  | .text s => quote s
  | .array items => "[" ++ ",".intercalate (writeItems items) ++ "]"
  | .object members => "\x7b" ++ ",".intercalate (writeMembers members) ++ "\x7d"

/-- The items of an array. -/
def writeItems : List Value → List String
  | [] => []
  | v :: vs => write v :: writeItems vs

/-- The members of an object. -/
def writeMembers : List (String × Value) → List String
  | [] => []
  | (k, v) :: ms => (quote k ++ ":" ++ write v) :: writeMembers ms

end

/-- The bytes of a value written without blanks. -/
def bytes (v : Value) : List UInt8 := v.write.toUTF8.toList

end Value

end NodeAlerts.Json
