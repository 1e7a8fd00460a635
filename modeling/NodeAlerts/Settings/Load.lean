import NodeAlerts.Settings.Path
import NodeAlerts.Yaml.Node

/-!
# Loading settings

Settings come from a YAML file and, laid over it, from variables of the environment whose names
start with `CHAIN_ALERTER__` in any case; a further `__` separates the names of groups.
-/

namespace NodeAlerts

open NodeAlerts.Double NodeAlerts.Text NodeAlerts.Yaml

namespace Entry

/-! ## Files -/

/-- The setting that a scalar stands for. -/
def ofScalar? : Scalar → Option Entry
  | .null => some .absent
  | .flag b => some (.flag b)
  | .whole n => some (.whole n)
  | .real s => (readFloat? s).map .real
  | .text s => some (.text s)
  | .invalid => some .absent

mutual

/-- The setting that a node stands for. -/
def ofNode? : Node → Option Entry
  | .scalar s => ofScalar? s
  | .list items => (ofNodes? items).map .list
  | .mapping members => (ofMembers? [] members).map .group

/-- The settings that nodes stand for. -/
def ofNodes? : List Node → Option (List Entry)
  | [] => some []
  | item :: rest => do return (← ofNode? item) :: (← ofNodes? rest)

/-- The named settings that the members of a mapping stand for, behind others. -/
def ofMembers? (entries : Entries) : List (Scalar × Node) → Option Entries
  | [] => some entries
  | (key, value) :: rest => do
    let name ← key.name?
    ofMembers? (entries.put name (← ofNode? value)) rest

end

/-- The named settings in a file; one without a document has none. -/
def readFile? (text : String) : Option Entries := do
  match ← Node.ofText? text with
  | none => return []
  | some root =>
    match ← ofNode? root with
    | .group members => return members
    | _ => none

/-! ## Variables -/

/-- The setting that the value of a variable stands for. -/
def ofVariable (value : String) : Entry :=
  if lowerAscii value = "true" then .flag true
  else if lowerAscii value = "false" then .flag false
  else if let some n := readQuantity? value then .whole n
  else if let some x := readFloat? value then .real x
  else .text value

/-- What the names of variables for settings start with. -/
def variableMark : List Char := "chain_alerter__".toList

/-- A name in which points separate groups instead of `__`. -/
def withPoints : List Char → List Char
  | '_' :: '_' :: cs => '.' :: withPoints cs
  | c :: cs => c :: withPoints cs
  | [] => []

/-- The path of the setting that a variable is for, if it is for one. -/
def variablePath? (name : String) : Option (List Step) :=
  let cs := (lowerName name).toList
  if variableMark.isPrefixOf cs then
    some (path (String.ofList (withPoints (cs.drop variableMark.length))))
  else none

/-- Lays a variable over settings. -/
def placeVariable (e : Entry) (v : String × String) : Except SettingsError Entry :=
  match variablePath? v.1 with
  | some path => (ofVariable v.2).place path e
  | none => .ok e

end Entry

/-- The settings of a file and the environment; without a file there are none. -/
def Settings.load (file : Option String) (environment : List (String × String)) :
    Except SettingsError Settings := do
  let some members := file.bind Entry.readFile? | .error .unreadable
  let e ← members.foldlM (fun e m => m.2.place (Entry.path m.1) e) (.group [])
  let e ← environment.foldlM Entry.placeVariable e
  let some settings := e.settings? | .error .unreadable
  return settings

end NodeAlerts
