import NodeAlerts.Json.Token

/-!
# JSON as written

A `Tree` is a JSON text with its blanks removed: members of objects in the order written, repeated
keys included, and numbers and texts that may lack a value.  `Tree.read?` accepts exactly one value.
The reader keeps its open containers on a list, so the depth of a text is not limited here.
-/

namespace NodeAlerts.Json

/-- A JSON value as written. -/
inductive Tree where
  /-- `null` -/
  | null
  /-- `true` or `false` -/
  | bool (b : Bool)
  /-- A number, if it is in range. -/
  | number (n : Option Number)
  /-- A text, if it is well-formed. -/
  | text (s : Option String)
  /-- An array. -/
  | array (items : List Tree)
  /-- An object: its members in the order written. -/
  | object (members : List (Option String × Tree))
  deriving Repr, Inhabited

/-- A container that is not yet closed, with its content so far, last first. -/
inductive Open where
  /-- An array. -/
  | array (items : List Tree)
  /-- An object, and the key whose value is being read. -/
  | object (members : List (Option String × Tree)) (key : Option String)

/-- What the reader expects next. -/
inductive Expect where
  /-- A value. -/
  | value
  /-- The first item of an array just opened, or its end. -/
  | firstItem
  /-- The first key of an object just opened, or its end. -/
  | firstKey
  /-- A further key of an object with these members. -/
  | key (members : List (Option String × Tree))
  /-- The colon behind a key of an object with these members. -/
  | colon (members : List (Option String × Tree)) (key : Option String)
  /-- What follows a complete value. -/
  | after (value : Tree)

/-- How far a reader came. -/
structure Progress where
  /-- What it expects next. -/
  expect : Expect
  /-- The open containers, innermost first. -/
  around : List Open

namespace Progress

/-- The start of reading one value. -/
def start : Progress := ⟨.value, []⟩

/-- Reads the first token of a value. -/
def enter (around : List Open) : Token → Option Progress
  | .null => some ⟨.after .null, around⟩
  | .bool b => some ⟨.after (.bool b), around⟩
  | .number n => some ⟨.after (.number n), around⟩
  | .text s => some ⟨.after (.text s), around⟩
  | .openArray => some ⟨.firstItem, around⟩
  | .openObject => some ⟨.firstKey, around⟩
  | _ => none

/-- Reads the token behind a complete value, which depends on the container around it. -/
def leave (value : Tree) : List Open → Token → Option Progress
  | .array items :: around, .comma => some ⟨.value, .array (value :: items) :: around⟩
  | .array items :: around, .closeArray => some ⟨.after (.array (value :: items).reverse), around⟩
  | .object members key :: around, .comma => some ⟨.key ((key, value) :: members), around⟩
  | .object members key :: around, .closeObject =>
    some ⟨.after (.object ((key, value) :: members).reverse), around⟩
  | _, _ => none

/-- Reads a token. -/
def step (p : Progress) (t : Token) : Option Progress :=
  match p.expect with
  | .value => enter p.around t
  | .firstItem =>
    match t with
    | .closeArray => some ⟨.after (.array []), p.around⟩
    | t => enter (.array [] :: p.around) t
  | .firstKey =>
    match t with
    | .closeObject => some ⟨.after (.object []), p.around⟩
    | .text key => some ⟨.colon [] key, p.around⟩
    | _ => none
  | .key members =>
    match t with
    | .text key => some ⟨.colon members key, p.around⟩
    | _ => none
  | .colon members key =>
    match t with
    | .colon => some ⟨.value, .object members key :: p.around⟩
    | _ => none
  | .after value => leave value p.around t

/-- The value read, if it is complete and no container is open. -/
def value? (p : Progress) : Option Tree :=
  match p.expect, p.around with
  | .after v, [] => some v
  | _, _ => none

end Progress

namespace Tree

/-- The value whose tokens these are. -/
def ofTokens? (tokens : List Token) : Option Tree := do
  (← tokens.foldlM Progress.step Progress.start).value?

/-- The value written in a JSON text, if the text is exactly one value. -/
def read? (bytes : List UInt8) : Option Tree := do ofTokens? (← Token.scan? bytes)

end Tree

end NodeAlerts.Json
