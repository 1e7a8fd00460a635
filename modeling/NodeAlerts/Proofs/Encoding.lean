import NodeAlerts.Json.Value
import NodeAlerts.Proofs.ByteOrder

/-!
# The bytes of JSON values, part by part

`Value.encode` puts the bytes of a value together from the bytes of its parts.  They are the bytes
of the value as it is written (`Value.encode_eq_utf8_write`), but none of them has to be looked up
in a long text, so that long messages can be evaluated.
-/

namespace NodeAlerts

namespace Text

theorem utf8_append (s t : String) : utf8 (s ++ t) = utf8 s ++ utf8 t := by
  simp only [utf8_eq_flatMap, String.toList_append, List.flatMap_append]

theorem utf8_intercalate (separator : String) :
    ∀ texts : List String,
      utf8 (separator.intercalate texts) = (utf8 separator).intercalate (texts.map utf8)
  | [] => rfl
  | [s] => by simp [String.intercalate_singleton]
  | s :: t :: rest => by
      rw [String.intercalate_cons_cons, utf8_append, utf8_append,
        utf8_intercalate separator (t :: rest)]
      simp

end Text

namespace Json.Value

open Text

mutual

/-- The bytes of a value without blanks. -/
def encode : Value → List UInt8
  | .null => utf8 "null"
  | .bool b => utf8 (if b then "true" else "false")
  | .number n => utf8 n.write
  | .text s => utf8 (quote s)
  | .array items => utf8 "[" ++ (utf8 ",").intercalate (encodeItems items) ++ utf8 "]"
  | .object members =>
    utf8 "\x7b" ++ (utf8 ",").intercalate (encodeMembers members) ++ utf8 "\x7d"

/-- The bytes of the items of an array. -/
def encodeItems : List Value → List (List UInt8)
  | [] => []
  | v :: vs => encode v :: encodeItems vs

/-- The bytes of the members of an object. -/
def encodeMembers : List (String × Value) → List (List UInt8)
  | [] => []
  | (k, v) :: ms => (utf8 (quote k) ++ utf8 ":" ++ encode v) :: encodeMembers ms

end

mutual

/-- **The bytes of a value are those of its text.** -/
theorem encode_eq_utf8_write : ∀ v : Value, v.encode = utf8 v.write
  | .null => rfl
  | .bool _ => rfl
  | .number _ => rfl
  | .text _ => rfl
  | .array items => by
      rw [encode, write, utf8_append, utf8_append, utf8_intercalate, encodeItems_eq_map items]
  | .object members => by
      rw [encode, write, utf8_append, utf8_append, utf8_intercalate, encodeMembers_eq_map members]

theorem encodeItems_eq_map : ∀ items : List Value,
    encodeItems items = (writeItems items).map utf8
  | [] => rfl
  | v :: vs => by
      rw [encodeItems, writeItems, encode_eq_utf8_write v, encodeItems_eq_map vs, List.map_cons]

theorem encodeMembers_eq_map : ∀ members : List (String × Value),
    encodeMembers members = (writeMembers members).map utf8
  | [] => rfl
  | (k, v) :: ms => by
      rw [encodeMembers, writeMembers, encode_eq_utf8_write v, encodeMembers_eq_map ms,
        List.map_cons, utf8_append, utf8_append]

end

end Json.Value

end NodeAlerts
