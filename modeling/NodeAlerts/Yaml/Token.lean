/-!
# Tokens of YAML

The pieces that a YAML text consists of, with the structure that indentation stands for made
explicit.
-/

namespace NodeAlerts.Yaml

/-- A piece of a YAML text. -/
inductive Token where
  /-- The directive that names the version. -/
  | versionDirective
  /-- A directive that lets a handle stand for the start of a tag. -/
  | tagDirective (handle start : String)
  /-- The mark before a document. -/
  | documentStart
  /-- The mark behind a document. -/
  | documentEnd
  /-- The start of a list by indentation. -/
  | sequenceStart
  /-- The start of a mapping by indentation. -/
  | mappingStart
  /-- The end of a list or mapping by indentation. -/
  | blockEnd
  /-- The dash before an item of a list by indentation. -/
  | entry
  /-- The start of a key. -/
  | key
  /-- The colon before a value. -/
  | value
  /-- An opening bracket. -/
  | flowSequenceStart
  /-- A closing bracket. -/
  | flowSequenceEnd
  /-- An opening brace. -/
  | flowMappingStart
  /-- A closing brace. -/
  | flowMappingEnd
  /-- A comma. -/
  | flowEntry
  /-- A node that is named elsewhere. -/
  | alias (name : String)
  /-- The name of the node behind it. -/
  | anchor (name : String)
  /-- The type of the node behind it. -/
  | tag (handle suffix : String)
  /-- A scalar, without quotes if `plain`. -/
  | scalar (plain : Bool) (text : String)
  deriving Repr, DecidableEq

end NodeAlerts.Yaml
