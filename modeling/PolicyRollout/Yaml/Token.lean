import PolicyRollout.Yaml.Cursor
/-!
The tokens of YAML.
-/
namespace PolicyRollout.Yaml

/-- How a scalar is written. -/
inductive Style where
  | plain
  | quoted
  /-- Indented, and every break is kept. -/
  | literal
  /-- Indented, and single breaks become spaces. -/
  | folded
deriving DecidableEq, Repr

inductive Token where
  | streamEnd
  | version (major minor : Nat)
  | tagPrefix (handle value : List Char)
  | documentStart
  | documentEnd
  | blockSequenceStart
  | blockMappingStart
  | blockEnd
  | flowSequenceStart
  | flowSequenceEnd
  | flowMappingStart
  | flowMappingEnd
  | blockEntry
  | flowEntry
  | key
  | value
  | aliasTo (name : List Char)
  | anchor (name : List Char)
  | tag (handle suffix : List Char)
  | scalar (text : List Char) (style : Style)
deriving DecidableEq, Repr

end PolicyRollout.Yaml
