import ArtifactCache.Bytes

/-!
The tokens of a YAML text. Those that begin and end a block stand where the
indentation says so; nothing is written there.
-/
namespace ArtifactCache.Yaml

/-- How a scalar was written. -/
inductive Style
  | plain
  /-- Between quotes of either kind. -/
  | quoted
  | literal
  | folded
  deriving DecidableEq, Repr

inductive Directive
  | version (major minor : Nat)
  /-- A handle, and what it stands for in tags. -/
  | tag (handle : String) (stem : Bytes)
  deriving DecidableEq, Repr

inductive Token
  | directive (d : Directive)
  | documentStart
  | documentEnd
  | blockSequenceStart
  | blockMappingStart
  | blockEnd
  | flowSequenceStart
  | flowSequenceEnd
  | flowMappingStart
  | flowMappingEnd
  | blockEntry
  | flowEntry
  | key
  | value
  | reference (name : String)
  | anchor (name : String)
  | tag (handle : String) (suffix : Bytes)
  | scalar (style : Style) (text : String)
  deriving DecidableEq, Repr

end ArtifactCache.Yaml
