import HostEngine.Text.Octets
import HostEngine.Yaml.Cursor
/-!
Tokens of a document text.
-/
set_option autoImplicit false

namespace HostEngine.Yaml

inductive Style where
  | plain
  | singleQuoted
  | doubleQuoted
  | literal
  | folded
  deriving DecidableEq, Repr

inductive Token.Kind where
  | streamEnd
  | versionDirective (major minor : Nat)
  | tagDirective (handle : String) (stem : Octets)
  | documentStart
  | documentEnd
  | blockSequenceStart
  | blockMappingStart
  | blockEnd
  | flowSequenceStart
  | flowSequenceEnd
  | flowMappingStart
  | flowMappingEnd
  | blockEntry
  | flowEntry
  | key
  | value
  | reference (name : String)
  | anchor (name : String)
  | tag (handle : String) (suffix : Octets)
  | scalar (style : Style) (text : String)
  deriving DecidableEq, Repr

/-- A token with the places where it starts and finishes. -/
structure Token where
  kind : Token.Kind
  start : Mark
  finish : Mark
  deriving DecidableEq, Repr

end HostEngine.Yaml
