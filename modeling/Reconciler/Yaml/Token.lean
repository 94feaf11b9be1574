import Reconciler.Yaml.Tag
/-!
The tokens of a YAML text.  Where indentation begins and ends a collection, there are tokens that
say so.
-/
namespace Reconciler.Yaml

/-- A token. -/
inductive Token where
  | version (major minor : Nat)
  | tagHandle (handle : String) (meaning : List UInt8)
  | documentStart
  | documentEnd
  | blockSequenceStart
  | blockMappingStart
  | blockEnd
  | flowSequenceStart
  | flowSequenceEnd
  | flowMappingStart
  | flowMappingEnd
  | blockEntry
  | flowEntry
  | key
  | value
  | alias (name : String)
  | anchor (name : String)
  | tag (tag : TagToken)
  /-- A scalar; whether it is plain, that is, neither quoted nor a block. -/
  | scalar (text : String) (plain : Bool)
  | streamEnd
deriving DecidableEq

end Reconciler.Yaml
