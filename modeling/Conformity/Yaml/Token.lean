import Conformity.Yaml.Fault

/-!
# YAML tokens

What a stream consists of. Marks that a stream does not write out are tokens too: the beginning and
the end of a block collection, which follow from indentation, and the place where a key begins. The
tokens of a stream that breaks off with a fault end with that fault.
-/

namespace Conformity.Yaml

/-- A tag as it is written. -/
inductive WrittenTag where
  /-- The whole name of a tag. -/
  | whole (name : String)
  /-- A handle, which stands for the beginning of the name, and the rest of it. -/
  | short (handle suffix : String)
  deriving DecidableEq, Repr

/-- A line that tells something about a document. -/
inductive Directive where
  | version (major minor : Nat)
  | handle (name replacement : String)
  | other (name : String)
  deriving DecidableEq, Repr

/-- A token. -/
inductive Token where
  | directive (d : Directive)
  | documentStart
  | documentEnd
  | blockSequenceStart
  | blockMappingStart
  | blockEnd
  | flowSequenceStart
  | flowSequenceEnd
  | flowMappingStart
  | flowMappingEnd
  | blockEntry
  | flowEntry
  | key
  | value
  | alias (name : String)
  | anchor (name : String)
  | tag (t : WrittenTag)
  /-- A scalar; is it written without quotes and outside a block? -/
  | scalar (text : String) (plain : Bool)
  | wrong (fault : Fault)
  deriving DecidableEq, Repr

end Conformity.Yaml
