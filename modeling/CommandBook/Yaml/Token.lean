import CommandBook.Yaml.Problem

/-!
# YAML tokens

The marks and scalars of a YAML text. The tokens that open and close block collections have no
characters of their own; they stand where the indentation or a colon shows that a collection begins
or ends.
-/

namespace CommandBook.Yaml

/-- A token of a YAML text. -/
inductive Token where
  | versionDirective (major minor : Nat)
  | tagDirective (handle leader : String)
  | otherDirective
  | documentStart
  | documentEnd
  | streamEnd
  | blockSequenceStart
  | blockMappingStart
  | blockEnd
  | flowSequenceStart
  | flowSequenceEnd
  | flowMappingStart
  | flowMappingEnd
  | key
  | value
  | blockEntry
  | flowEntry
  | aliasOf (name : String)
  | anchor (name : String)
  /-- A tag with its handle, or without one when it was given in full. -/
  | tag (handle : Option String) (suffix : String)
  /-- A scalar, and whether it was written without quotes or a block mark. -/
  | scalar (text : String) (plain : Bool)
deriving DecidableEq, Repr

/-- The tokens of a text up to its end or up to a failure, which comes instead of the next token. -/
structure TokenRow where
  tokens : List Token
  failure : Option Failure := none

end CommandBook.Yaml
