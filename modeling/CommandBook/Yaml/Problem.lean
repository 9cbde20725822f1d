import CommandBook.Fault

/-!
# What can be wrong with a YAML text

The causes for which a text is no document. They are kept apart from the faults of values whose
text is fine as YAML and which still denote nothing, such as the thirtieth of February.
-/

namespace CommandBook.Yaml

/-- Why a text is not a YAML document that can be used. -/
inductive Problem where
  | unprintableCharacter
  | strayCharacter (c : Char)
  | keyWithoutColon
  | entryNotAllowed
  | keyNotAllowed
  | valueNotAllowed
  | badDirective
  | badAnchor
  | badTag
  | badBlockHeader
  | unterminatedScalar
  | separatorInScalar
  | badEscape
  | unbalancedBracket
  | unexpectedToken
  | duplicateDirective
  | incompatibleVersion
  | undefinedTagHandle (handle : String)
  | undefinedAlias (name : String)
  | duplicateAnchor (name : String)
  | severalDocuments
  | unknownTag (tag : String)
  | wrongKind (tag : String)
  | collectionAsKey
  | badMerge
  | badPair
  | badBase64
deriving DecidableEq, Repr

def Problem.message : Problem → String
  | .unprintableCharacter => "special characters are not allowed"
  | .strayCharacter c => s!"found character '{c}' that cannot start any token"
  | .keyWithoutColon => "could not find expected ':'"
  | .entryNotAllowed => "sequence entries are not allowed here"
  | .keyNotAllowed => "mapping keys are not allowed here"
  | .valueNotAllowed => "mapping values are not allowed here"
  | .badDirective => "found a malformed directive"
  | .badAnchor => "found a malformed anchor or alias"
  | .badTag => "found a malformed tag"
  | .badBlockHeader => "expected chomping or indentation indicators"
  | .unterminatedScalar => "found unexpected end of stream"
  | .separatorInScalar => "found unexpected document separator"
  | .badEscape => "found unknown escape character"
  | .unbalancedBracket => "found a closing bracket without an opening one"
  | .unexpectedToken => "expected the node content"
  | .duplicateDirective => "found duplicate directive"
  | .incompatibleVersion => "found incompatible document (version 1.* is required)"
  | .undefinedTagHandle handle => s!"found undefined tag handle '{handle}'"
  | .undefinedAlias name => s!"found undefined alias '{name}'"
  | .duplicateAnchor name => s!"found duplicate anchor '{name}'"
  | .severalDocuments => "expected a single document in the stream"
  | .unknownTag tag => s!"could not determine a constructor for the tag '{tag}'"
  | .wrongKind tag => s!"found a node of the wrong kind for the tag '{tag}'"
  | .collectionAsKey => "found unhashable key"
  | .badMerge => "expected a mapping or list of mappings for merging"
  | .badPair => "expected a mapping of length 1"
  | .badBase64 => "failed to decode base64 data"

/-- Why a text has no value. -/
inductive Failure where
  | problem (p : Problem)
  | fault (f : Fault)
deriving DecidableEq, Repr

end CommandBook.Yaml
