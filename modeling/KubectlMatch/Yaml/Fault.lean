/-!
# What can be wrong with a YAML text

A text is refused for one cause, found while it is cut into tokens, while the tokens are put
together, or while the document is read as the values that are wanted of it.
-/
namespace KubectlMatch.Yaml

inductive Fault where
  | controlCharacter
  /-- No token starts with the character. -/
  | strayCharacter (c : Char)
  /-- A key that had to be one has no colon after it. -/
  | missingColon
  /-- A list entry where none can stand. -/
  | misplacedEntry
  /-- A question mark or a colon where no key or value can stand. -/
  | misplacedKey
  | misplacedValue
  | badDirective
  | badAnchor
  | badTag
  | undefinedTagHandle
  | badBlockHeader
  /-- A tab where only spaces indent. -/
  | tabIndentation
  | unclosedQuote
  /-- A line of three hyphens or dots inside quotes. -/
  | markerInQuotes
  | badEscape
  /-- A colon right before a bracket, a comma or a question mark. -/
  | colonBeforeIndicator
  /-- Another token was expected. -/
  | unexpectedToken
  | unknownAnchor
  | severalDocuments
  /-- A value is not of the kind that is wanted. -/
  | wrongKind (wanted : String)
  | missingField (name : String)
  | duplicateField (name : String)
deriving DecidableEq

namespace Fault

def message : Fault → String
  | controlCharacter => "control characters are not allowed"
  | strayCharacter _ => "found character that cannot start any token"
  | missingColon => "could not find expected ':'"
  | misplacedEntry => "block sequence entries are not allowed in this context"
  | misplacedKey => "mapping keys are not allowed in this context"
  | misplacedValue => "mapping values are not allowed in this context"
  | badDirective => "found a malformed directive"
  | badAnchor => "did not find expected alphabetic or numeric character"
  | badTag => "did not find expected tag URI"
  | undefinedTagHandle => "found undefined tag handle"
  | badBlockHeader => "did not find expected comment or line break"
  | tabIndentation => "found a tab character that violates indentation"
  | unclosedQuote => "found unexpected end of stream"
  | markerInQuotes => "found unexpected document indicator"
  | badEscape => "found unknown escape character"
  | colonBeforeIndicator => "found unexpected ':'"
  | unexpectedToken => "did not find expected node content"
  | unknownAnchor => "unknown anchor"
  | severalDocuments => "deserializing from YAML containing more than one document is not supported"
  | wrongKind wanted => "invalid type: expected " ++ wanted
  | missingField name => "missing field " ++ name
  | duplicateField name => "duplicate field " ++ name

end Fault

end KubectlMatch.Yaml
