set_option autoImplicit false
set_option relaxedAutoImplicit false

/-!
Reasons why a text is not a YAML stream, or holds a value that has no place in a document, and the
words for them.
-/

namespace SecretFlow.Yaml

inductive YamlError where
  | controlCharacter
  | unexpectedCharacter
  | tabIndentation
  | unexpectedEnd
  | documentIndicator
  | badEscape
  | badDirective
  | badTag
  | badAnchor
  | badBlockHeader
  | entryNotAllowed
  | missingColon
  | unexpectedColon
  | unexpectedToken
  | undefinedTag
  | unknownAlias
  | duplicateKey
  | tooDeep
  | tooManyAliases
  | integerRange
  | badScalar
  deriving DecidableEq, Repr

def YamlError.message : YamlError → String
  | controlCharacter => "control characters are not allowed"
  | unexpectedCharacter => "found character that cannot start any token"
  | tabIndentation => "found a tab character where indentation is expected"
  | unexpectedEnd => "found unexpected end of stream"
  | documentIndicator => "found unexpected document indicator"
  | badEscape => "found unknown escape character"
  | badDirective => "found a directive that cannot be read"
  | badTag => "did not find expected tag"
  | badAnchor => "did not find expected alphabetic or numeric character"
  | badBlockHeader => "did not find expected comment or line break"
  | entryNotAllowed => "block sequence entries are not allowed in this context"
  | missingColon => "could not find expected ':'"
  | unexpectedColon => "mapping values are not allowed in this context"
  | unexpectedToken => "did not find expected node content"
  | undefinedTag => "found undefined tag handle"
  | unknownAlias => "unknown anchor"
  | duplicateKey => "duplicate entry in mapping"
  | tooDeep => "recursion limit exceeded"
  | tooManyAliases => "repetition limit exceeded"
  | integerRange => "integer out of range"
  | badScalar => "invalid value for its tag"

end SecretFlow.Yaml
