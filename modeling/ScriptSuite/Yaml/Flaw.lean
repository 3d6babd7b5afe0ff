/-!
What can be wrong with a YAML text.
-/

namespace ScriptSuite.Yaml

/-- Why a text cannot be read. -/
inductive Flaw where
  | controlCharacter
  | strayCharacter
  | missingColon
  | blockEntryHere
  | keyHere
  | valueHere
  | directive
  | incompatible
  | repeatedDirective
  | anchorName
  | tagName
  | unknownTag
  | tabIndent
  | blockHeader
  | colonInFlow
  | unclosedQuote
  | markerInQuote
  | unknownEscape
  | hexDigits
  | escapedCode
  | documentStart
  | nodeContent
  | missingHyphen
  | missingKey
  | missingComma
  | unknownAnchor
  | moreThanOneDocument
  deriving Repr, DecidableEq, Inhabited

def Flaw.message : Flaw → String
  | controlCharacter => "control characters are not allowed"
  | strayCharacter => "found character that cannot start any token"
  | missingColon => "could not find expected ':'"
  | blockEntryHere => "block sequence entries are not allowed in this context"
  | keyHere => "mapping keys are not allowed in this context"
  | valueHere => "mapping values are not allowed in this context"
  | directive => "found an invalid directive"
  | incompatible => "found incompatible YAML document"
  | repeatedDirective => "found duplicate directive"
  | anchorName => "did not find expected alphabetic or numeric character"
  | tagName => "did not find expected tag URI"
  | unknownTag => "found undefined tag handle"
  | tabIndent => "found a tab character that violates indentation"
  | blockHeader => "did not find expected comment or line break"
  | colonInFlow => "found unexpected ':'"
  | unclosedQuote => "found unexpected end of stream"
  | markerInQuote => "found unexpected document indicator"
  | unknownEscape => "found unknown escape character"
  | hexDigits => "did not find expected hexadecimal number"
  | escapedCode => "found invalid Unicode character escape code"
  | documentStart => "did not find expected <document start>"
  | nodeContent => "did not find expected node content"
  | missingHyphen => "did not find expected '-' indicator"
  | missingKey => "did not find expected key"
  | missingComma => "did not find expected ',' or bracket"
  | unknownAnchor => "unknown anchor"
  | moreThanOneDocument =>
    "deserializing from YAML containing more than one document is not supported"

end ScriptSuite.Yaml
