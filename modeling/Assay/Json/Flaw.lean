/- digest: What can be wrong with the text of a JSON document. -/

set_option autoImplicit false
set_option relaxedAutoImplicit false

namespace Assay.Json

/-- A fault in the text of a document, at the first place where one shows. -/
inductive Flaw
  | endInList | endInObject | endInString | endInValue
  | colonExpected | listEndExpected | objectEndExpected | wordExpected | valueExpected
  | badEscape | badNumber | numberTooLarge | controlCharacter | keyNotText
  | loneSurrogate | escapeCutShort | trailingComma | trailingText | tooDeep
  deriving DecidableEq, Repr

def Flaw.message : Flaw → String
  | .endInList => "EOF while parsing a list"
  | .endInObject => "EOF while parsing an object"
  | .endInString => "EOF while parsing a string"
  | .endInValue => "EOF while parsing a value"
  | .colonExpected => "expected `:`"
  | .listEndExpected => "expected `,` or `]`"
  | .objectEndExpected => "expected `,` or `\x7d`"
  | .wordExpected => "expected ident"
  | .valueExpected => "expected value"
  | .badEscape => "invalid escape"
  | .badNumber => "invalid number"
  | .numberTooLarge => "number out of range"
  | .controlCharacter => "control character (\\u0000-\\u001F) found while parsing a string"
  | .keyNotText => "key must be a string"
  | .loneSurrogate => "lone leading surrogate in hex escape"
  | .escapeCutShort => "unexpected end of hex escape"
  | .trailingComma => "trailing comma"
  | .trailingText => "trailing characters"
  | .tooDeep => "recursion limit exceeded"

end Assay.Json
