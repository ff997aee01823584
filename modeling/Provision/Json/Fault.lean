namespace Provision.Json

/-- A fault of the syntax, named for what the reader met or missed. -/
inductive Fault where
  | valueCut
  | stringCut
  | objectCut
  | listCut
  | valueExpected
  /-- A word begins like `null`, `true` or `false` and goes on otherwise. -/
  | wordExpected
  | colonExpected
  /-- Something else follows a member than a comma or the end of the object. -/
  | objectUnseparated
  /-- Something else follows an item than a comma or the end of the list. -/
  | listUnseparated
  | keyExpected
  | trailingComma
  | trailingText
  | badNumber
  | numberTooLarge
  | badEscape
  | loneSurrogate
  | surrogateCut
  | badCodePoint
  | controlCharacter
  | tooDeep
deriving DecidableEq, Repr

def Fault.message : Fault → String
  | .valueCut => "EOF while parsing a value"
  | .stringCut => "EOF while parsing a string"
  | .objectCut => "EOF while parsing an object"
  | .listCut => "EOF while parsing a list"
  | .valueExpected => "expected value"
  | .wordExpected => "expected ident"
  | .colonExpected => "expected `:`"
  | .objectUnseparated => "expected `,` or `\x7d`"
  | .listUnseparated => "expected `,` or `]`"
  | .keyExpected => "key must be a string"
  | .trailingComma => "trailing comma"
  | .trailingText => "trailing characters"
  | .badNumber => "invalid number"
  | .numberTooLarge => "number out of range"
  | .badEscape => "invalid escape"
  | .loneSurrogate => "lone leading surrogate in hex escape"
  | .surrogateCut => "unexpected end of hex escape"
  | .badCodePoint => "invalid unicode code point"
  | .controlCharacter => "control character (\\u0000-\\u001F) found while parsing a string"
  | .tooDeep => "recursion limit exceeded"

end Provision.Json
