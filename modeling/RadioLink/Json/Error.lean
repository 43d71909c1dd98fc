import RadioLink.Number.Shortest
import RadioLink.Text.Quoted

/-!
What can be wrong with a JSON text, and the wording of it.
-/

set_option autoImplicit false

namespace RadioLink.Json

/-- A number token: unsigned and signed integers of 64 bits, all else as binary64. -/
inductive Number where
  /-- A non-negative integer below `2 ^ 64`. -/
  | unsigned (n : Nat)
  /-- A negative integer of at least `-2 ^ 63`, by its magnitude. -/
  | negative (magnitude : Nat)
  | float (x : Float)

/-- What stood in a text where a value of another kind was expected. -/
inductive Found where
  | null
  | boolean (b : Bool)
  | number (n : Number)
  | text (s : String)
  | sequence
  | map

/-- Decimal numbers of messages are positional from `1e-5` up to below `1e16`. -/
private def layout : Number.Layout := ⟨-5, 15⟩

private def Found.message : Found → String
  | .null => "null"
  | .boolean b => "boolean `" ++ (if b then "true" else "false") ++ "`"
  | .number (.unsigned n) => "integer `" ++ Text.decimal n ++ "`"
  | .number (.negative n) => "integer `-" ++ Text.decimal n ++ "`"
  | .number (.float x) => "floating point `" ++ layout.text x ++ "`"
  | .text s => "string " ++ Text.Quoted.quote s
  | .sequence => "sequence"
  | .map => "map"

inductive Error where
  | endInList
  | endInObject
  | endInString
  | endInValue
  | expectedColon
  | expectedListCommaOrEnd
  | expectedObjectCommaOrEnd
  /-- A misspelt `null`, `true` or `false`. -/
  | expectedIdent
  | expectedValue
  | invalidEscape
  | invalidNumber
  | numberOutOfRange
  | controlCharacter
  | keyMustBeString
  | loneSurrogate
  /-- Half of a surrogate pair without a second escape. -/
  | unexpectedEndOfEscape
  | trailingComma
  | trailingCharacters
  | wrongType (found : Found) (expected : String)
  | wrongValue (found : Found) (expected : String)
  | wrongLength (length : Nat) (expected : String)
  | duplicateField (name : String)
  | missingField (name : String)
  | unknownVariant (name : String) (expected : List String)
  /-- A string whose contents are wrong, in the words of its own format. -/
  | malformed (reason : String)

/-- What is expected of a name, as the names that it may be. -/
private def expectedNames (names : List String) : String :=
  match names.map fun name => "`" ++ name ++ "`" with
  | [] => "there are no variants"
  | [only] => "expected " ++ only
  | [first, second] => "expected " ++ first ++ " or " ++ second
  | several => "expected one of " ++ ", ".intercalate several

def Error.message : Error → String
  | .endInList => "EOF while parsing a list"
  | .endInObject => "EOF while parsing an object"
  | .endInString => "EOF while parsing a string"
  | .endInValue => "EOF while parsing a value"
  | .expectedColon => "expected `:`"
  | .expectedListCommaOrEnd => "expected `,` or `]`"
  | .expectedObjectCommaOrEnd => "expected `,` or `\x7d`"
  | .expectedIdent => "expected ident"
  | .expectedValue => "expected value"
  | .invalidEscape => "invalid escape"
  | .invalidNumber => "invalid number"
  | .numberOutOfRange => "number out of range"
  | .controlCharacter =>
    "control character (\\u0000-\\u001F) found while parsing a string"
  | .keyMustBeString => "key must be a string"
  | .loneSurrogate => "lone leading surrogate in hex escape"
  | .unexpectedEndOfEscape => "unexpected end of hex escape"
  | .trailingComma => "trailing comma"
  | .trailingCharacters => "trailing characters"
  | .wrongType found expected => "invalid type: " ++ found.message ++ ", expected " ++ expected
  | .wrongValue found expected => "invalid value: " ++ found.message ++ ", expected " ++ expected
  | .wrongLength length expected =>
    "invalid length " ++ Text.decimal length ++ ", expected " ++ expected
  | .duplicateField name => "duplicate field `" ++ name ++ "`"
  | .missingField name => "missing field `" ++ name ++ "`"
  | .unknownVariant name expected => "unknown variant `" ++ name ++ "`, " ++ expectedNames expected
  | .malformed reason => reason

end RadioLink.Json
