import EventSourcing.Text.Quoted

/-!
# Why a document cannot be read

Reading goes from left to right and stops at the first problem.  A problem is one of the text's
syntax, or one of the value that stands there.

## Main Definitions

* `Json.Place` — what was being read when the document ended.
* `Json.Found` — a description of what stands in the document.
* `Json.Failure` — a cause, and `Json.Failure.message`, its wording.
-/

namespace EventSourcing.Json

/-- What was being read when the document ended. -/
inductive Place where
  | value
  | string
  | list
  | object
  deriving Repr, DecidableEq

/-- What stands where something else was wanted. -/
inductive Found where
  | null
  | bool (b : Bool)
  | int (n : Int)
  | decimal
  | str (s : String)
  | list
  | object
  /-- The bare name of a variant that has content. -/
  | bareVariant
  deriving Repr, DecidableEq

/-- Why a document cannot be read. -/
inductive Failure where
  | endOfInput (place : Place)
  | expectedValue
  | expectedLiteral
  | expectedColon
  | expectedCommaOrEnd (place : Place)
  | keyIsNoString
  | trailingComma
  | trailingCharacters
  | invalidNumber
  | numberOutOfRange
  | invalidEscape
  | unfinishedPair
  | loneSurrogate
  | controlCharacter
  | invalidCodePoint
  | tooDeep
  | wrongType (found : Found) (expected : String)
  | wrongValue (found : Found) (expected : String)
  | wrongLength (length : Nat) (expected : String)
  | missingField (name : String)
  | duplicateField (name : String)
  | unknownVariant (name : String) (known : List String)
  | refused (reason : String)
  deriving Repr, DecidableEq

/-- The name of a place. -/
def Place.name : Place → String
  | .value => "a value"
  | .string => "a string"
  | .list => "a list"
  | .object => "an object"

/-- The bracket that ends a place. -/
def Place.bracket : Place → String
  | .object => "\x7d"
  | _ => "]"

/-- The description of what was found. -/
def Found.name : Found → String
  | .null => "null"
  | .bool b => "boolean `" ++ (if b then "true" else "false") ++ "`"
  | .int n => "integer `" ++ toString n ++ "`"
  | .decimal => "floating point"
  | .str s => "string " ++ Text.quoted s
  | .list => "sequence"
  | .object => "map"
  | .bareVariant => "unit variant"

/-- How a choice between names is worded. -/
def choice : List String → String
  | [] => "there are no variants"
  | [a] => "expected `" ++ a ++ "`"
  | [a, b] => "expected `" ++ a ++ "` or `" ++ b ++ "`"
  | names => "expected one of " ++ ", ".intercalate (names.map fun n => "`" ++ n ++ "`")

/-- The wording of a failure. -/
def Failure.message : Failure → String
  | .endOfInput place => "EOF while parsing " ++ place.name
  | .expectedValue => "expected value"
  | .expectedLiteral => "expected ident"
  | .expectedColon => "expected `:`"
  | .expectedCommaOrEnd place => "expected `,` or `" ++ place.bracket ++ "`"
  | .keyIsNoString => "key must be a string"
  | .trailingComma => "trailing comma"
  | .trailingCharacters => "trailing characters"
  | .invalidNumber => "invalid number"
  | .numberOutOfRange => "number out of range"
  | .invalidEscape => "invalid escape"
  | .unfinishedPair => "unexpected end of hex escape"
  | .loneSurrogate => "lone leading surrogate in hex escape"
  | .controlCharacter => "control character (\\u0000-\\u001F) found while parsing a string"
  | .invalidCodePoint => "invalid unicode code point"
  | .tooDeep => "recursion limit exceeded"
  | .wrongType found expected => "invalid type: " ++ found.name ++ ", expected " ++ expected
  | .wrongValue found expected => "invalid value: " ++ found.name ++ ", expected " ++ expected
  | .wrongLength length expected =>
    "invalid length " ++ toString length ++ ", expected " ++ expected
  | .missingField name => "missing field `" ++ name ++ "`"
  | .duplicateField name => "duplicate field `" ++ name ++ "`"
  | .unknownVariant name known => "unknown variant `" ++ name ++ "`, " ++ choice known
  | .refused reason => reason

end EventSourcing.Json
