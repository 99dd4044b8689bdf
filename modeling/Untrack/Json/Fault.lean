import Untrack.Json.Value

namespace Untrack.Json

/-!
# What can be wrong with a JSON text

A fault has a cause and, when it was found in a text, a position. Lines count
from one. Columns count octets, and the column of a fault is the number of
octets of its line that had been read.
-/

/-- Why a text or a value was not accepted. -/
inductive Cause where
  | eofInValue
  | eofInObject
  | eofInList
  | eofInString
  | expectedValue
  | expectedWord
  | expectedColon
  | expectedCommaInObject
  | expectedCommaInList
  | keyNotString
  | trailingComma
  | trailingCharacters
  | invalidEscape
  | invalidNumber
  | numberOutOfRange
  | controlCharacter
  | endOfHexEscape
  | loneSurrogate
  | recursionLimit
  | missingField (name : String)
  | duplicateField (name : String)
  | invalidLength (length : Nat) (expected : String)
  | invalidType (found : Found) (expected : String)
  deriving Repr, DecidableEq

/-- The words for a cause. -/
def Cause.message : Cause → String
  | .eofInValue => "EOF while parsing a value"
  | .eofInObject => "EOF while parsing an object"
  | .eofInList => "EOF while parsing a list"
  | .eofInString => "EOF while parsing a string"
  | .expectedValue => "expected value"
  | .expectedWord => "expected ident"
  | .expectedColon => "expected `:`"
  | .expectedCommaInObject => "expected `,` or `\x7d`"
  | .expectedCommaInList => "expected `,` or `]`"
  | .keyNotString => "key must be a string"
  | .trailingComma => "trailing comma"
  | .trailingCharacters => "trailing characters"
  | .invalidEscape => "invalid escape"
  | .invalidNumber => "invalid number"
  | .numberOutOfRange => "number out of range"
  | .controlCharacter =>
      "control character (\\u0000-\\u001F) found while parsing a string"
  | .endOfHexEscape => "unexpected end of hex escape"
  | .loneSurrogate => "lone leading surrogate in hex escape"
  | .recursionLimit => "recursion limit exceeded"
  | .missingField name => "missing field `" ++ name ++ "`"
  | .duplicateField name => "duplicate field `" ++ name ++ "`"
  | .invalidLength length expected =>
      "invalid length " ++ toString length ++ ", expected " ++ expected
  | .invalidType found expected =>
      "invalid type: " ++ found.describe ++ ", expected " ++ expected

/-- A line and a number of octets in it. -/
structure Position where
  line : Nat
  column : Nat
  deriving Repr, DecidableEq

/-- A cause, with a position if it was found in a text. -/
structure Fault where
  cause : Cause
  position : Option Position
  deriving Repr, DecidableEq

/-- The words for a fault. -/
def Fault.message (fault : Fault) : String :=
  match fault.position with
  | some position =>
      fault.cause.message ++ " at line " ++ toString position.line ++
        " column " ++ toString position.column
  | none => fault.cause.message

/--
The position after a number of octets of a text, counted on from a line and a
column.
-/
def positionFrom : Position → (octets : Nat) → List Char → Position
  | position, octets, [] => { position with column := position.column + octets }
  | position, octets, character :: rest =>
      if octets < character.utf8Size then
        { position with column := position.column + octets }
      else if character = '\n' then
        positionFrom ⟨position.line + 1, 0⟩ (octets - 1) rest
      else
        positionFrom
          { position with column := position.column + character.utf8Size }
          (octets - character.utf8Size) rest

/-- The position after a number of octets of a text. -/
def positionAfter (octets : Nat) (text : List Char) : Position :=
  positionFrom ⟨1, 0⟩ octets text

/-- A cause and the number of octets that had been read when it was found. -/
structure Stop where
  cause : Cause
  offset : Nat
  deriving Repr, DecidableEq

/-- A stop as a fault of a text. -/
def Stop.inText (stop : Stop) (text : List Char) : Fault where
  cause := stop.cause
  position := some (positionAfter stop.offset text)

/-- The text that is still to be read, and the number of octets before it. -/
structure Cursor where
  rest : List Char
  offset : Nat
  deriving Repr

namespace Cursor

/-- The cursor at the start of a text. -/
def start (text : List Char) : Cursor where
  rest := text
  offset := 0

/-- A stop where the cursor stands. -/
def stop (cursor : Cursor) (cause : Cause) : Stop where
  cause := cause
  offset := cursor.offset

/-- A stop behind the next octet, if there is one. -/
def stopPast (cursor : Cursor) (cause : Cause) : Stop where
  cause := cause
  offset := if cursor.rest.isEmpty then cursor.offset else cursor.offset + 1

/-- The cursor after some characters that have been read, each a single octet. -/
def past (cursor : Cursor) (rest : List Char) (octets : Nat) : Cursor where
  rest := rest
  offset := cursor.offset + octets

/-- The blanks between the parts of a document. -/
def isBlank (character : Char) : Bool :=
  character == ' ' || character == '\n' || character == '\t' ||
    character == '\r'

/-- The cursor after the blanks where it stands. -/
def skipBlanks (cursor : Cursor) : Cursor :=
  let blanks := cursor.rest.takeWhile isBlank
  cursor.past (cursor.rest.dropWhile isBlank) blanks.length

end Cursor

end Untrack.Json
