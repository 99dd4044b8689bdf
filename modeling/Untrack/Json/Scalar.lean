import Untrack.Json.Fault
import Untrack.Text.Percent
import Untrack.Text.Utf8

namespace Untrack.Json

/-!
# Words, strings and numbers

The readers of what a JSON document is made of at its ends. Each stops at the
octet that shows the text to be wrong.
-/

/-- Read the rest of a word whose first letter has been read. -/
def readWord : (letters : List Char) → Cursor → Except Stop Cursor
  | [], cursor => .ok cursor
  | letter :: letters, cursor =>
      match cursor.rest with
      | [] => .error (cursor.stop .eofInValue)
      | character :: rest =>
          if character = letter then
            readWord letters (cursor.past rest 1)
          else
            .error (cursor.stopPast .expectedWord)

/-- Read four hexadecimal digits. -/
def readHexEscape (cursor : Cursor) : Except Stop (Nat × Cursor) :=
  if Text.Utf8.size (cursor.rest.take 4) < 4 then
    .error
      ⟨.eofInString, cursor.offset + Text.Utf8.size (cursor.rest.take 4)⟩
  else
    match (cursor.rest.take 4).mapM Text.Percent.hexValue? with
    | some digits =>
        .ok (digits.foldl (fun value digit => 16 * value + digit) 0,
          cursor.past (cursor.rest.drop 4) 4)
    | none => .error ⟨.invalidEscape, cursor.offset + 4⟩

/-- A unit that must be followed by another to make a character. -/
def isLeadingUnit (unit : Nat) : Bool :=
  0xD800 ≤ unit && unit ≤ 0xDBFF

/-- A unit that must come after another to make a character. -/
def isTrailingUnit (unit : Nat) : Bool :=
  0xDC00 ≤ unit && unit ≤ 0xDFFF

/-- Read the octet that has to come next in a pair of units. -/
def readPairSign (sign : Char) (cursor : Cursor) : Except Stop Cursor :=
  match cursor.rest with
  | [] => .error (cursor.stop .eofInString)
  | character :: rest =>
      if character = sign then
        .ok (cursor.past rest 1)
      else
        .error (cursor.stopPast .endOfHexEscape)

/-- Read the character that `\u` stands for, from after these two signs. -/
def readUnicodeEscape (cursor : Cursor) : Except Stop (Char × Cursor) := do
  let (unit, cursor) ← readHexEscape cursor
  if isTrailingUnit unit then
    .error (cursor.stop .loneSurrogate)
  else if isLeadingUnit unit then do
    let cursor ← readPairSign '\\' cursor
    let cursor ← readPairSign 'u' cursor
    let (trailing, cursor) ← readHexEscape cursor
    if isTrailingUnit trailing then
      .ok (Char.ofNat
        (0x10000 + (unit - 0xD800) * 0x400 + (trailing - 0xDC00)), cursor)
    else
      .error (cursor.stop .loneSurrogate)
  else
    .ok (Char.ofNat unit, cursor)

/-- The character that a letter after a backslash stands for. -/
def escaped? : Char → Option Char
  | '\x22' => some '\x22'
  | '\\' => some '\\'
  | '/' => some '/'
  | 'b' => some '\x08'
  | 'f' => some '\x0c'
  | 'n' => some '\n'
  | 'r' => some '\r'
  | 't' => some '\t'
  | _ => none

/-- Read an escape from after its backslash. -/
def readEscape (cursor : Cursor) : Except Stop (Char × Cursor) :=
  match cursor.rest with
  | [] => .error (cursor.stop .eofInString)
  | 'u' :: rest => readUnicodeEscape (cursor.past rest 1)
  | letter :: rest =>
      match escaped? letter with
      | some character => .ok (character, cursor.past rest 1)
      | none => .error (cursor.stopPast .invalidEscape)

/--
Read a string from after its opening quotation mark, onto the characters read so
far, latest first. The fuel is the length of the text.
-/
def readCharacters :
    (fuel : Nat) → (soFar : List Char) → Cursor → Except Stop (String × Cursor)
  | fuel + 1, soFar, cursor =>
      match cursor.rest with
      | [] => .error (cursor.stop .eofInString)
      | '\x22' :: rest =>
          .ok (String.ofList soFar.reverse, cursor.past rest 1)
      | '\\' :: rest => do
          let (character, cursor) ← readEscape (cursor.past rest 1)
          readCharacters fuel (character :: soFar) cursor
      | character :: rest =>
          if character.toNat < 0x20 then
            .error (cursor.stopPast .controlCharacter)
          else
            readCharacters fuel (character :: soFar)
              (cursor.past rest character.utf8Size)
  | 0, _, cursor => .error (cursor.stop .eofInString)

/-- Read a string from after its opening quotation mark. -/
def readString (cursor : Cursor) : Except Stop (String × Cursor) :=
  readCharacters (cursor.rest.length + 1) [] cursor

/-- Skip an escape: four digits after `\u` may stand for anything. -/
def skipEscape (cursor : Cursor) : Except Stop Cursor :=
  match cursor.rest with
  | [] => .error (cursor.stop .eofInString)
  | 'u' :: rest => (readHexEscape (cursor.past rest 1)).map (·.2)
  | letter :: rest =>
      if (escaped? letter).isSome then
        .ok (cursor.past rest 1)
      else
        .error (cursor.stopPast .invalidEscape)

/-- Skip a string from after its opening quotation mark. -/
def skipCharacters : (fuel : Nat) → Cursor → Except Stop Cursor
  | fuel + 1, cursor =>
      match cursor.rest with
      | [] => .error (cursor.stop .eofInString)
      | '\x22' :: rest => .ok (cursor.past rest 1)
      | '\\' :: rest => do
          let cursor ← skipEscape (cursor.past rest 1)
          skipCharacters fuel cursor
      | character :: rest =>
          if character.toNat < 0x20 then
            .error (cursor.stop .controlCharacter)
          else
            skipCharacters fuel (cursor.past rest character.utf8Size)
  | 0, cursor => .error (cursor.stop .eofInString)

/-- Skip a string from after its opening quotation mark. -/
def skipString (cursor : Cursor) : Except Stop Cursor :=
  skipCharacters (cursor.rest.length + 1) cursor

/-- The value of a decimal digit. -/
def digitValue (digit : Char) : Nat :=
  digit.toNat - 0x30

/-- The digits where a cursor stands, and the cursor after them. -/
def spanDigits (cursor : Cursor) : List Char × Cursor :=
  let digits := cursor.rest.takeWhile Char.isDigit
  (digits, cursor.past (cursor.rest.dropWhile Char.isDigit) digits.length)

/--
Take digits onto a whole number for as long as it stays below 2^64. The result
is the number, how many digits it took, and how many were left out.
-/
def gather : (whole taken : Nat) → List Char → Nat × Nat × Nat
  | whole, taken, [] => (whole, taken, 0)
  | whole, taken, digit :: digits =>
      let next := 10 * whole + digitValue digit
      if next < 0x10000000000000000 then
        gather next (taken + 1) digits
      else
        (whole, taken, digits.length + 1)

/-- A number that is not whole, from its parts. -/
def realNumber
    (isNegative : Bool)
    (whole : Nat)
    (power : Int)
    (cursor : Cursor) :
    Except Stop (Number × Cursor) :=
  match Decimal.Binary64.scaled? whole power with
  | some size => .ok (.real isNegative size, cursor)
  | none => .error (cursor.stop .numberOutOfRange)

/-- The least number that an exponent cannot name. -/
def exponentLimit : Nat := 0x80000000

/--
Take digits onto an exponent; the fuel is the length of the text. An exponent
that is too large ends at the digit that makes it so.
-/
def gatherExponent :
    (fuel : Nat) → (exponent : Nat) → Cursor → Option Nat × Cursor
  | fuel + 1, exponent, cursor =>
      match cursor.rest with
      | digit :: rest =>
          if digit.isDigit then
            let next := 10 * exponent + digitValue digit
            if next < exponentLimit then
              gatherExponent fuel next (cursor.past rest 1)
            else
              (none, cursor.past rest 1)
          else
            (some exponent, cursor)
      | [] => (some exponent, cursor)
  | 0, exponent, cursor => (some exponent, cursor)

/-- Read an exponent from after its letter. -/
def readExponent
    (isNegative : Bool)
    (whole : Nat)
    (power : Int)
    (cursor : Cursor) :
    Except Stop (Number × Cursor) :=
  let (lowers, cursor) : Bool × Cursor :=
    match cursor.rest with
    | '+' :: rest => (false, cursor.past rest 1)
    | '-' :: rest => (true, cursor.past rest 1)
    | _ => (false, cursor)
  match cursor.rest with
  | [] => .error (cursor.stop .eofInValue)
  | first :: _ =>
      if first.isDigit then
        match gatherExponent cursor.rest.length 0 cursor with
        | (some exponent, cursor) =>
            realNumber isNegative whole
              (if lowers then power - exponent else power + exponent) cursor
        | (none, cursor) =>
            if whole ≠ 0 ∧ !lowers then
              .error (cursor.stop .numberOutOfRange)
            else
              .ok (.real isNegative Decimal.Binary64.zero,
                (spanDigits cursor).2)
      else
        .error (cursor.stopPast .invalidNumber)

/-- Read an exponent if there is one. -/
def readMaybeExponent
    (isNegative : Bool)
    (whole : Nat)
    (power : Int)
    (cursor : Cursor) :
    Except Stop (Number × Cursor) :=
  match cursor.rest with
  | 'e' :: rest => readExponent isNegative whole power (cursor.past rest 1)
  | 'E' :: rest => readExponent isNegative whole power (cursor.past rest 1)
  | _ => realNumber isNegative whole power cursor

/-- Read the digits after a point, from after it. -/
def readFraction
    (isNegative : Bool)
    (whole : Nat)
    (power : Int)
    (cursor : Cursor) :
    Except Stop (Number × Cursor) :=
  match spanDigits cursor with
  | ([], cursor) =>
      if cursor.rest.isEmpty then
        .error (cursor.stop .eofInValue)
      else
        .error (cursor.stopPast .invalidNumber)
  | (digits, cursor) =>
      let (whole, taken, _) := gather whole 0 digits
      readMaybeExponent isNegative whole (power - taken) cursor

/-- A whole number, as far as whole numbers reach. -/
def wholeNumber (isNegative : Bool) (whole : Nat) : Number :=
  if !isNegative then
    .natural whole
  else if whole = 0 ∨ 0x8000000000000000 < whole then
    .real true
      ((Decimal.Binary64.nearest? whole 1).getD Decimal.Binary64.zero)
  else
    .negative whole

/-- Read what can follow the digits before the point. -/
def readAfterWhole
    (isNegative : Bool)
    (whole : Nat)
    (cursor : Cursor) :
    Except Stop (Number × Cursor) :=
  match cursor.rest with
  | '.' :: rest => readFraction isNegative whole 0 (cursor.past rest 1)
  | 'e' :: rest => readExponent isNegative whole 0 (cursor.past rest 1)
  | 'E' :: rest => readExponent isNegative whole 0 (cursor.past rest 1)
  | _ => .ok (wholeNumber isNegative whole, cursor)

/-- Read a number from after its sign. -/
def readNumber (isNegative : Bool) (cursor : Cursor) : Except Stop (Number × Cursor) :=
  match cursor.rest with
  | [] => .error (cursor.stop .eofInValue)
  | '0' :: rest =>
      let cursor := cursor.past rest 1
      if rest.head?.any Char.isDigit then
        .error (cursor.stopPast .invalidNumber)
      else
        readAfterWhole isNegative 0 cursor
  | first :: _ =>
      if first.isDigit then
        let (digits, cursor) := spanDigits cursor
        match gather 0 0 digits with
        | (whole, _, 0) => readAfterWhole isNegative whole cursor
        | (whole, _, left) =>
            match cursor.rest with
            | '.' :: rest =>
                let after := cursor.past rest 1
                match spanDigits after with
                | ([], _) => readFraction isNegative whole left after
                | (digits, cursor) =>
                    let (whole, taken, _) := gather whole 0 digits
                    readMaybeExponent isNegative whole (left - taken) cursor
            | _ => readMaybeExponent isNegative whole left cursor
      else
        .error (cursor.stopPast .invalidNumber)

/-- Skip the exponent of a number from after its letter. -/
def skipExponent (cursor : Cursor) : Except Stop Cursor :=
  let cursor :=
    match cursor.rest with
    | '+' :: rest => cursor.past rest 1
    | '-' :: rest => cursor.past rest 1
    | _ => cursor
  match spanDigits cursor with
  | ([], cursor) => .error (cursor.stopPast .invalidNumber)
  | (_, cursor) => .ok cursor

/-- Skip an exponent if there is one. -/
def skipMaybeExponent (cursor : Cursor) : Except Stop Cursor :=
  match cursor.rest with
  | 'e' :: rest => skipExponent (cursor.past rest 1)
  | 'E' :: rest => skipExponent (cursor.past rest 1)
  | _ => .ok cursor

/-- Skip what can follow the digits before the point. -/
def skipAfterWhole (cursor : Cursor) : Except Stop Cursor :=
  match cursor.rest with
  | '.' :: rest =>
      match spanDigits (cursor.past rest 1) with
      | ([], cursor) => .error (cursor.stopPast .invalidNumber)
      | (_, cursor) => skipMaybeExponent cursor
  | _ => skipMaybeExponent cursor

/-- Skip a number from after its sign. -/
def skipNumber (cursor : Cursor) : Except Stop Cursor :=
  match cursor.rest with
  | '0' :: rest =>
      let cursor := cursor.past rest 1
      if rest.head?.any Char.isDigit then
        .error (cursor.stopPast .invalidNumber)
      else
        skipAfterWhole cursor
  | _ =>
      match spanDigits cursor with
      | ([], cursor) => .error (cursor.stopPast .invalidNumber)
      | (_, cursor) => skipAfterWhole cursor

end Untrack.Json
