import Untrack.Json.Scalar

namespace Untrack.Json

/-!
# Reading values

`readValue` reads a value with all that is in it, at most `depthLimit` levels
deep. `skipValue` goes over a value that nobody asked for: it looks at its shape
alone, not at its depth, at the size of its numbers or at the pairing of units
in its strings.
-/

/-- The number of levels at which reading gives up. -/
def depthLimit : Nat := 128

/-- Read a value that consists of a word or a number, from its first character. -/
def readPlain (first : Char) (cursor : Cursor) : Except Stop (Value × Cursor) :=
  let after := cursor.past (cursor.rest.drop 1) 1
  match first with
  | 'n' => (readWord "ull".toList after).map (Value.null, ·)
  | 't' => (readWord "rue".toList after).map (Value.boolean true, ·)
  | 'f' => (readWord "alse".toList after).map (Value.boolean false, ·)
  | '-' => (readNumber true after).map fun (number, left) =>
      (Value.number number, left)
  | _ =>
      if first.isDigit then
        (readNumber false cursor).map fun (number, left) =>
          (Value.number number, left)
      else
        .error (cursor.stopPast .expectedValue)

/-- Read the colon between a name and its value. -/
def readColon (cursor : Cursor) : Except Stop Cursor :=
  let cursor := cursor.skipBlanks
  match cursor.rest with
  | ':' :: rest => .ok (cursor.past rest 1)
  | [] => .error (cursor.stopPast .eofInObject)
  | _ => .error (cursor.stopPast .expectedColon)

/--
Find the next item of a list: the cursor before it, or nothing where the closing
bracket stands.
-/
def nextItem? (first : Bool) (cursor : Cursor) :
    Except Stop (Option Cursor × Cursor) :=
  let cursor := cursor.skipBlanks
  match cursor.rest with
  | [] => .error (cursor.stopPast .eofInList)
  | ']' :: _ => .ok (none, cursor)
  | character :: rest =>
      if first then
        .ok (some cursor, cursor)
      else if character = ',' then
        let after := (cursor.past rest 1).skipBlanks
        match after.rest with
        | [] => .error (after.stopPast .eofInValue)
        | ']' :: _ => .error (after.stopPast .trailingComma)
        | _ => .ok (some after, after)
      else
        .error (cursor.stopPast .expectedCommaInList)

/--
Find the next name of an object and read it; nothing where the closing brace
stands.
-/
def nextName? (first : Bool) (cursor : Cursor) :
    Except Stop (Option String × Cursor) :=
  let cursor := cursor.skipBlanks
  let named (after : Cursor) : Except Stop (Option String × Cursor) :=
    (readString (after.past (after.rest.drop 1) 1)).map fun (name, left) =>
      (some name, left)
  match cursor.rest with
  | [] => .error (cursor.stopPast .eofInObject)
  | '\x7d' :: _ => .ok (none, cursor)
  | character :: rest =>
      if first then
        if character = '\x22' then
          named cursor
        else
          .error (cursor.stopPast .keyNotString)
      else if character = ',' then
        let after := (cursor.past rest 1).skipBlanks
        match after.rest with
        | [] => .error (after.stopPast .eofInValue)
        | '\x22' :: _ => named after
        | '\x7d' :: _ => .error (after.stopPast .trailingComma)
        | _ => .error (after.stopPast .keyNotString)
      else
        .error (cursor.stopPast .expectedCommaInObject)

mutual

/-- Read a value that may have `depth` levels, with fuel for the text. -/
def readValueFrom :
    (fuel depth : Nat) → Cursor → Except Stop (Value × Cursor)
  | 0, _, cursor => .error (cursor.stop .eofInValue)
  | fuel + 1, depth, cursor =>
      let cursor := cursor.skipBlanks
      match cursor.rest with
      | [] => .error (cursor.stopPast .eofInValue)
      | '\x22' :: rest =>
          (readString (cursor.past rest 1)).map fun (text, left) =>
            (Value.string text, left)
      | '[' :: rest =>
          if depth ≤ 1 then
            .error (cursor.stopPast .recursionLimit)
          else
            readItems fuel (depth - 1) true [] (cursor.past rest 1)
      | '\x7b' :: rest =>
          if depth ≤ 1 then
            .error (cursor.stopPast .recursionLimit)
          else
            readMembers fuel (depth - 1) true [] (cursor.past rest 1)
      | first :: _ => readPlain first cursor

/-- Read the items of a list up to its closing bracket. -/
def readItems :
    (fuel depth : Nat) → (first : Bool) → (soFar : List Value) → Cursor →
      Except Stop (Value × Cursor)
  | 0, _, _, _, cursor => .error (cursor.stop .eofInList)
  | fuel + 1, depth, first, soFar, cursor => do
      match ← nextItem? first cursor with
      | (none, cursor) =>
          .ok (.array soFar.reverse, cursor.past (cursor.rest.drop 1) 1)
      | (some _, cursor) => do
          let (value, cursor) ← readValueFrom fuel depth cursor
          readItems fuel depth false (value :: soFar) cursor

/-- Read the members of an object up to its closing brace. -/
def readMembers :
    (fuel depth : Nat) → (first : Bool) → (soFar : Entries Value) → Cursor →
      Except Stop (Value × Cursor)
  | 0, _, _, _, cursor => .error (cursor.stop .eofInObject)
  | fuel + 1, depth, first, soFar, cursor => do
      match ← nextName? first cursor with
      | (none, cursor) =>
          .ok (.object soFar, cursor.past (cursor.rest.drop 1) 1)
      | (some name, cursor) => do
          let cursor ← readColon cursor
          let (value, cursor) ← readValueFrom fuel depth cursor
          readMembers fuel depth false (Entries.put soFar name value) cursor

end

/-- Read a value inside what has left `depth` levels. -/
def readValue (depth : Nat) (cursor : Cursor) : Except Stop (Value × Cursor) :=
  readValueFrom (2 * cursor.rest.length + 2) depth cursor

/-- Only blanks are left. -/
def readEnd (cursor : Cursor) : Except Stop Unit :=
  let cursor := cursor.skipBlanks
  if cursor.rest.isEmpty then
    .ok ()
  else
    .error (cursor.stopPast .trailingCharacters)

/-- Read a text that is one value. -/
def parse (text : List Char) : Except Fault Value :=
  let reading : Except Stop Value := do
    let (value, cursor) ← readValue depthLimit (Cursor.start text)
    readEnd cursor
    .ok value
  reading.mapError (·.inText text)

/-- What is open while values are skipped. -/
inductive Bracket where
  | list
  | object
  deriving Repr, DecidableEq

/-- Skip a value that has no brackets. -/
def skipPlain (first : Char) (cursor : Cursor) : Except Stop Cursor :=
  let after := cursor.past (cursor.rest.drop 1) 1
  match first with
  | 'n' => readWord "ull".toList after
  | 't' => readWord "rue".toList after
  | 'f' => readWord "alse".toList after
  | '-' => skipNumber after
  | '\x22' => skipString after
  | _ =>
      if first.isDigit then
        skipNumber cursor
      else
        .error (cursor.stopPast .expectedValue)

/-- Skip a name and the colon after it. -/
def skipName (cursor : Cursor) : Except Stop Cursor :=
  let cursor := cursor.skipBlanks
  match cursor.rest with
  | '\x22' :: rest => do
      let cursor ← skipString (cursor.past rest 1)
      readColon cursor
  | [] => .error (cursor.stopPast .eofInObject)
  | _ => .error (cursor.stopPast .keyNotString)

mutual

/-- Skip a value with the brackets that are open around it, innermost first. -/
def skipFrom : (fuel : Nat) → List Bracket → Cursor → Except Stop Cursor
  | 0, _, cursor => .error (cursor.stop .eofInValue)
  | fuel + 1, around, cursor =>
      let cursor := cursor.skipBlanks
      match cursor.rest with
      | [] => .error (cursor.stopPast .eofInValue)
      | '[' :: rest => skipWithin fuel false .list around (cursor.past rest 1)
      | '\x7b' :: rest =>
          skipWithin fuel false .object around (cursor.past rest 1)
      | first :: _ => do
          let cursor ← skipPlain first cursor
          skipAfter fuel around cursor

/-- Go on after a value, in whatever is open around it. -/
def skipAfter : (fuel : Nat) → List Bracket → Cursor → Except Stop Cursor
  | _, [], cursor => .ok cursor
  | 0, _, cursor => .error (cursor.stop .eofInValue)
  | fuel + 1, bracket :: around, cursor =>
      skipWithin fuel true bracket around cursor

/-- Go on inside a bracket, behind a value of it or behind its opening sign. -/
def skipWithin :
    (fuel : Nat) → (afterValue : Bool) → Bracket → List Bracket → Cursor →
      Except Stop Cursor
  | 0, _, _, _, cursor => .error (cursor.stop .eofInValue)
  | fuel + 1, afterValue, bracket, around, cursor =>
      let cursor := cursor.skipBlanks
      let item (cursor : Cursor) : Except Stop Cursor :=
        match bracket with
        | .list => skipFrom fuel (bracket :: around) cursor
        | .object => do
            let cursor ← skipName cursor
            skipFrom fuel (bracket :: around) cursor
      match cursor.rest with
      | [] =>
          .error (cursor.stopPast
            (match bracket with
            | .list => .eofInList
            | .object => .eofInObject))
      | sign :: rest =>
          if sign = ',' ∧ afterValue then
            item (cursor.past rest 1)
          else if (sign = ']' ∧ bracket = .list) ∨
              (sign = '\x7d' ∧ bracket = .object) then
            skipAfter fuel around (cursor.past rest 1)
          else if afterValue then
            .error (cursor.stopPast
              (match bracket with
              | .list => .expectedCommaInList
              | .object => .expectedCommaInObject))
          else
            item cursor

end

/-- Skip a value. -/
def skipValue (cursor : Cursor) : Except Stop Cursor :=
  skipFrom (4 * cursor.rest.length + 4) [] cursor

end Untrack.Json
