import Untrack.Json.Reader

namespace Untrack.Json

/-!
# Records

A record has named fields. In a document it is an object, or a list that holds
the fields in their order; members of an object that are no fields are skipped.
No field may come twice.

A record is read either from a text or from a value that has been read before.
The two differ in what they can still tell: a fault of a text has a position.
-/

/-- How a record of type `α` is read; `β` is the type of what a field holds. -/
structure Record (α β : Type) where
  /-- The record as it is named in messages. -/
  name : String
  fields : List String
  /-- Read what a field holds, inside what has left some levels. -/
  readField : (field : String) → (depth : Nat) → Cursor →
    Except Stop (β × Cursor)
  /-- Take what a field holds from a value. -/
  fieldOfValue : (field : String) → Value → Except Cause β
  /-- Make the record of the fields that were there. -/
  build : (fromList : Bool) → Entries β → Except Cause α

/-- Stop at a value of a kind that is not wanted, as far as it has to be read. -/
def refuse (expected : String) (cursor : Cursor) : Stop :=
  let found (kind : Found) (cursor : Cursor) : Stop :=
    cursor.stop (.invalidType kind expected)
  match cursor.rest with
  | '[' :: _ => found .sequence cursor
  | '\x7b' :: _ => found .map cursor
  | '\x22' :: rest =>
      match readString (cursor.past rest 1) with
      | .ok (text, after) => found (.string text) after
      | .error stop => stop
  | first :: _ =>
      match readPlain first cursor with
      | .ok (value, after) => found value.found after
      | .error stop => stop
  | [] => cursor.stop .eofInValue

/-- Read a string and nothing else. -/
def readText (cursor : Cursor) : Except Stop (String × Cursor) :=
  let cursor := cursor.skipBlanks
  match cursor.rest with
  | [] => .error (cursor.stopPast .eofInValue)
  | '\x22' :: rest => readString (cursor.past rest 1)
  | _ => .error (refuse "a string" cursor)

/-- Read the strings of a list up to its closing bracket. -/
def readTexts :
    (fuel : Nat) → (first : Bool) → (soFar : List String) → Cursor →
      Except Stop (List String × Cursor)
  | 0, _, _, cursor => .error (cursor.stop .eofInList)
  | fuel + 1, first, soFar, cursor => do
      match ← nextItem? first cursor with
      | (none, cursor) =>
          .ok (soFar.reverse, cursor.past (cursor.rest.drop 1) 1)
      | (some _, cursor) => do
          let (text, cursor) ← readText cursor
          readTexts fuel false (text :: soFar) cursor

/-- Read a list of strings, or null in its place. -/
def readOptionalTexts (cursor : Cursor) :
    Except Stop (Option (List String) × Cursor) :=
  let cursor := cursor.skipBlanks
  match cursor.rest with
  | [] => .error (cursor.stopPast .eofInValue)
  | 'n' :: rest =>
      (readWord "ull".toList (cursor.past rest 1)).map (none, ·)
  | '[' :: rest =>
      (readTexts (rest.length + 1) true [] (cursor.past rest 1)).map
        fun (texts, left) => (some texts, left)
  | _ => .error (refuse "a sequence" cursor)

/-- A value that is a string. -/
def textOfValue : Value → Except Cause String
  | .string text => .ok text
  | value => .error (.invalidType value.found "a string")

/-- A value that is a list of strings, or null in its place. -/
def optionalTextsOfValue : Value → Except Cause (Option (List String))
  | .null => .ok none
  | .array items => (items.mapM textOfValue).map some
  | value => .error (.invalidType value.found "a sequence")

namespace Record

variable {α β : Type}

/-- Where a list ends when its reader gives up: past what can still be read. -/
def pastList (cursor : Cursor) : Cursor :=
  let cursor := cursor.skipBlanks
  match cursor.rest with
  | ']' :: rest => cursor.past rest 1
  | ',' :: rest => (cursor.past rest 1).skipBlanks
  | _ => cursor

/-- Where an object ends when its reader gives up. -/
def pastObject (cursor : Cursor) : Cursor :=
  let cursor := cursor.skipBlanks
  match cursor.rest with
  | '\x7d' :: rest => cursor.past rest 1
  | _ => cursor

/-- Read the closing bracket of a list whose fields have all been read. -/
def closeList (cursor : Cursor) : Except Stop Cursor :=
  let cursor := cursor.skipBlanks
  match cursor.rest with
  | [] => .error (cursor.stopPast .eofInList)
  | ']' :: rest => .ok (cursor.past rest 1)
  | ',' :: rest =>
      let after := (cursor.past rest 1).skipBlanks
      if after.rest.head? = some ']' then
        .error (after.stopPast .trailingComma)
      else
        .error (after.stopPast .trailingCharacters)
  | _ => .error (cursor.stopPast .trailingCharacters)

/-- Read fields from a list, in order, as far as it holds any. -/
def readListed
    (record : Record α β)
    (depth : Nat) :
    (fields : List String) → (first : Bool) → Entries β → Cursor →
      Except Stop (Entries β × Cursor)
  | [], _, seen, cursor => .ok (seen, cursor)
  | field :: fields, first, seen, cursor => do
      match ← nextItem? first cursor with
      | (none, cursor) => .ok (seen, cursor)
      | (some _, cursor) => do
          let (content, cursor) ← record.readField field depth cursor
          readListed record depth fields false
            (seen ++ [(field, content)]) cursor

/-- Read fields from an object, up to its closing brace. -/
def readNamed
    (record : Record α β)
    (depth : Nat) :
    (fuel : Nat) → (first : Bool) → Entries β → Cursor →
      Except Stop (Entries β × Cursor)
  | 0, _, _, cursor => .error (cursor.stop .eofInObject)
  | fuel + 1, first, seen, cursor => do
      match ← nextName? first cursor with
      | (none, cursor) => .ok (seen, cursor)
      | (some name, cursor) =>
          if name ∈ record.fields then
            if seen.hasName name then
              .error ((pastObject cursor).stop (.duplicateField name))
            else do
              let cursor ← readColon cursor
              let (content, cursor) ← record.readField name depth cursor
              readNamed record depth fuel false
                (seen ++ [(name, content)]) cursor
          else do
            let cursor ← readColon cursor
            let cursor ← skipValue cursor
            readNamed record depth fuel false seen cursor

/-- Read a record. -/
def read
    (record : Record α β)
    (depth : Nat)
    (cursor : Cursor) :
    Except Stop (α × Cursor) :=
  let cursor := cursor.skipBlanks
  match cursor.rest with
  | [] => .error (cursor.stopPast .eofInValue)
  | '[' :: rest => do
      let (seen, cursor) ←
        readListed record (depth - 1) record.fields true []
          (cursor.past rest 1)
      match record.build true seen with
      | .ok value => do
          let cursor ← closeList cursor
          .ok (value, cursor)
      | .error cause => .error ((pastList cursor).stop cause)
  | '\x7b' :: rest => do
      let (seen, cursor) ←
        readNamed record (depth - 1) (rest.length + 1) true []
          (cursor.past rest 1)
      match record.build false seen with
      | .ok value => .ok (value, cursor.past (cursor.rest.drop 1) 1)
      | .error cause => .error ((pastObject cursor).stop cause)
  | _ => .error (refuse record.name cursor)

/-- Read a text that is one record. -/
def parse (record : Record α β) (text : List Char) : Except Fault α :=
  let reading : Except Stop α := do
    let (value, cursor) ← record.read depthLimit (Cursor.start text)
    readEnd cursor
    .ok value
  reading.mapError (·.inText text)

/-- Take fields from the items of a list, in order. -/
def listedOfValues
    (record : Record α β) :
    (fields : List String) → List Value → Entries β →
      Except Cause (Entries β)
  | field :: fields, value :: values, seen => do
      let content ← record.fieldOfValue field value
      listedOfValues record fields values (seen ++ [(field, content)])
  | _, _, seen => .ok seen

/-- Take fields from the members of an object, in the order of the members. -/
def namedOfMembers
    (record : Record α β) :
    List (String × Value) → Entries β → Except Cause (Entries β)
  | (name, value) :: members, seen =>
      if name ∈ record.fields then do
        let content ← record.fieldOfValue name value
        namedOfMembers record members (seen ++ [(name, content)])
      else
        namedOfMembers record members seen
  | [], seen => .ok seen

/-- Take a record from a value. -/
def ofValue (record : Record α β) : Value → Except Cause α
  | .array items => do
      let seen ← listedOfValues record record.fields items []
      let value ← record.build true seen
      if record.fields.length < items.length then
        .error (.invalidLength items.length "fewer elements in array")
      else
        .ok value
  | .object members => do
      let seen ← namedOfMembers record members []
      record.build false seen
  | value => .error (.invalidType value.found record.name)

end Record

end Untrack.Json
