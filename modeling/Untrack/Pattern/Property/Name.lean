import Untrack.Pattern.Property.Break

namespace Untrack.Pattern.Property

open Untrack.Text (CharSet)

/-!
# Names of properties

Names are compared in loose form: in small letters, without what separates words and
without a leading `is`. A text names a property that characters have or have not, a
category or a script, or it names a property and the value that it is to have.
-/

/-- The ASCII letters and signs of a name but for what separates words. -/
def looseLetters (text : List Char) : List Char :=
  (text.filter fun character =>
    character.toNat < 0x80 && character != ' ' && character != '_' &&
      character != '-').map Char.toLower

/-- A name in loose form. -/
def loose (text : List Char) : String :=
  match text with
  | first :: second :: rest =>
      if first.toLower = 'i' ∧ second.toLower = 's' then
        -- What is called `isc` is not the category `c`.
        if looseLetters rest = ['c'] then "isc" else .ofList (looseLetters rest)
      else
        .ofList (looseLetters text)
  | _ => .ofList (looseLetters text)

/-- What stands before and after the first place of a sign. -/
def cut? (sign : List Char) : List Char → Option (List Char × List Char)
  | [] => none
  | character :: rest =>
      if sign.isPrefixOf (character :: rest) then
        some ([], (character :: rest).drop sign.length)
      else
        (cut? sign rest).map fun (before, after) => (character :: before, after)

/-- The characters for which a property has a value. -/
def ofValue? (name value : String) : Option CharSet :=
  match name with
  | "gc" | "generalcategory" => characters? categories value
  | "sc" | "script" => characters? scriptTable value
  | "scx" | "scriptextensions" => characters? extensionTable value
  | "age" => age? value
  | "gcb" | "graphemeclusterbreak" => characters? signParts value
  | "wb" | "wordbreak" => characters? wordParts value
  | "sb" | "sentencebreak" => characters? sentenceParts value
  | _ => none

/-- The characters that have a property, or that are of a category or a script. -/
def ofName? (name : String) : Option CharSet :=
  characters? binaries name <|> characters? categories name <|>
    characters? scriptTable name

/--
The characters that a text asks for. Between a property and its value stands `=`,
`:` or `!=`, and all three say the same.
-/
def ofText? (text : List Char) : Option CharSet :=
  match cut? ['!', '='] text <|> cut? [':'] text <|> cut? ['='] text with
  | some (name, value) => ofValue? (loose name) (loose value)
  | none => ofName? (loose text)

end Untrack.Pattern.Property
