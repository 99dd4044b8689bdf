import Untrack.Text.Percent

namespace Untrack.Text.Form

/-!
# Form fields

A query written as form data: fields stand between `&`, the name of a field
ends at its first `=`, a plus sign is a space, and both parts are percent coded.
A field with no text at all is none.
-/

/-- Decode the name or the value of a field. -/
def decodePart (part : List Char) : List Char :=
  Percent.decodeOnce (part.map fun character =>
    if character = '+' then ' ' else character)

/-- Split one field at its first equals sign; without one its value is empty. -/
def splitField (field : List Char) : List Char × List Char :=
  (field.takeWhile (· != '='), (field.dropWhile (· != '=')).drop 1)

/-- The decoded name and value of one field. -/
def readField (field : List Char) : List Char × List Char :=
  let (name, value) := splitField field
  (decodePart name, decodePart value)

/-- The segments of a query that hold some text, as they stand. -/
def segments (query : List Char) : List (List Char) :=
  (query.splitOn '&').filter (!·.isEmpty)

/-- The decoded fields of a query, in order. -/
def fields (query : List Char) : List (List Char × List Char) :=
  (segments query).map readField

end Untrack.Text.Form
