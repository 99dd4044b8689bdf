import Untrack.Text.Property.Hidden

namespace Untrack.Text.Quoted

/-!
# Quoted text

A text between quotation marks in which every character can be seen: quotation
marks and backslashes are preceded by a backslash, a few controls have a letter,
and whatever is not shown, or only extends the character before it, is written
as its code in braces.
-/

/-- The lower-case hexadecimal digits of a number. -/
def hexDigits (number : Nat) : List Char :=
  Nat.toDigits 16 number

/-- How one character stands in a quoted text. -/
def escape (character : Char) : List Char :=
  if character = '\x22' then ['\\', '\x22']
  else if character = '\\' then ['\\', '\\']
  else if character = '\n' then ['\\', 'n']
  else if character = '\r' then ['\\', 'r']
  else if character = '\t' then ['\\', 't']
  else if character = '\x00' then ['\\', '0']
  else if 0x20 ≤ character.toNat ∧ character.toNat < 0x7F then [character]
  else if Property.extending.has character ||
      Property.unprintable.has character then
    ['\\', 'u', '\x7b'] ++ hexDigits character.toNat ++ ['\x7d']
  else
    [character]

/-- A text in quotation marks. -/
def quote (text : String) : String :=
  String.ofList (['\x22'] ++ text.toList.flatMap escape ++ ['\x22'])

end Untrack.Text.Quoted
