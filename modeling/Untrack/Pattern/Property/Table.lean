import Untrack.Text.Blank
import Untrack.Text.CharSet
import Untrack.Text.Percent

namespace Untrack.Pattern.Property

open Untrack.Text (CharSet)

/-!
# Tables of characters

The properties of characters that patterns can ask for are those of edition 16 of
Unicode. Their tables are written as texts: code points in hexadecimal, ranges of
them such as `41-5A`, and runs such as `100~136`, where every other code point is
left out. What follows from other properties is not in the tables but is put
together from them.
-/

/-- The code point that hexadecimal digits write. -/
def codeOf (digits : List Char) : Nat :=
  digits.foldl
    (fun code digit => 16 * code + (Text.Percent.hexValue? digit).getD 0) 0

/-- The code points from `low` to `high` that are an even distance from `low`. -/
def everyOther (low high : Nat) : CharSet :=
  CharSet.ofCodes <|
    (List.range ((high - low) / 2 + 1)).map fun index => low + 2 * index

/-- The code points of one entry of a table. -/
def entry (text : List Char) : CharSet :=
  let low := codeOf (text.takeWhile (·.isAlphanum))
  match text.dropWhile (·.isAlphanum) with
  | '-' :: high => [⟨low, codeOf high⟩]
  | '~' :: high => everyOther low (codeOf high)
  | _ => CharSet.single low

/-- The characters that a table lists. -/
def ranges (table : String) : CharSet :=
  ((table.toList.splitOnP Text.isBlank).filter (!·.isEmpty)).flatMap entry

/-- Characters that have something in common, with the names for it. -/
structure Named where
  /-- The names, in small letters and without what separates words. -/
  names : List String
  characters : CharSet
  deriving Repr

/-- The characters that go by a name. -/
def characters? (table : List Named) (name : String) : Option CharSet :=
  (table.find? (·.names.contains name)).map (·.characters)

end Untrack.Pattern.Property
