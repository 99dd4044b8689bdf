import Untrack.Text.PlainForm.Letter
import Untrack.Text.PlainForm.Word

namespace Untrack.Text.PlainForm

/-!
# Plain forms

Many characters are only another way to write other text. The plain form of such
a character is that text, in small letters.
-/

/-- The text that a character is another way to write, if it is one of these. -/
def find? (character : Char) : Option (List Char) :=
  let code := character.toNat
  ((letter? code).map fun target => [Char.ofNat target]).or
    ((word? code).map String.toList)

end Untrack.Text.PlainForm
