import Untrack.Text.Blank
import Untrack.Text.CharSet
import Untrack.Text.Property.Alphabetic
import Untrack.Text.Property.Number
import Untrack.Text.Property.Mark
import Untrack.Text.Property.Recent

namespace Untrack.Pattern

open Untrack.Text (CharSet)

/-!
# Assertions

What a pattern can require of a place in a text without reading on, and the
characters that it goes by: those of words, and white space.
-/

/-- The ASCII letters, digits and the low line. -/
def asciiWord : CharSet :=
  [⟨0x30, 0x39⟩, ⟨0x41, 0x5A⟩, ⟨0x5F, 0x5F⟩, ⟨0x61, 0x7A⟩]

/-- The decimal digits of all scripts but the recent ones. -/
def digitCharacters : CharSet :=
  Text.Property.decimalDigits.difference Text.Property.recent

/-- The characters that words are made of, without the recent ones. -/
def wordCharacters : CharSet :=
  (asciiWord ++ Text.Property.alphabetic ++ Text.Property.decimalDigits ++
    Text.Property.marks ++ Text.Property.connectors).difference
      Text.Property.recent

/-- The ASCII white space. -/
def asciiSpace : CharSet :=
  [⟨0x09, 0x0D⟩, ⟨0x20, 0x20⟩]

/-- White space in patterns, the same characters as in texts. -/
def spaceCharacters : CharSet :=
  [⟨0x09, 0x0D⟩, ⟨0x20, 0x20⟩, ⟨0x85, 0x85⟩, ⟨0xA0, 0xA0⟩, ⟨0x1680, 0x1680⟩,
    ⟨0x2000, 0x200A⟩, ⟨0x2028, 0x2029⟩, ⟨0x202F, 0x202F⟩, ⟨0x205F, 0x205F⟩,
    ⟨0x3000, 0x3000⟩]

/-- A pattern's white space is the white space of texts. -/
theorem has_spaceCharacters (character : Char) :
    spaceCharacters.has character = Text.isBlank character := by
  rw [Bool.eq_iff_iff]
  simp [spaceCharacters, Text.isBlank, CharSet.has, CharSet.hasCode,
    Text.CharRange.has]
  omega

/-- The ways in which a place can lie at a word. -/
inductive WordEdge where
  | boundary
  | inside
  | start
  | stop
  | startHalf
  | stopHalf
  deriving Repr, DecidableEq

/-- What can be required of a place in a text without reading on. -/
inductive Assertion where
  | textStart
  | textStop
  | lineStart
  | lineStop
  | crlfLineStart
  | crlfLineStop
  | word (edge : WordEdge) (unicode : Bool)
  deriving Repr, DecidableEq

namespace Assertion

/-- A character that exists belongs to a word. -/
def isWord (unicode : Bool) (character : Option Char) : Bool :=
  character.any (if unicode then wordCharacters else asciiWord).has

/-- The assertion holds between the character before and the one after. -/
def holds (assertion : Assertion) (before after : Option Char) : Bool :=
  match assertion with
  | .textStart => before.isNone
  | .textStop => after.isNone
  | .lineStart => before.isNone || before == some '\n'
  | .lineStop => after.isNone || after == some '\n'
  | .crlfLineStart =>
      before.isNone || before == some '\n' ||
        (before == some '\r' && after != some '\n')
  | .crlfLineStop =>
      after.isNone || after == some '\r' ||
        (after == some '\n' && before != some '\r')
  | .word edge unicode =>
      let left := isWord unicode before
      let right := isWord unicode after
      match edge with
      | .boundary => left != right
      | .inside => left == right
      | .start => !left && right
      | .stop => left && !right
      | .startHalf => !left
      | .stopHalf => !right

end Assertion

end Untrack.Pattern
