import Untrack.Text.Canonical.Class
import Untrack.Text.Property.Direction
import Untrack.Text.Property.Hidden
import Untrack.Text.Property.Joining
import Untrack.Text.Property.Mark

namespace Untrack.Host

/-!
# Labels of host names

A host name is made of labels between dots. Which characters a label can hold,
and how they may stand in it: no mark comes first, the two invisible joiners
stand only where they have something to join, and text does not run in both
directions at once.
-/

/-- Characters that count for nothing in a host name. -/
def ignorable : Text.CharSet :=
  [⟨0xAD, 0xAD⟩, ⟨0x34F, 0x34F⟩, ⟨0x115F, 0x1160⟩, ⟨0x17B4, 0x17B5⟩, ⟨0x180B, 0x180F⟩,
    ⟨0x200B, 0x200B⟩, ⟨0x2060, 0x2064⟩, ⟨0x206A, 0x206F⟩, ⟨0x3164, 0x3164⟩,
    ⟨0xFE00, 0xFE0F⟩, ⟨0xFEFF, 0xFEFF⟩, ⟨0xFFA0, 0xFFA0⟩, ⟨0x1BCA0, 0x1BCA3⟩,
    ⟨0x1D173, 0x1D17A⟩, ⟨0xE0100, 0xE01EF⟩]

/--
Characters that can be seen and yet have no place in a host name, most of them
because they write a sign that ends the name or a label of it.
-/
def misleading : Text.CharSet :=
  [⟨0xA8, 0xA8⟩, ⟨0xAF, 0xAF⟩, ⟨0xB4, 0xB4⟩, ⟨0xB8, 0xB8⟩, ⟨0x2D8, 0x2DD⟩, ⟨0x37A, 0x37A⟩,
    ⟨0x384, 0x385⟩, ⟨0x1FBD, 0x1FBD⟩, ⟨0x1FBF, 0x1FC1⟩, ⟨0x1FCD, 0x1FCF⟩, ⟨0x1FDD, 0x1FDF⟩,
    ⟨0x1FED, 0x1FEE⟩, ⟨0x1FFD, 0x1FFE⟩, ⟨0x2017, 0x2017⟩, ⟨0x2024, 0x2026⟩,
    ⟨0x203E, 0x203E⟩, ⟨0x2047, 0x2049⟩, ⟨0x2100, 0x2101⟩, ⟨0x2105, 0x2106⟩,
    ⟨0x2488, 0x249B⟩, ⟨0x2A74, 0x2A74⟩, ⟨0x2FF0, 0x2FFF⟩, ⟨0x309B, 0x309C⟩,
    ⟨0x31EF, 0x31EF⟩, ⟨0x33C2, 0x33C2⟩, ⟨0x33C7, 0x33C7⟩, ⟨0x33D8, 0x33D8⟩,
    ⟨0xFC5E, 0xFC63⟩, ⟨0xFDFA, 0xFDFB⟩, ⟨0xFE12, 0xFE13⟩, ⟨0xFE16, 0xFE16⟩,
    ⟨0xFE19, 0xFE19⟩, ⟨0xFE30, 0xFE30⟩, ⟨0xFE47, 0xFE4C⟩, ⟨0xFE52, 0xFE52⟩,
    ⟨0xFE55, 0xFE56⟩, ⟨0xFE5F, 0xFE5F⟩, ⟨0xFE68, 0xFE68⟩, ⟨0xFE6A, 0xFE6B⟩,
    ⟨0xFE70, 0xFE70⟩, ⟨0xFE72, 0xFE72⟩, ⟨0xFE74, 0xFE74⟩, ⟨0xFE76, 0xFE76⟩,
    ⟨0xFE78, 0xFE78⟩, ⟨0xFE7A, 0xFE7A⟩, ⟨0xFE7C, 0xFE7C⟩, ⟨0xFE7E, 0xFE7E⟩,
    ⟨0xFF03, 0xFF03⟩, ⟨0xFF05, 0xFF05⟩, ⟨0xFF0F, 0xFF0F⟩, ⟨0xFF1A, 0xFF1A⟩,
    ⟨0xFF1F, 0xFF20⟩, ⟨0xFF3B, 0xFF3E⟩, ⟨0xFF5C, 0xFF5C⟩, ⟨0xFFE3, 0xFFE3⟩,
    ⟨0xFFFC, 0xFFFD⟩, ⟨0x1F100, 0x1F100⟩]

/-- A code that host names take for a letter already, though it is not assigned yet. -/
def admitted : Text.CharSet :=
  [⟨0x558, 0x558⟩]

/-- The joiner that asks for letters not to be joined. -/
def separatingJoiner : Char :=
  Char.ofNat 0x200C

/-- The joiner that asks for letters to be joined. -/
def connectingJoiner : Char :=
  Char.ofNat 0x200D

/-- The character is one of the two joiners. -/
def isJoiner (character : Char) : Bool :=
  character == separatingJoiner || character == connectingJoiner

/-- An ASCII character that a host name cannot hold. -/
def isForbidden (character : Char) : Bool :=
  character.toNat ≤ 0x20 || character.toNat == 0x7F ||
    "%#/:<>?@[\\]^|".toList.contains character

/-- The character has no place in a host name. -/
def isRefused (character : Char) : Bool :=
  if character.toNat < 128 then
    isForbidden character
  else
    misleading.has character ||
      (Text.Property.unprintable.has character && !ignorable.has character &&
        !admitted.has character && !isJoiner character)

/-- The character fuses the consonants on both sides of it. -/
def isVirama (character : Char) : Bool :=
  Text.Canonical.combiningClass character.toNat == Text.Canonical.viramaClass

namespace Label

/-- The first character, other than a mark that letters join across, is of a class. -/
def beginsWith (inClass : Text.CharSet) (text : List Char) : Bool :=
  ((text.dropWhile Text.Property.joinedAcross.has).head?.map inClass.has).getD false

/--
A joiner may stand after a virama, and one that separates also between letters
that would join. The characters before it are given last first.
-/
def joinerFits (before : List Char) (joiner : Char) (after : List Char) : Bool :=
  before.head?.any isVirama ||
    (joiner == separatingJoiner &&
      beginsWith Text.Property.joinsOn before &&
      beginsWith Text.Property.joinsBack after)

/-- Every joiner of a text fits where it stands. -/
def joinersFit : (before text : List Char) → Bool
  | _, [] => true
  | before, character :: rest =>
      (!isJoiner character || joinerFits before character rest) &&
        joinersFit (character :: before) rest

/-- The label begins with no mark, holds nothing refused, and its joiners fit. -/
def isSound (label : List Char) : Bool :=
  !(label.head?.map Text.Property.marks.has).getD false &&
    !label.any isRefused && joinersFit [] label

end Label

/-- The direction that a character has in a label. -/
inductive Direction where
  | leftToRight
  | rightToLeft
  | arabicNumber
  | europeanNumber
  | attached
  | undirected
  deriving Repr, DecidableEq

/-- The direction of a character. -/
def Direction.of (character : Char) : Direction :=
  if Text.Property.rightToLeft.has character then .rightToLeft
  else if Text.Property.arabicNumbers.has character then .arabicNumber
  else if Text.Property.europeanNumbers.has character then .europeanNumber
  else if Text.Property.attached.has character then .attached
  else if Text.Property.undirected.has character then .undirected
  else .leftToRight

namespace Label

/-- The label holds text that runs from right to left. -/
def runsLeft (label : List Char) : Bool :=
  label.any fun character =>
    Direction.of character = .rightToLeft ||
      Direction.of character = .arabicNumber

/--
Within a name that holds text from right to left, every label runs in the one
direction in which it begins, and ends in that direction or with a number.
-/
def isOneWay (label : List Char) : Bool :=
  let directions := label.map Direction.of
  let last :=
    (directions.reverse.dropWhile (· = .attached)).head?
  match directions.head? with
  | none => true
  | some .leftToRight =>
      !directions.contains .rightToLeft &&
        !directions.contains .arabicNumber &&
        (last = some .leftToRight || last = some .europeanNumber)
  | some .rightToLeft =>
      !directions.contains .leftToRight &&
        !(directions.contains .arabicNumber &&
          directions.contains .europeanNumber) &&
        last != some .undirected
  | some _ => false

end Label

end Untrack.Host
