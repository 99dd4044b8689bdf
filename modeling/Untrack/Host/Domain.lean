import Untrack.Host.Label
import Untrack.Host.Punycode
import Untrack.Text.Canonical.Form
import Untrack.Text.CaseFold
import Untrack.Text.PlainForm.Basic

namespace Untrack.Host

/-!
# Host names in ASCII

A host name may be typed in any script, in capitals and in fancy letters. `ascii?`
settles its one ASCII form: every character is replaced by its plain form or its
small letter, ignorable ones go, the text takes its canonical form, and a label
that is still not ASCII is written in Punycode after `xn--`. A label that already
begins so has to read back as a sound label in that form.
-/

/-- The small letter of a capital; a final sigma is a letter of its own. -/
def smallLetter (character : Char) : Char :=
  let code := character.toNat
  if code = 0x3C2 then
    character
  else
    ((Text.CaseFold.runs.find? (·.has code)).map fun run =>
      Char.ofNat (run.fold code)).getD character

/-- What a character writes; most characters write their small letter. -/
def plain (character : Char) : List Char :=
  (Text.PlainForm.find? character).getD [smallLetter character]

/-- What a character writes, or else what its parts write. -/
def spelled (character : Char) : List Char :=
  if plain character = [character] then
    (Text.Canonical.decompose character.toNat).flatMap fun code =>
      plain (Char.ofNat code)
  else
    plain character

/-- What stands for a character in a host name; none if it has no place there. -/
def mapped? (character : Char) : Option (List Char) :=
  if character.toNat < 128 then
    some [character.toLower]
  else if ignorable.has character then
    some []
  else if isRefused character then
    none
  else
    some (spelled character)

/-- The text with every character replaced, in its canonical form. -/
def mapText? (text : List Char) : Option (List Char) :=
  (text.mapM mapped?).map fun parts => Text.Canonical.normalize parts.flatten

/-- What a label in Punycode begins with. -/
def punycodeMark : List Char :=
  "xn--".toList

/-- The most characters that a label in Punycode has after its mark. -/
def maxPunycode : Nat := 2000

/-- The most characters that a label has where they are not all ASCII. -/
def maxCharacters : Nat := 1000

/-- Every character is ASCII. -/
def isAscii (text : List Char) : Bool :=
  text.all (·.toNat < 128)

/-- The label is sound and, unless it is ASCII, not too long. -/
def isFit (label : List Char) : Bool :=
  (isAscii label || label.length ≤ maxCharacters) && Label.isSound label

/--
The label in the script it is meant in. One that comes in Punycode must not be
ASCII, and it must be written as it would be written here.
-/
def readLabel? (label : List Char) : Option (List Char) :=
  if punycodeMark.isPrefixOf label then
    let written := label.drop punycodeMark.length
    if maxPunycode < written.length then
      none
    else
      (Punycode.decode? written).filter fun decoded =>
        !isAscii decoded && isFit decoded && mapText? decoded = some decoded
  else
    some label |>.filter isFit

/-- The label in ASCII. -/
def writeLabel (label : List Char) : List Char :=
  if isAscii label then label else punycodeMark ++ Punycode.encode label

/-- The labels of a name in the scripts they are meant in. -/
def labels? (name : List Char) : Option (List (List Char)) := do
  let text ← mapText? name
  let labels ← (text.splitOn '.').mapM readLabel?
  if !labels.any Label.runsLeft || labels.all Label.isOneWay then
    some labels
  else
    none

/-- The one ASCII form of a name. -/
def ascii? (name : List Char) : Option (List Char) :=
  (labels? name).map fun labels =>
    ['.'].intercalate (labels.map writeLabel)

end Untrack.Host
