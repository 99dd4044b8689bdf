import Untrack.Pattern.Expr
import Untrack.Text.CaseFold
import Untrack.Text.Percent

namespace Untrack.Pattern

open Untrack.Text (CharSet)

/-!
# Flags and atoms

An atom is the smallest readable part of a pattern: one character, a shorthand
for a class, the characters with a property, the dot, or an assertion. `Atom.expr`
says what an atom means under the flags in force where it stands.

Patterns match whole characters. Where the flag `u` is off, whatever could match
a part of a character is refused.
-/

/-- Why a pattern text is no pattern. -/
inductive Fault where
  | unclosedGroup
  | unopenedGroup
  | nothingToRepeat
  | badCount
  | badEscape
  | badClass
  | badFlags
  | badGroupName
  | lookAround
  | partOfCharacter
  | tooDeep
  | tooLarge
  deriving Repr, DecidableEq

/-- The flags in force at a place of a pattern. -/
structure Flags where
  ignoreCase : Bool := false
  multiLine : Bool := false
  dotAll : Bool := false
  swapGreed : Bool := false
  unicode : Bool := true
  crlf : Bool := false
  extended : Bool := false
  deriving Repr, DecidableEq

namespace Flags

/-- Turn the flag of a letter on or off; other letters name no flag. -/
def put (flags : Flags) (letter : Char) (on : Bool) : Option Flags :=
  match letter with
  | 'i' => some { flags with ignoreCase := on }
  | 'm' => some { flags with multiLine := on }
  | 's' => some { flags with dotAll := on }
  | 'U' => some { flags with swapGreed := on }
  | 'u' => some { flags with unicode := on }
  | 'R' => some { flags with crlf := on }
  | 'x' => some { flags with extended := on }
  | _ => none

/-- Close a set under case variants where case is ignored. -/
def foldSet (flags : Flags) (set : CharSet) : CharSet :=
  if flags.ignoreCase then
    if flags.unicode then
      Text.CaseFold.close set
    else
      Text.CaseFold.closeAscii set
  else
    set

end Flags

/-- Leave out blanks and comments; a comment runs from `#` to the line's end. -/
def skipBlanks : (inComment : Bool) → List Char → List Char
  | _, [] => []
  | true, character :: rest => skipBlanks (character != '\n') rest
  | false, character :: rest =>
      if Text.isBlank character then
        skipBlanks false rest
      else if character = '#' then
        skipBlanks true rest
      else
        character :: rest

/-- Blanks and comments are left out where the flag `x` is on. -/
def Flags.skip (flags : Flags) (text : List Char) : List Char :=
  if flags.extended then skipBlanks false text else text

/-- The classes that have a shorthand. -/
inductive Shorthand where
  | digit
  | space
  | word
  deriving Repr, DecidableEq

namespace Shorthand

/-- The members of the class, of all scripts or of ASCII alone. -/
def set : Shorthand → (unicode : Bool) → CharSet
  | .digit, true => digitCharacters
  | .digit, false => [⟨0x30, 0x39⟩]
  | .space, true => spaceCharacters
  | .space, false => asciiSpace
  | .word, true => wordCharacters
  | .word, false => asciiWord

end Shorthand

/-- The smallest readable parts of a pattern. -/
inductive Atom where
  /-- A character; `octet` tells that it was written as a two-digit octet. -/
  | character (value : Char) (octet : Bool)
  | shorthand (name : Shorthand) (negated : Bool)
  /-- The characters that have some property, or those that have not. -/
  | property (characters : CharSet) (negated : Bool)
  | dot
  | lineStart
  | lineStop
  | assertion (required : Assertion)
  deriving Repr

namespace Flags

/-- The complement of a set, where one may be taken. -/
def negate (flags : Flags) (set : CharSet) : Except Fault CharSet :=
  if flags.unicode then .ok set.complement else .error .partOfCharacter

/-- Case variants are added first, and the complement is taken after that. -/
def finishSet
    (flags : Flags)
    (negated : Bool)
    (set : CharSet) :
    Except Fault CharSet :=
  if negated then flags.negate (flags.foldSet set) else .ok (flags.foldSet set)

/-- The set of a property or its complement. -/
def propertySet
    (flags : Flags)
    (characters : CharSet)
    (negated : Bool) :
    Except Fault CharSet :=
  if flags.unicode then
    flags.finishSet negated characters
  else
    .error .partOfCharacter

/-- The set of a shorthand or its complement. -/
def shorthandSet
    (flags : Flags)
    (name : Shorthand)
    (negated : Bool) :
    Except Fault CharSet :=
  if negated then
    if flags.unicode then
      .ok (name.set true).complement
    else
      .error .partOfCharacter
  else
    .ok (name.set flags.unicode)

/-- The set that a single character stands for. -/
def characterSet
    (flags : Flags)
    (value : Char)
    (octet : Bool) :
    Except Fault CharSet :=
  let code := value.toNat
  if flags.unicode then
    if flags.ignoreCase then
      .ok (CharSet.ofCodes (Text.CaseFold.variants code))
    else
      .ok (CharSet.single code)
  else if octet ∧ 0x7F < code then
    .error .partOfCharacter
  else if flags.ignoreCase then
    .ok (Text.CaseFold.closeAscii (CharSet.single code))
  else
    .ok (CharSet.single code)

/-- The set that the dot stands for. -/
def dotSet (flags : Flags) : Except Fault CharSet :=
  if !flags.unicode then
    .error .partOfCharacter
  else if flags.dotAll then
    .ok CharSet.full
  else if flags.crlf then
    .ok (CharSet.complement [⟨0x0A, 0x0A⟩, ⟨0x0D, 0x0D⟩])
  else
    .ok (CharSet.complement [⟨0x0A, 0x0A⟩])

end Flags

/-- What an atom means under the flags in force. -/
def Atom.expr (flags : Flags) : Atom → Except Fault Expr
  | .character value octet =>
      (flags.characterSet value octet).map .ofSet
  | .shorthand name negated =>
      (flags.shorthandSet name negated).map .ofSet
  | .property characters negated =>
      (flags.propertySet characters negated).map .ofSet
  | .dot => flags.dotSet.map .ofSet
  | .lineStart =>
      .ok <| .assertion <|
        if !flags.multiLine then .textStart
        else if flags.crlf then .crlfLineStart
        else .lineStart
  | .lineStop =>
      .ok <| .assertion <|
        if !flags.multiLine then .textStop
        else if flags.crlf then .crlfLineStop
        else .lineStop
  | .assertion required => .ok (.assertion required)

end Untrack.Pattern
