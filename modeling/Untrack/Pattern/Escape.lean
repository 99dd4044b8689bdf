import Untrack.Pattern.Atom
import Untrack.Pattern.Property.Name

namespace Untrack.Pattern

/-!
# Escapes

What a backslash makes of the characters after it. Every reader here returns the
atom with the text that is left.
-/

/-- Punctuation, blanks and controls of ASCII stand for themselves. -/
def isPlainEscape (character : Char) : Bool :=
  character.toNat < 0x80 && !character.isAlphanum &&
    character != '<' && character != '>'

/-- The character of a code point that is one. -/
def scalar? (code : Nat) : Option Char :=
  if code.isValidChar then some (Char.ofNat code) else none

/-- Read exactly `count` hexadecimal digits onto the number so far. -/
def readDigits
    (flags : Flags) :
    (count : Nat) → (soFar : Nat) → List Char →
      Except Fault (Nat × List Char)
  | 0, soFar, text => .ok (soFar, text)
  | _ + 1, _, [] => .error .badEscape
  | count + 1, soFar, digit :: rest =>
      match Text.Percent.hexValue? digit with
      | some value =>
          readDigits flags count (16 * soFar + value) (flags.skip rest)
      | none => .error .badEscape

/--
Read hexadecimal digits up to a closing brace, at least one. The fuel is the
length of the text.
-/
def readBraced
    (flags : Flags) :
    (fuel : Nat) → (soFar : Option Nat) → List Char →
      Except Fault (Nat × List Char)
  | fuel + 1, soFar, character :: rest =>
      if character = '\x7d' then
        match soFar with
        | some code => .ok (code, flags.skip rest)
        | none => .error .badEscape
      else
        match Text.Percent.hexValue? character with
        | some value =>
            readBraced flags fuel
              (some (16 * soFar.getD 0 + value))
              (flags.skip rest)
        | none => .error .badEscape
  | _, _, _ => .error .badEscape

/--
Read the code of a character after `x`, `u` or `U`: two, four or eight digits,
or any number of them in braces.
-/
def readCode
    (flags : Flags)
    (width : Nat)
    (text : List Char) :
    Except Fault (Atom × List Char) := do
  let text := flags.skip text
  match text with
  | '\x7b' :: rest =>
      let rest := flags.skip rest
      let (code, rest) ← readBraced flags rest.length none rest
      match scalar? code with
      | some value => .ok (.character value false, rest)
      | none => .error .badEscape
  | _ =>
      let (code, rest) ← readDigits flags width 0 text
      match scalar? code with
      | some value => .ok (.character value (width == 2), rest)
      | none => .error .badEscape

/-- A character of the names that can follow `\b` in braces. -/
def isEdgeName (character : Char) : Bool :=
  character.isAlpha || character == '-'

/-- The edge that a name in braces asks for. -/
def edgeNamed? (name : List Char) : Option WordEdge :=
  if name = "start".toList then some .start
  else if name = "end".toList then some .stop
  else if name = "start-half".toList then some .startHalf
  else if name = "end-half".toList then some .stopHalf
  else none

/-- Read a name up to its closing brace; the fuel is the length of the text. -/
def readEdgeName
    (flags : Flags) :
    (fuel : Nat) → (name : List Char) → List Char →
      Except Fault (WordEdge × List Char)
  | fuel + 1, name, character :: rest =>
      if isEdgeName character then
        readEdgeName flags fuel (name ++ [character]) (flags.skip rest)
      else if character = '\x7d' then
        match edgeNamed? name with
        | some edge => .ok (edge, rest)
        | none => .error .badEscape
      else
        .error .badEscape
  | _, _, _ => .error .badEscape

/--
Read what follows `\b`. A brace that does not open a name belongs to a
repetition and is left alone.
-/
def readBoundary
    (flags : Flags)
    (text : List Char) :
    Except Fault (Atom × List Char) :=
  let plain : Atom × List Char :=
    (.assertion (.word .boundary flags.unicode), text)
  match text with
  | '\x7b' :: rest =>
      match flags.skip rest with
      | [] => .error .badEscape
      | character :: more =>
          if isEdgeName character then do
            let opened := character :: more
            let (edge, left) ←
              readEdgeName flags opened.length [] opened
            .ok (.assertion (.word edge flags.unicode), left)
          else
            .ok plain
  | _ => .ok plain

/-- Read the name of a property up to its closing brace; the fuel is as above. -/
def readPropertyName
    (flags : Flags) :
    (fuel : Nat) → (name : List Char) → List Char →
      Except Fault (List Char × List Char)
  | fuel + 1, name, character :: rest =>
      if character = '\x7d' then
        .ok (name, rest)
      else
        readPropertyName flags fuel (name ++ [character]) (flags.skip rest)
  | _, _, _ => .error .badEscape

/-- The atom of a property's name; a name that nothing goes by is refused. -/
def propertyAtom
    (negated : Bool)
    (name rest : List Char) :
    Except Fault (Atom × List Char) :=
  match Property.ofText? name with
  | some characters => .ok (.property characters negated, rest)
  | none => .error .badEscape

/-- Read what follows `\p` or `\P`: a name of one letter, or any name in braces. -/
def readProperty
    (flags : Flags)
    (negated : Bool)
    (text : List Char) :
    Except Fault (Atom × List Char) :=
  match flags.skip text with
  | [] => .error .badEscape
  | '\x7b' :: rest => do
      let opened := flags.skip rest
      let (name, left) ← readPropertyName flags opened.length [] opened
      propertyAtom negated name left
  | '\\' :: _ => .error .badEscape
  | letter :: rest => propertyAtom negated [letter] (flags.skip rest)

/-- Read an escape from after its backslash. -/
def readEscape
    (flags : Flags) :
    List Char → Except Fault (Atom × List Char)
  | [] => .error .badEscape
  | letter :: rest =>
      let character (code : Nat) : Except Fault (Atom × List Char) :=
        .ok (.character (Char.ofNat code) false, rest)
      let asserts (required : Assertion) : Except Fault (Atom × List Char) :=
        .ok (.assertion required, rest)
      match letter with
      | 'x' => readCode flags 2 rest
      | 'u' => readCode flags 4 rest
      | 'U' => readCode flags 8 rest
      | 'p' => readProperty flags false rest
      | 'P' => readProperty flags true rest
      | 'd' => .ok (.shorthand .digit false, rest)
      | 'D' => .ok (.shorthand .digit true, rest)
      | 's' => .ok (.shorthand .space false, rest)
      | 'S' => .ok (.shorthand .space true, rest)
      | 'w' => .ok (.shorthand .word false, rest)
      | 'W' => .ok (.shorthand .word true, rest)
      | 'a' => character 0x07
      | 'f' => character 0x0C
      | 't' => character 0x09
      | 'n' => character 0x0A
      | 'r' => character 0x0D
      | 'v' => character 0x0B
      | 'A' => asserts .textStart
      | 'z' => asserts .textStop
      | 'b' => readBoundary flags rest
      | 'B' => asserts (.word .inside flags.unicode)
      | '<' => asserts (.word .start flags.unicode)
      | '>' => asserts (.word .stop flags.unicode)
      | _ =>
          if isPlainEscape letter then
            .ok (.character letter false, rest)
          else
            .error .badEscape

end Untrack.Pattern
