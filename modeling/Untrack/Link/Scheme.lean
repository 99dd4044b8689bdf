namespace Untrack.Link

/-!
# Schemes

The scheme of an address is a letter and then letters, digits, `+`, `.` and `-`
up to a colon.
-/

/-- An ASCII letter. -/
def isLetter (character : Char) : Bool :=
  character.isAlpha

/-- A character that a scheme can hold. -/
def isSchemeCharacter (character : Char) : Bool :=
  character.isAlphanum || character == '+' || character == '.' ||
    character == '-'

/-- The scheme of an address and the text after its colon. -/
def scheme? (address : List Char) : Option (List Char × List Char) :=
  match address.takeWhile isSchemeCharacter,
      address.dropWhile isSchemeCharacter with
  | first :: others, ':' :: rest =>
      if isLetter first then some (first :: others, rest) else none
  | _, _ => none

/-- An address with a scheme and the two slashes after it. -/
def isAbsolute (address : List Char) : Bool :=
  match scheme? address with
  | some (_, '/' :: '/' :: _) => true
  | _ => false

/-- What is left when a pair of slashes is taken off for as long as there is one. -/
def dropSlashPairs : List Char → List Char
  | '/' :: '/' :: rest => dropSlashPairs rest
  | text => text

/--
The address that a redirection leads to. A target without a scheme borrows that
of the link it was found in; if the link has none either, there is no address.
-/
def absolute? (target link : List Char) : Option (List Char) :=
  if isAbsolute target then
    some target
  else
    (scheme? link).map fun (scheme, _) =>
      scheme ++ "://".toList ++ dropSlashPairs target

end Untrack.Link
