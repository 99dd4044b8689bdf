import Untrack.Failure
import Untrack.Text.Blank
import Untrack.Url.Reader

namespace Untrack.Link

/-!
# Finding links

What counts as a link, and how one is found in a text that may hold other words
around it. A link that stands in a sentence loses the marks that end a sentence
or close a bracket.
-/

/-- The text, apart from white space around it, is a web address with a host. -/
def isLink (text : List Char) : Bool :=
  match Url.parse? (Text.trimmed text) with
  | some url => url.isWeb && url.host.isSome
  | none => false

/-- What follows one of the two openings of a link at the start of a text. -/
def opened? : List Char → Option (List Char)
  | 'h' :: 't' :: 't' :: 'p' :: ':' :: '/' :: '/' :: rest => some rest
  | 'h' :: 't' :: 't' :: 'p' :: 's' :: ':' :: '/' :: '/' :: rest => some rest
  | _ => none

/-- The text begins with a link: an opening, and then no white space. -/
def beginsLink (text : List Char) : Bool :=
  match opened? text with
  | some (first :: _) => !Text.isBlank first
  | _ => false

/-- The rest of a text from its first link on. -/
def fromFirst? : List Char → Option (List Char)
  | [] => none
  | first :: rest =>
      if beginsLink (first :: rest) then some (first :: rest)
      else fromFirst? rest

/-- A mark that belongs to the sentence around a link. -/
def isClosing (character : Char) : Bool :=
  character == ')' || character == '.' || character == ',' || character == '>'

/-- The run without white space that a text begins with. -/
def firstRun (text : List Char) : List Char :=
  text.takeWhile (!Text.isBlank ·)

/-- The first link in a text. -/
def extract (text : List Char) : Except Failure (List Char) :=
  match fromFirst? text with
  | some rest => .ok (Text.dropTrailing isClosing (firstRun rest))
  | none => .error (.withoutLink (String.ofList text))

/-- Why a text does not yield a link that can be cleaned. -/
inductive Unresolved where
  | absent (failure : Failure)
  | invalid (link : List Char)
  deriving Repr, DecidableEq

/-- The words for a text without a link. -/
def Unresolved.message : Unresolved → String
  | .absent failure => failure.message
  | .invalid link => "Invalid link: " ++ String.ofList link

/-- The link that a text is, or the first one in it. -/
def resolve (text : List Char) : Except Unresolved (List Char) :=
  if isLink text then
    .ok (Text.trimmed text)
  else
    match extract text with
    | .error failure => .error (.absent failure)
    | .ok link => if isLink link then .ok link else .error (.invalid link)

end Untrack.Link
