import Untrack.Pattern.Reader
import Untrack.Pattern.Search
import Untrack.Pattern.Size

namespace Untrack

/-!
# Patterns

A pattern is a text together with the program it compiles to. Rules use patterns
in two ways: `anchored` patterns begin where the text begins, and `whole`
patterns take in all of it. Both are made by putting signs around the text of a
pattern before it is read.
-/

/-- A compiled pattern. -/
structure Pattern where
  program : Pattern.Program
  deriving Repr

namespace Pattern

/-- Compile an expression. -/
def ofExpr (expr : Expr) : Pattern where
  program := Program.ofExpr expr

/-- Compile the text of a pattern, which must not be too large with its groups. -/
def ofText (text : List Char) : Except Fault Pattern := do
  let expr ← read text
  if Size.fits true [expr] then
    .ok (ofExpr expr)
  else
    .error .tooLarge

/-- The text of a pattern that can match only from the start of a text. -/
def anchoredText (text : List Char) : List Char :=
  "^(?:".toList ++ text ++ ")".toList

/-- The text of a pattern that can match only a whole text. -/
def wholeText (text : List Char) : List Char :=
  "^(?:".toList ++ text ++ ")$".toList

/-- Compile a pattern that matches from the start of a text. -/
def anchored (text : String) : Except Fault Pattern :=
  ofText (anchoredText text.toList)

/-- Compile a pattern that matches whole texts. -/
def whole (text : String) : Except Fault Pattern :=
  ofText (wholeText text.toList)

/-- The leftmost match in a text. -/
def find (pattern : Pattern) (text : List Char) : Option Match :=
  pattern.program.find text

/-- The pattern matches somewhere in a text. -/
def isMatch (pattern : Pattern) (text : List Char) : Bool :=
  (pattern.find text).isSome

/-- The number of groups, as far as they are numbered. -/
def groups (pattern : Pattern) : Nat :=
  pattern.program.groups

/-- The part of a text that a group of a match took part with. -/
def Match.group? (found : Match) (text : List Char) (index : Nat) :
    Option (List Char) :=
  match found.slots[2 * index]?, found.slots[2 * index + 1]? with
  | some (some start), some (some stop) =>
      some ((text.take stop).drop start)
  | _, _ => none

/--
Compile several patterns of which only the matches count, and not the groups.
They must not be too large together.
-/
def ofTexts (texts : List (List Char)) : Except Fault (List Pattern) := do
  let exprs ← texts.mapM read
  if Size.fits false exprs then
    .ok (exprs.map ofExpr)
  else
    .error .tooLarge

end Pattern

end Untrack
