import Untrack.Pattern.Assertion

namespace Untrack.Pattern

open Untrack.Text (CharSet)

/-!
# Pattern expressions

What a pattern text means, with its flags worked in. Expressions are put together
by `ofSet`, `concat`, `choice` and `times`, which keep them in a simple form:
nothing empty stands in a sequence, alternatives of one character each are one
set, and what all alternatives begin with stands once before them.

The order of alternatives counts. `either` prefers its first part, and a greedy
repetition prefers to go on. What stands first is settled first: how a shared
beginning matches comes before the choice among the alternatives behind it.
-/

/-- A pattern with its flags worked in. -/
inductive Expr where
  | empty
  | set (characters : CharSet)
  | assertion (required : Assertion)
  | group (index : Nat) (body : Expr)
  | seq (first second : Expr)
  | either (first second : Expr)
  /-- The body, from `least` to `most` times, or without an upper end. -/
  | repeated (least : Nat) (most : Option Nat) (greedy : Bool) (body : Expr)
  deriving Repr, DecidableEq

namespace Expr

/-- The expression matches without reading anything, or not at all. -/
def isHollow : Expr → Bool
  | .empty => true
  | .set _ => false
  | .assertion _ => true
  | .group _ body => body.isHollow
  | .seq first second => first.isHollow && second.isHollow
  | .either first second => first.isHollow && second.isHollow
  | .repeated _ most _ body => most == some 0 || body.isHollow

/-- How many characters a match reads at least; none if there is no match. -/
def shortest? : Expr → Option Nat
  | .empty | .assertion _ => some 0
  | .set characters => if characters.isEmpty then none else some 1
  | .group _ body => body.shortest?
  | .seq first second => do
      some ((← first.shortest?) + (← second.shortest?))
  | .either first second => do
      some (min (← first.shortest?) (← second.shortest?))
  | .repeated least _ _ body => body.shortest?.map (least * ·)

/-- The expression can match only where the text starts. -/
def isAtStart : Expr → Bool
  | .assertion required => required == .textStart
  | .group _ body => body.isAtStart
  | .seq first second =>
      first.isAtStart || (first.isHollow && second.isAtStart)
  | .either first second => first.isAtStart && second.isAtStart
  | .repeated least _ _ body => least != 0 && body.isAtStart
  | .empty | .set _ => false

/-- The expression can match only up to where the text stops. -/
def isAtStop : Expr → Bool
  | .assertion required => required == .textStop
  | .group _ body => body.isAtStop
  | .seq first second =>
      second.isAtStop || (second.isHollow && first.isAtStop)
  | .either first second => first.isAtStop && second.isAtStop
  | .repeated least _ _ body => least != 0 && body.isAtStop
  | .empty | .set _ => false

/-- The highest number of a group in the expression, zero if there is none. -/
def lastGroup : Expr → Nat
  | .empty | .set _ | .assertion _ => 0
  | .group index body => max index body.lastGroup
  | .seq first second | .either first second =>
      max first.lastGroup second.lastGroup
  | .repeated _ _ _ body => body.lastGroup

/-! ## Putting expressions together -/

/-- The expression of a set of characters. -/
def ofSet (characters : CharSet) : Expr :=
  .set characters.normal

/--
The body, from `least` to `most` times, or without an upper end. A body that
reads nothing need not be repeated.
-/
def times
    (least : Nat)
    (most : Option Nat)
    (greedy : Bool)
    (body : Expr) :
    Expr :=
  let least := if body.isHollow then min least 1 else least
  let most :=
    if body.isHollow then some (min (most.getD 1) 1) else most
  match least, most with
  | 0, some 0 => .empty
  | 1, some 1 => body
  | least, most => .repeated least most greedy body

/-- The parts of a sequence. -/
def parts : Expr → List Expr
  | .empty => []
  | .seq first second => first.parts ++ second.parts
  | expr => [expr]

/-- The parts one after another. -/
def ofParts : List Expr → Expr
  | [] => .empty
  | [only] => only
  | first :: rest => .seq first (ofParts rest)

/-- The expressions one after another. -/
def concat (exprs : List Expr) : Expr :=
  ofParts (exprs.flatMap parts)

/-- The alternatives of a choice. -/
def options : Expr → List Expr
  | .either first second => first.options ++ second.options
  | expr => [expr]

/-- The expressions as alternatives, the first preferred. -/
def ofOptions : List Expr → Expr
  | [] => .empty
  | [only] => only
  | first :: rest => .either first (ofOptions rest)

/-- The characters of an expression that reads one character. -/
def set? : Expr → Option CharSet
  | .set characters => some characters
  | _ => none

/-- Alternatives that all read one character are one set. -/
def select (exprs : List Expr) : Expr :=
  match exprs.mapM set? with
  | some sets => ofSet sets.flatten
  | none => ofOptions exprs

/-- The expression reads one certain character. -/
def isCharacter : Expr → Bool
  | .set [range] => range.low == range.high
  | _ => false

/-- The steps of a sequence, where characters in a row are one step. -/
def steps (expr : Expr) : List (List Expr) :=
  expr.parts.splitBy fun first second => first.isCharacter && second.isCharacter

/-- What two lists have in common at their beginning. -/
def shared : List (List Expr) → List (List Expr) → List (List Expr)
  | first :: firsts, second :: seconds =>
      if first = second then first :: shared firsts seconds else []
  | _, _ => []

/-- The steps that all alternatives begin with, if each has two steps or more. -/
def sharedSteps (exprs : List Expr) : List (List Expr) :=
  match exprs.map steps with
  | [] => []
  | first :: rest =>
      if (first :: rest).all (2 ≤ ·.length) then rest.foldl shared first else []

/-- The expressions as alternatives, with what they share before them. -/
def choice (exprs : List Expr) : Expr :=
  let exprs := exprs.flatMap options
  match exprs with
  | [only] => only
  | _ =>
      match sharedSteps exprs with
      | [] => select exprs
      | steps =>
          let rests := exprs.map fun expr =>
            ofParts (expr.steps.drop steps.length).flatten
          concat (steps.flatten ++ [select (rests.flatMap options)])

end Expr

end Untrack.Pattern
