import Untrack.Pattern.Expr
import Untrack.Text.OctetRange
import Untrack.Text.Utf8

namespace Untrack.Pattern.Size

open Untrack.Text (CharSet OctetRange)

/-!
# The size of patterns

A pattern can be short and yet take a lot of room to match, since a counted
repetition stands for so many copies of its body. Its size is the memory of the
automaton over octets that finds its matches, and of the one that reads them
backwards to find where they begin. Neither may be larger than `limit`.

A state takes `stateOctets`, an edge beyond the first `edgeOctets`, and a branch
of a choice `branchOctets`. What an expression needs is said by `tally`.
-/

/-- The octets that a state takes. -/
def stateOctets : Nat := 32

/-- The octets that each edge takes in a state with a list of edges. -/
def edgeOctets : Nat := 8

/-- The octets that each branch takes in a state that chooses. -/
def branchOctets : Nat := 4

/-- The octets that an automaton may take. -/
def limit : Nat := 10 * 1024 * 1024

/-- A state with a list of edges. -/
def listed (edges : Nat) : Nat :=
  stateOctets + edges * edgeOctets

/-- A state that chooses among branches. -/
def fork (branches : Nat) : Nat :=
  stateOctets + branches * branchOctets

/-- Which automaton is built: whether it notes groups, and which way it reads. -/
structure Layout where
  notesGroups : Bool
  isReversed : Bool
  deriving Repr, DecidableEq

/-! ## Sets of characters -/

/-- Blocks in groups of those that begin with the same range. -/
def grouped (blocks : List (List OctetRange)) : List (List (List OctetRange)) :=
  blocks.splitBy fun first second => first.head? == second.head?

/-- An edge of a state for a set: the octets it reads, and the state after them. -/
structure Edge where
  octets : OctetRange
  next : Nat
  deriving Repr, DecidableEq

/--
The number of the state that reads some blocks, and all states so far. States
with the same edges are one state, and state nought is the one after the set.
-/
def enter : (depth : Nat) → List (List OctetRange) → Array (List Edge) →
    Nat × Array (List Edge)
  | 0, _, states => (0, states)
  | depth + 1, blocks, states =>
      let (edges, states) :=
        (grouped blocks).foldl
          (fun (edges, states) group =>
            match group with
            | (octets :: _) :: _ =>
                let (next, states) := enter depth (group.map List.tail) states
                (edges ++ [⟨octets, next⟩], states)
            | _ => (edges, states))
          (([] : List Edge), states)
      if edges.isEmpty then
        (0, states)
      else
        match states.toList.findIdx? (· == edges) with
        | some index => (index + 1, states)
        | none => (states.size + 1, states.push edges)

/-- The most octets that a character takes. -/
def maxDepth : Nat := 4

/-- The states for a set that is read forwards, and one after it. -/
def forwardSet (blocks : List (List OctetRange)) : Nat :=
  let states := (enter maxDepth blocks #[]).2
  stateOctets + (states.toList.map fun edges => listed edges.length).foldl (· + ·) 0

/-- How many different beginnings blocks have. -/
def beginnings : (depth : Nat) → List (List OctetRange) → Nat
  | 0, _ => 0
  | depth + 1, blocks =>
      ((grouped (blocks.filter (!·.isEmpty))).map fun group =>
        1 + beginnings depth (group.map List.tail)).foldl (· + ·) 0

/--
The states for a set that is read backwards, where only beginnings are shared: a
choice among the blocks, and one after it.
-/
def backwardSet (blocks : List (List OctetRange)) : Nat :=
  fork blocks.length + stateOctets + beginnings maxDepth blocks * stateOctets

/-- The states for a set of characters. -/
def ofSet (layout : Layout) (set : CharSet) : Nat :=
  if set.isAscii then
    stateOctets + listed set.length
  else if layout.isReversed then
    backwardSet (OctetRange.blocks set)
  else
    forwardSet (OctetRange.blocks set)

/-! ## Words -/

/-- The octets that words begin with. -/
def initials (words : List (List Nat)) : List Nat :=
  (words.filterMap List.head?).eraseDups

/-- What is left of the words that begin with an octet. -/
def behind (octet : Nat) (words : List (List Nat)) : List (List Nat) :=
  words.filterMap fun word =>
    match word with
    | first :: rest => if first = octet then some rest else none
    | [] => none

/-- Only one of the empty runs at the beginning counts. -/
def dropRepeated : List (List (List Nat)) → List (List (List Nat))
  | [] :: [] :: rest => dropRepeated ([] :: rest)
  | runs => runs

/-- The words in runs, where each word that ends here begins a new run. -/
def wordRuns (words : List (List Nat)) : List (List (List Nat)) :=
  dropRepeated (words.splitOn [])

/--
The states of a tree of words. Words share what they begin with, unless a word
that ends there is preferred to one of them and not to the other.
-/
def tree : (depth : Nat) → (words : List (List Nat)) → Nat
  | 0, _ => 0
  | depth + 1, words =>
      if words.all List.isEmpty then
        0
      else
        let runs := wordRuns words
        let branches := (runs.filter (!·.isEmpty)).length + (runs.length - 1)
        let states (run : List (List Nat)) : Nat :=
          let octets := initials run
          (match octets.length with
            | 0 => 0
            | 1 => stateOctets
            | edges => listed edges) +
            (octets.map fun octet => tree depth (behind octet run)).foldl (· + ·) 0
        (if branches = 1 then 0 else fork branches) + (runs.map states).foldl (· + ·) 0

/-- The states for a choice among words, and one after it. -/
def ofWords (layout : Layout) (words : List (List Nat)) : Nat :=
  let words := if layout.isReversed then words.map List.reverse else words
  stateOctets + tree ((words.map List.length).foldl max 0 + 1) words

/-! ## Expressions -/

/-- What the alternatives of an expression take, and their octets if all are words. -/
structure Tally where
  alternatives : Nat
  states : Nat
  words : Option (List (List Nat))
  deriving Repr, DecidableEq

/-- One alternative that is not a word. -/
def Tally.one (states : Nat) : Tally where
  alternatives := 1
  states
  words := none

/-- The states for an expression: a tree for words, and a choice for all else. -/
def Tally.total (layout : Layout) (tally : Tally) : Nat :=
  if tally.alternatives ≤ 1 then
    tally.states
  else
    match tally.words with
    | some words => ofWords layout words
    | none => fork tally.alternatives + stateOctets + tally.states

/-- The word that two words make one after the other. -/
def joined (first second : Option (List (List Nat))) : Option (List (List Nat)) :=
  match first, second with
  | some [left], some [right] => some [left ++ right]
  | _, _ => none

/--
The states for a repetition of a body. A body that can match without reading
needs a choice of its own after it before it can be left out.
-/
def ofRepeated
    (least : Nat)
    (most : Option Nat)
    (readsOn : Bool)
    (body : Nat) :
    Nat :=
  match most, least with
  | none, 0 =>
      if readsOn then body + fork 2 else body + fork 2 + fork 2 + stateOctets
  | none, least => least * body + fork 2
  | some most, least =>
      if least = most then
        least * body
      else
        (if least = 0 ∧ most ≠ 1 then stateOctets else least * body) +
          stateOctets + (most - least) * (fork 2 + body)

/-- The octets of one character. -/
def octetsOf (code : Nat) : List Nat :=
  Text.Utf8.encodeChar (Char.ofNat code)

/-- What an expression takes. -/
def tally (layout : Layout) : Expr → Tally
  | .empty => .one stateOctets
  | .set [range] =>
      if range.low = range.high then
        let octets := octetsOf range.low
        { alternatives := 1
          states := octets.length * stateOctets
          words := some [octets] }
      else
        .one (ofSet layout [range])
  | .set characters => .one (ofSet layout characters)
  | .assertion _ => .one stateOctets
  | .group _ body =>
      .one ((if layout.notesGroups then 2 * stateOctets else 0) +
        (tally layout body).total layout)
  | .seq first second =>
      let first := tally layout first
      let second := tally layout second
      { alternatives := 1
        states := first.total layout + second.total layout
        words := joined first.words second.words }
  | .either first second =>
      let first := tally layout first
      let second := tally layout second
      { alternatives := first.alternatives + second.alternatives
        states := first.states + second.states
        words := do some ((← first.words) ++ (← second.words)) }
  | .repeated least most _ body =>
      .one (ofRepeated least most (body.shortest?.any (0 < ·))
        ((tally layout body).total layout))

/-! ## Patterns -/

/--
The states before all patterns: where some pattern does not say where the text
starts, or stops for one that reads backwards, anything can stand before them.
-/
def lead (layout : Layout) (exprs : List Expr) : Nat :=
  let isFixed (expr : Expr) : Bool :=
    if layout.isReversed then expr.isAtStop else expr.isAtStart
  if exprs.all isFixed then
    stateOctets
  else
    fork 2 + stateOctets + listed 1

/-- The size of the automaton for some patterns, which it tells apart. -/
def octets (layout : Layout) (exprs : List Expr) : Nat :=
  let pattern (expr : Expr) : Nat :=
    (if layout.notesGroups then 2 * stateOctets else 0) +
      (tally layout expr).total layout + stateOctets
  lead layout exprs +
    (if exprs.length ≤ 1 then 0 else fork exprs.length + stateOctets) +
    (exprs.map pattern).foldl (· + ·) 0

/-- Both automata for some patterns keep within the limit. -/
def fits (notesGroups : Bool) (exprs : List Expr) : Bool :=
  octets { notesGroups, isReversed := false } exprs ≤ limit &&
    octets { notesGroups := false, isReversed := true } exprs ≤ limit

end Untrack.Pattern.Size
