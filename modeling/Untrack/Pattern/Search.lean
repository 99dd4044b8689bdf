import Untrack.Pattern.Program

namespace Untrack.Pattern

/-!
# Searching

A program is run over a text in lockstep: all its threads stand at the same
place, in the order of preference, and no two of them at the same instruction.
The work at one place is bounded by the size of the program, so a search takes
time in proportion to the program and the text.

The match that is found is the leftmost one, and of those that begin there the
one that the pattern prefers.
-/

/-- A running match: the next instruction, where it began, and what it noted. -/
structure Thread where
  index : Nat
  start : Nat
  slots : List (Option Nat)
  deriving Repr

/-- A match: where it begins and ends, and the places its groups noted. -/
structure Match where
  start : Nat
  stop : Nat
  slots : List (Option Nat)
  deriving Repr, DecidableEq

/-- A place in a text: its number and the characters around it. -/
structure Place where
  position : Nat
  before : Option Char
  after : Option Char
  deriving Repr

/-- The threads that wait at a place and the instructions that are taken there. -/
structure Waiting where
  /-- The threads, the least preferred first. -/
  threads : List Thread
  taken : Array Bool
  deriving Repr

/-- No thread waits, and no instruction of a program of this size is taken. -/
def Waiting.none (size : Nat) : Waiting where
  threads := []
  taken := Array.replicate size false

/--
Follow threads to the instructions where they have to wait. Threads are followed
in order, and an instruction that is taken already is not followed again.

Every turn takes a new instruction or drops a thread, and an instruction adds at
most one thread more than it drops: twice the size of the program, and one turn
for each thread, are fuel enough.
-/
def settle
    (code : Code)
    (place : Place) :
    (fuel : Nat) → List Thread → Waiting → Waiting
  | 0, _, waiting => waiting
  | _ + 1, [], waiting => waiting
  | fuel + 1, thread :: rest, waiting =>
      if waiting.taken.getD thread.index true then
        settle code place fuel rest waiting
      else
        let waiting :=
          { waiting with taken := waiting.taken.setIfInBounds thread.index true }
        match code[thread.index]? with
        | some (.fork first second) =>
            settle code place fuel
              ({ thread with index := first } ::
                { thread with index := second } :: rest)
              waiting
        | some (.mark slot next) =>
            settle code place fuel
              ({ thread with
                  index := next
                  slots := thread.slots.set slot (some place.position) } ::
                rest)
              waiting
        | some (.require assertion next) =>
            if assertion.holds place.before place.after then
              settle code place fuel ({ thread with index := next } :: rest)
                waiting
            else
              settle code place fuel rest waiting
        | _ =>
            settle code place fuel rest
              { waiting with threads := thread :: waiting.threads }

/-- Let one more thread wait at a place, the least preferred so far. -/
def enter
    (code : Code)
    (place : Place)
    (thread : Thread)
    (waiting : Waiting) :
    Waiting :=
  settle code place (2 * code.size + 1) [thread] waiting

/--
Let the threads of one place, the most preferred first, read a character. The
first that has matched ends the search of all that come after it.
-/
def advance
    (code : Code)
    (position : Nat)
    (character : Option Char)
    (place : Place) :
    List Thread → (best : Option Match) → Waiting → Option Match × Waiting
  | [], best, waiting => (best, waiting)
  | thread :: rest, best, waiting =>
      match code[thread.index]?, character with
      | some .accept, _ =>
          (some ⟨thread.start, position, thread.slots⟩, waiting)
      | some (.consume characters next), some read =>
          if characters.has read then
            advance code position character place rest best
              (enter code place { thread with index := next } waiting)
          else
            advance code position character place rest best waiting
      | _, _ => advance code position character place rest best waiting

namespace Program

/-- The thread that begins a match at a position. -/
def threadAt (program : Program) (position : Nat) : Thread where
  index := program.start
  start := position
  slots := List.replicate (2 * program.groups + 2) none

/-- As long as there is no match, one can begin at every place. -/
def begin
    (program : Program)
    (place : Place)
    (best : Option Match)
    (waiting : Waiting) :
    Waiting :=
  if best.isSome then
    waiting
  else
    enter program.code place (program.threadAt place.position) waiting

/-- Run the threads that wait at a position over the rest of the text. -/
def run
    (program : Program) :
    (position : Nat) → Waiting → (best : Option Match) → List Char →
      Option Match
  | position, waiting, best, [] =>
      (advance program.code position none
        ⟨position + 1, none, none⟩ waiting.threads.reverse best
        (Waiting.none 0)).1
  | position, waiting, best, character :: rest =>
      let place : Place := ⟨position + 1, some character, rest.head?⟩
      let (best, next) :=
        advance program.code position (some character) place
          waiting.threads.reverse best (Waiting.none program.code.size)
      run program (position + 1) (program.begin place best next) best rest

/-- The leftmost match of a program in a text, and its groups. -/
def find (program : Program) (text : List Char) : Option Match :=
  let place : Place := ⟨0, none, text.head?⟩
  program.run 0
    (program.begin place none (Waiting.none program.code.size)) none text

end Program

end Untrack.Pattern
