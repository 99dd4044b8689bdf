import Untrack.Pattern.Expr

namespace Untrack.Pattern

open Untrack.Text (CharSet)

/-!
# Programs

A compiled pattern is a list of instructions that name each other by their
index. `emit` places the instructions of an expression behind those that are
there already and lets them go on at a given index, so that an expression is
compiled from its end to its beginning.
-/

/-- One step of a compiled pattern. -/
inductive Instruction where
  /-- Read one character of the set. -/
  | consume (characters : CharSet) (next : Nat)
  /-- Go on at either index; the first is preferred. -/
  | fork (first second : Nat)
  /-- Note the place where the text stands. -/
  | mark (slot : Nat) (next : Nat)
  /-- Go on if the assertion holds here. -/
  | require (assertion : Assertion) (next : Nat)
  /-- The pattern has matched. -/
  | accept
  deriving Repr

/-- The instructions of a program, found by index. -/
abbrev Code := Array Instruction

/-- A compiled pattern: its code, where it begins, and how many groups it has. -/
structure Program where
  code : Code
  start : Nat
  groups : Nat
  deriving Repr

/-- Add one instruction at the end of the code. -/
def place (instruction : Instruction) (code : Code) : Nat × Code :=
  (code.size, code.push instruction)

/-- Do one thing `count` times, each time from where the last one led. -/
def emitTimes
    (once : Nat → Code → Nat × Code) :
    (count : Nat) → (next : Nat) → Code → Nat × Code
  | 0, next, code => (next, code)
  | count + 1, next, code =>
      let (start, code) := once next code
      emitTimes once count start code

/-- The fork that goes on with a body or leaves it out. -/
def choose (greedy : Bool) (body exit : Nat) : Instruction :=
  if greedy then .fork body exit else .fork exit body

/-- Place a loop: do one thing, and then either do it again or go on at `next`. -/
def emitLoop
    (once : Nat → Code → Nat × Code)
    (greedy : Bool)
    (next : Nat)
    (code : Code) :
    Nat × Code :=
  let (loop, code) := place (.fork next next) code
  let (start, code) := once loop code
  (start, code.setIfInBounds loop (choose greedy start next))

/-- Do one thing up to `count` times, where any but the first can be left out. -/
def emitUpTo
    (once : Nat → Code → Nat × Code)
    (count : Nat)
    (greedy : Bool)
    (exit : Nat)
    (code : Code) :
    Nat × Code :=
  emitTimes
    (fun next code =>
      let (start, code) := once next code
      place (choose greedy start exit) code)
    count exit code

/-- Do one thing from `least` to `most` times, or without an upper end. -/
def emitRepeated
    (once : Nat → Code → Nat × Code)
    (least : Nat)
    (most : Option Nat)
    (greedy : Bool)
    (next : Nat)
    (code : Code) :
    Nat × Code :=
  match most, least with
  | some most, least =>
      let (start, code) := emitUpTo once (most - least) greedy next code
      emitTimes once least start code
  | none, 0 => emitUpTo (emitLoop once greedy) 1 greedy next code
  | none, least + 1 =>
      let (start, code) := emitLoop once greedy next code
      emitTimes once least start code

/-- Compile an expression that goes on at `next`; the result is its beginning. -/
def emit : Expr → (next : Nat) → Code → Nat × Code
  | .empty, next, code => (next, code)
  | .set characters, next, code => place (.consume characters next) code
  | .assertion required, next, code => place (.require required next) code
  | .group index body, next, code =>
      let (stop, code) := place (.mark (2 * index + 1) next) code
      let (start, code) := emit body stop code
      place (.mark (2 * index) start) code
  | .seq first second, next, code =>
      let (middle, code) := emit second next code
      emit first middle code
  | .either first second, next, code =>
      let (right, code) := emit second next code
      let (left, code) := emit first next code
      place (.fork left right) code
  | .repeated least most greedy body, next, code =>
      emitRepeated (fun next code => emit body next code) least most greedy next
        code

/-- Compile a whole expression. -/
def Program.ofExpr (expr : Expr) : Program :=
  let (stop, code) := place .accept #[]
  let (start, code) := emit expr stop code
  { code, start, groups := expr.lastGroup }

end Untrack.Pattern
