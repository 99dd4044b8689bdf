import Untrack.Pattern.ClassReader
import Untrack.Text.Property.Number

namespace Untrack.Pattern

open Untrack.Text (CharSet)

/-!
# Reading patterns

The reader goes through a pattern text from left to right. It keeps the items of
the sequence at hand and a stack of what is open around it: groups, and the
finished branches of alternatives. Flags set inside a group end with it.

`read` is the whole of it: the text of a pattern to its expression. It refuses
what is malformed and what is nested more than `depthLimit` deep.
-/

/-- A part of a sequence: its meaning, its depth and whether it can repeat. -/
structure Item where
  expr : Expr
  depth : Nat
  repeatable : Bool
  deriving Repr

namespace Item

/-- Items one after another; two or more are one level deeper. -/
def sequence (items : List Item) : Item where
  expr := Expr.concat (items.map (·.expr))
  depth :=
    let deepest := (items.map (·.depth)).foldl max 0
    if items.length ≤ 1 then deepest else deepest + 1
  repeatable := true

/-- Items as alternatives; two or more are one level deeper. -/
def alternatives (items : List Item) : Item where
  expr := Expr.choice (items.map (·.expr))
  depth :=
    let deepest := (items.map (·.depth)).foldl max 0
    if items.length ≤ 1 then deepest else deepest + 1
  repeatable := true

/-- Nothing, in a place where flags are set. -/
def flagsOnly : Item where
  expr := .empty
  depth := 0
  repeatable := false

/-- A part that nothing is nested in. -/
def flat (expr : Expr) : Item where
  expr := expr
  depth := 0
  repeatable := true

/-- A class with its depth. -/
def ofClass (set : CharSet) (depth : Nat) : Item where
  expr := .ofSet set
  depth := depth
  repeatable := true

/-- A group with or without a number, around its content. -/
def grouped (number : Option Nat) (content : Item) : Item where
  expr :=
    match number with
    | some index => .group index content.expr
    | none => content.expr
  depth := content.depth + 1
  repeatable := true

/-- An item repeated. -/
def repeated
    (item : Item)
    (least : Nat)
    (most : Option Nat)
    (greedy : Bool) :
    Item where
  expr := item.expr.times least most greedy
  depth := item.depth + 1
  repeatable := true

end Item

/-- What is open around the sequence at hand. -/
inductive Frame where
  /-- A group: the items before it, latest first, its number, and the flags after it. -/
  | group (before : List Item) (number : Option Nat) (flags : Flags)
  /-- Finished branches of alternatives, latest first. -/
  | branches (finished : List Item)
  deriving Repr

/-- How far a pattern has been read. -/
structure Progress where
  flags : Flags := {}
  groups : Nat := 0
  names : List (List Char) := []
  /-- The items of the sequence at hand, latest first. -/
  items : List Item := []
  frames : List Frame := []
  deriving Repr

/-- What a parenthesis opens. -/
inductive GroupStart where
  | numbered
  | named (name : List Char)
  | plain (flags : Flags)
  | setting (flags : Flags)
  deriving Repr

/-- A character that group names can hold, at their start or later on. -/
def isNameCharacter (atStart : Bool) (character : Char) : Bool :=
  character == '_' || Text.Property.alphabetic.has character ||
    (!atStart &&
      (character == '.' || character == '[' || character == ']' ||
        Text.Property.decimalDigits.has character ||
        Text.Property.otherNumbers.has character))

/-- Read the name of a group up to its closing sign. -/
def readGroupName
    (text : List Char) :
    Except Fault (List Char × List Char) :=
  match text.takeWhile (· != '>'), text.dropWhile (· != '>') with
  | first :: others, _ :: rest =>
      if isNameCharacter true first && others.all (isNameCharacter false) then
        .ok (first :: others, rest)
      else
        .error .badGroupName
  | _, _ => .error .badGroupName

/--
Read flags up to `:` or `)`, which is left in the text. No flag may come twice;
after one hyphen the flags are turned off, and some flag must follow it.
-/
def readFlags :
    (seen : List Char) → (negated dangling : Bool) → Flags → List Char →
      Except Fault (List Char × Flags × List Char)
  | _, _, _, _, [] => .error .badFlags
  | seen, negated, dangling, flags, letter :: rest =>
      if letter = ':' ∨ letter = ')' then
        if dangling then
          .error .badFlags
        else
          .ok (seen, flags, letter :: rest)
      else if letter = '-' then
        if negated then
          .error .badFlags
        else
          readFlags seen true true flags rest
      else if letter ∈ seen then
        .error .badFlags
      else
        match flags.put letter (!negated) with
        | some flags => readFlags (letter :: seen) negated false flags rest
        | none => .error .badFlags

/-- Read what a parenthesis opens, from after it. -/
def readGroupStart
    (flags : Flags)
    (text : List Char) :
    Except Fault (GroupStart × List Char) :=
  match flags.skip text with
  | '?' :: '=' :: _ => .error .lookAround
  | '?' :: '!' :: _ => .error .lookAround
  | '?' :: '<' :: '=' :: _ => .error .lookAround
  | '?' :: '<' :: '!' :: _ => .error .lookAround
  | '?' :: 'P' :: '<' :: rest => do
      let (name, left) ← readGroupName rest
      .ok (.named name, left)
  | '?' :: '<' :: rest => do
      let (name, left) ← readGroupName rest
      .ok (.named name, left)
  | '?' :: rest => do
      let (seen, inner, left) ← readFlags [] false false flags rest
      match left with
      | ':' :: left => .ok (.plain inner, left)
      | _ :: left =>
          if seen.isEmpty then
            .error .nothingToRepeat
          else
            .ok (.setting inner, left)
      | [] => .error .badFlags
  | text => .ok (.numbered, text)

namespace Progress

/-- Add an item to the sequence at hand. -/
def push (progress : Progress) (item : Item) : Progress :=
  { progress with items := item :: progress.items }

/-- The sequence at hand as one item. -/
def sequence (progress : Progress) : Item :=
  Item.sequence progress.items.reverse

/-- Open a numbered group. -/
def openNumbered (progress : Progress) : Progress :=
  { progress with
    groups := progress.groups + 1
    items := []
    frames :=
      .group progress.items (some (progress.groups + 1)) progress.flags ::
        progress.frames }

/-- Do what a parenthesis asks for. -/
def openGroup
    (progress : Progress) :
    GroupStart → Except Fault Progress
  | .numbered => .ok progress.openNumbered
  | .named name =>
      if name ∈ progress.names then
        .error .badGroupName
      else
        .ok { progress.openNumbered with names := name :: progress.names }
  | .plain flags =>
      .ok { progress with
        flags := flags
        items := []
        frames :=
          .group progress.items none progress.flags :: progress.frames }
  | .setting flags =>
      .ok { progress with
        flags := flags
        items := Item.flagsOnly :: progress.items }

/-- Finish a branch and begin the next one. -/
def nextBranch (progress : Progress) : Progress :=
  match progress.frames with
  | .branches finished :: frames =>
      { progress with
        items := []
        frames := .branches (progress.sequence :: finished) :: frames }
  | frames =>
      { progress with
        items := []
        frames := .branches [progress.sequence] :: frames }

/-- The content of what is open, with the frames around it. -/
def content (progress : Progress) : Item × List Frame :=
  match progress.frames with
  | .branches finished :: frames =>
      (Item.alternatives (progress.sequence :: finished).reverse, frames)
  | frames => (progress.sequence, frames)

/-- Close the innermost group. -/
def closeGroup (progress : Progress) : Except Fault Progress :=
  match progress.content with
  | (content, .group before number flags :: frames) =>
      .ok { progress with
        flags := flags
        items := Item.grouped number content :: before
        frames := frames }
  | _ => .error .unopenedGroup

/-- Repeat the last item of the sequence at hand. -/
def repeatLast
    (progress : Progress)
    (least : Nat)
    (most : Option Nat)
    (lazy : Bool) :
    Except Fault Progress :=
  match progress.items with
  | item :: items =>
      if item.repeatable then
        let greedy := lazy == progress.flags.swapGreed
        .ok { progress with
          items := item.repeated least most greedy :: items }
      else
        .error .nothingToRepeat
  | [] => .error .nothingToRepeat

end Progress

/-- A question mark after a repetition makes it lazy. -/
def readLazy : List Char → Bool × List Char
  | '?' :: rest => (true, rest)
  | text => (false, text)

/-- Read decimal digits onto the number so far; the fuel is the text's length. -/
def readDecimalDigits
    (flags : Flags) :
    (fuel : Nat) → (soFar : Option Nat) → List Char →
      Option Nat × List Char
  | fuel + 1, soFar, digit :: rest =>
      if digit.isDigit then
        readDecimalDigits flags fuel
          (some (10 * soFar.getD 0 + (digit.toNat - 0x30)))
          (flags.skip rest)
      else
        (soFar, digit :: rest)
  | _, soFar, text => (soFar, text)

/-- The largest count that a repetition can name. -/
def countLimit : Nat := 0xFFFFFFFF

/-- Read a count with blanks around it; nothing but blanks is no count. -/
def readCount
    (flags : Flags)
    (text : List Char) :
    Except Fault (Option Nat × List Char) :=
  let text := text.dropWhile Text.isBlank
  let (count, left) := readDecimalDigits flags text.length none text
  if countLimit < count.getD 0 then
    .error .badCount
  else
    let left :=
      if left.head?.any Text.isBlank then
        flags.skip (left.dropWhile Text.isBlank)
      else
        left
    .ok (count, left)

/-- Read the counts of a repetition from after its brace, up to the closing one. -/
def readCounts
    (flags : Flags)
    (text : List Char) :
    Except Fault (Nat × Option Nat × List Char) := do
  let (first, rest) ← readCount flags (flags.skip text)
  match first, rest with
  | some least, ',' :: rest =>
      match flags.skip rest with
      | '\x7d' :: left => .ok (least, none, left)
      | rest => do
          let (second, rest) ← readCount flags rest
          match second, rest with
          | some most, '\x7d' :: left =>
              if least ≤ most then
                .ok (least, some most, left)
              else
                .error .badCount
          | _, _ => .error .badCount
  | some count, '\x7d' :: left => .ok (count, some count, left)
  | _, _ => .error .badCount

/-- Read one atom: an escape, a sign with a meaning of its own, or a character. -/
def readAtom
    (flags : Flags)
    (first : Char)
    (rest : List Char) :
    Except Fault (Atom × List Char) :=
  match first with
  | '\\' => readEscape flags rest
  | '.' => .ok (.dot, rest)
  | '^' => .ok (.lineStart, rest)
  | '$' => .ok (.lineStop, rest)
  | character => .ok (.character character false, rest)

/-- Read on by one part of the pattern, which begins with a given character. -/
def readPart
    (progress : Progress)
    (first : Char)
    (rest : List Char) :
    Except Fault (Progress × List Char) :=
  match first with
  | '(' => do
      let (start, left) ← readGroupStart progress.flags rest
      let progress ← progress.openGroup start
      .ok (progress, left)
  | ')' => do
      let progress ← progress.closeGroup
      .ok (progress, rest)
  | '|' => .ok (progress.nextBranch, rest)
  | '[' => do
      let read ← readClass progress.flags rest
      .ok (progress.push (Item.ofClass read.set read.depth), read.rest)
  | '?' => do
      let (lazy, left) := readLazy rest
      let progress ← progress.repeatLast 0 (some 1) lazy
      .ok (progress, left)
  | '*' => do
      let (lazy, left) := readLazy rest
      let progress ← progress.repeatLast 0 none lazy
      .ok (progress, left)
  | '+' => do
      let (lazy, left) := readLazy rest
      let progress ← progress.repeatLast 1 none lazy
      .ok (progress, left)
  | '\x7b' => do
      let (least, most, left) ← readCounts progress.flags rest
      let (lazy, left) := readLazy (progress.flags.skip left)
      let progress ← progress.repeatLast least most lazy
      .ok (progress, left)
  | _ => do
      let (atom, left) ← readAtom progress.flags first rest
      let expr ← atom.expr progress.flags
      .ok (progress.push (Item.flat expr), left)

/--
Read parts until the text ends. Each part takes at least one character, so the
length of the text is fuel enough.
-/
def readParts :
    (fuel : Nat) → Progress → List Char → Except Fault Progress
  | fuel, progress, text =>
      match fuel, progress.flags.skip text with
      | _, [] => .ok progress
      | 0, _ => .ok progress
      | fuel + 1, first :: rest => do
          let (progress, left) ← readPart progress first rest
          readParts fuel progress left

/-- How deep a pattern may be nested. -/
def depthLimit : Nat := 250

/-- Read the text of a pattern. -/
def read (text : List Char) : Except Fault Expr := do
  let progress ← readParts text.length {} text
  match progress.content with
  | (content, []) =>
      if depthLimit < content.depth then
        .error .tooDeep
      else
        .ok content.expr
  | _ => .error .unclosedGroup

end Untrack.Pattern
