import Untrack.Pattern.Escape

namespace Untrack.Pattern

open Untrack.Text (CharSet)

/-!
# Classes in brackets

A class lists characters, ranges, shorthands, named ASCII classes and further
classes, and joins such lists by `&&`, `--` and `~~`, which bind from the left.
The reader goes from left to right and keeps what is open on a stack.

Beside its set a class has a depth: how deep classes, lists and operators are
nested in it. Patterns that are nested too deeply are refused.
-/

/-- The operators between the lists of a class. -/
inductive SetOperator where
  | intersection
  | difference
  | symmetricDifference
  deriving Repr, DecidableEq

/-- The set that an operator makes of two. -/
def SetOperator.apply : SetOperator → CharSet → CharSet → CharSet
  | .intersection, left, right => left.intersection right
  | .difference, left, right => left.difference right
  | .symmetricDifference, left, right => left.symmetricDifference right

/-- A list of a class as far as it has been read. -/
structure Listing where
  set : CharSet := []
  items : Nat := 0
  depth : Nat := 0
  deriving Repr

namespace Listing

/-- Add an item, itself nested `depth` deep. -/
def push (listing : Listing) (set : CharSet) (depth : Nat) : Listing where
  set := listing.set.union set
  items := listing.items + 1
  depth := max listing.depth depth

/-- The depth of a list: two or more items are one level deeper. -/
def level (listing : Listing) : Nat :=
  if listing.items ≤ 1 then listing.depth else listing.depth + 1

end Listing

/-- What is open while a class is read. -/
inductive ClassFrame where
  /-- A bracket; `outer` is the list that the class in it will join. -/
  | bracket (outer : Listing) (negated : Bool)
  /-- An operator that waits for its second list. -/
  | operator (name : SetOperator) (left : CharSet) (level : Nat)
  deriving Repr

/-- A class as it was read: its set, its depth and the text that is left. -/
structure ClassRead where
  set : CharSet
  depth : Nat
  rest : List Char
  deriving Repr

/-- The ASCII class of a name. -/
def asciiClass? (name : List Char) : Option CharSet :=
  let table : List (String × CharSet) :=
    [("alnum", [⟨0x30, 0x39⟩, ⟨0x41, 0x5A⟩, ⟨0x61, 0x7A⟩]),
      ("alpha", [⟨0x41, 0x5A⟩, ⟨0x61, 0x7A⟩]),
      ("ascii", [⟨0x00, 0x7F⟩]),
      ("blank", [⟨0x09, 0x09⟩, ⟨0x20, 0x20⟩]),
      ("cntrl", [⟨0x00, 0x1F⟩, ⟨0x7F, 0x7F⟩]),
      ("digit", [⟨0x30, 0x39⟩]),
      ("graph", [⟨0x21, 0x7E⟩]),
      ("lower", [⟨0x61, 0x7A⟩]),
      ("print", [⟨0x20, 0x7E⟩]),
      ("punct", [⟨0x21, 0x2F⟩, ⟨0x3A, 0x40⟩, ⟨0x5B, 0x60⟩, ⟨0x7B, 0x7E⟩]),
      ("space", asciiSpace),
      ("upper", [⟨0x41, 0x5A⟩]),
      ("word", asciiWord),
      ("xdigit", [⟨0x30, 0x39⟩, ⟨0x41, 0x46⟩, ⟨0x61, 0x66⟩])]
  (table.find? fun entry => entry.1.toList == name).map (·.2)

/--
Read a named ASCII class such as `[:alpha:]` from after its bracket. What is
none is read as a class of its own.
-/
def readAsciiClass?
    (text : List Char) :
    Option (Bool × CharSet × List Char) :=
  match text with
  | ':' :: rest =>
      let (negated, rest) :=
        match rest with
        | '^' :: rest => (true, rest)
        | rest => (false, rest)
      match rest.dropWhile (· != ':') with
      | ':' :: ']' :: left =>
          (asciiClass? (rest.takeWhile (· != ':'))).map fun set =>
            (negated, set, left)
      | _ => none
  | _ => none

/-- Read the hyphens that open a class: each stands for itself. -/
def readLeadingHyphens
    (flags : Flags) :
    (fuel : Nat) → Listing → List Char → Listing × List Char
  | fuel + 1, listing, '-' :: rest =>
      readLeadingHyphens flags fuel
        (listing.push (CharSet.single 0x2D) 0)
        (flags.skip rest)
  | _, listing, text => (listing, text)

/--
Read the start of a class from after its bracket: whether it is negated, and
the characters that are literal only there.
-/
def readClassStart
    (flags : Flags)
    (text : List Char) :
    Except Fault (Bool × Listing × List Char) :=
  let text := flags.skip text
  let (negated, text) :=
    match text with
    | '^' :: rest => (true, flags.skip rest)
    | text => (false, text)
  let (listing, text) := readLeadingHyphens flags text.length {} text
  match text with
  | [] => .error .badClass
  | ']' :: rest =>
      if listing.items = 0 then
        match flags.skip rest with
        | [] => .error .badClass
        | left => .ok (negated, listing.push (CharSet.single 0x5D) 0, left)
      else
        .ok (negated, listing, text)
  | text => .ok (negated, listing, text)

/-- Read one member of a class: an escape or a character. -/
def readMember
    (flags : Flags) :
    List Char → Except Fault (Atom × List Char)
  | [] => .error .badClass
  | '\\' :: rest => readEscape flags rest
  | character :: rest => .ok (.character character false, rest)

/-- The set of a member that stands alone. -/
def memberSet (flags : Flags) : Atom → Except Fault CharSet
  | .character value octet =>
      let code := value.toNat
      if flags.unicode then
        .ok (CharSet.single code)
      else if octet ∨ code < 0x80 then
        if code < 0x80 then
          .ok (CharSet.single code)
        else
          .error .partOfCharacter
      else
        .error .badClass
  | .shorthand name negated => flags.shorthandSet name negated
  | .property characters negated => flags.propertySet characters negated
  | _ => .error .badClass

/-- The set of the characters between two members. -/
def memberRange
    (flags : Flags) :
    Atom → Atom → Except Fault CharSet
  | .character low _, .character high _ =>
      if high.toNat < low.toNat then
        .error .badClass
      else if flags.unicode ∨ high.toNat < 0x80 then
        .ok [⟨low.toNat, high.toNat⟩]
      else
        .error .partOfCharacter
  | _, _ => .error .badClass

/-- The first character that blanks, or one comment sign, do not hide. -/
def peekPast : (inComment : Bool) → List Char → Option Char
  | _, [] => none
  | inComment, character :: rest =>
      if Text.isBlank character then
        peekPast inComment rest
      else if !inComment && character = '#' then
        peekPast true rest
      else
        some character

/-- The character that decides whether a hyphen makes a range. -/
def peekAfterHyphen (flags : Flags) (text : List Char) : Option Char :=
  if flags.extended then
    (peekPast false text).or text.head?
  else
    text.head?

/-- Read a member and, if a hyphen joins it to another, the range of both. -/
def readItem
    (flags : Flags)
    (text : List Char) :
    Except Fault (CharSet × List Char) := do
  let (first, rest) ← readMember flags text
  let rest := flags.skip rest
  let alone : Except Fault (CharSet × List Char) := do
    let set ← memberSet flags first
    .ok (set, rest)
  match rest with
  | [] => .error .badClass
  | '-' :: after =>
      let next := peekAfterHyphen flags after
      if next == some ']' || next == some '-' then
        alone
      else do
        let (second, left) ← readMember flags (flags.skip after)
        let set ← memberRange flags first second
        .ok (set, left)
  | _ => alone

/-- Join a list to the operator that waits for it, if one does. -/
def joinOperator
    (flags : Flags)
    (listing : Listing) :
    List ClassFrame → CharSet × Nat × List ClassFrame
  | .operator name left level :: frames =>
      (name.apply (flags.foldSet left) (flags.foldSet listing.set),
        1 + max level listing.level, frames)
  | frames => (listing.set, listing.level, frames)

/--
Read a class with the frames that are open and the list at hand. Each turn reads
at least one character, so the length of the text is fuel enough.
-/
def readClassFrom
    (flags : Flags) :
    (fuel : Nat) → List ClassFrame → Listing → List Char →
      Except Fault ClassRead
  | 0, _, _, _ => .error .badClass
  | fuel + 1, frames, listing, text =>
      let operator (name : SetOperator) (rest : List Char) :
          Except Fault ClassRead :=
        let (set, level, frames) := joinOperator flags listing frames
        readClassFrom flags fuel (.operator name set level :: frames) {} rest
      match flags.skip text with
      | [] => .error .badClass
      | '[' :: rest =>
          match readAsciiClass? rest with
          | some (negated, set, left) => do
              let set ← flags.finishSet negated set
              readClassFrom flags fuel frames (listing.push set 0) left
          | none => do
              let (negated, opened, left) ← readClassStart flags rest
              readClassFrom flags fuel
                (.bracket listing negated :: frames) opened left
      | ']' :: rest =>
          let (set, level, frames) := joinOperator flags listing frames
          match frames with
          | .bracket outer negated :: frames => do
              let set ← flags.finishSet negated set
              if frames.isEmpty then
                .ok ⟨set, 1 + level, rest⟩
              else
                readClassFrom flags fuel frames
                  (outer.push set (1 + level)) rest
          | _ => .error .badClass
      | '&' :: '&' :: rest => operator .intersection rest
      | '-' :: '-' :: rest => operator .difference rest
      | '~' :: '~' :: rest => operator .symmetricDifference rest
      | text => do
          let (set, left) ← readItem flags text
          readClassFrom flags fuel frames (listing.push set 0) left

/-- Read a class from after its opening bracket. -/
def readClass
    (flags : Flags)
    (text : List Char) :
    Except Fault ClassRead := do
  let (negated, opened, left) ← readClassStart flags text
  readClassFrom flags (left.length + 1) [.bracket {} negated] opened left

end Untrack.Pattern
