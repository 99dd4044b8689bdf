import Untrack.Text.Canonical.Class
import Untrack.Text.Canonical.Composite
import Untrack.Text.Canonical.Hangul
import Untrack.Text.Canonical.Variant

namespace Untrack.Text.Canonical

/-!
# The canonical form of a text

Texts that mean the same can be written with different characters: a letter with
a mark as one character or as two, marks in one order or another. The canonical
form of a text takes every character apart, puts the marks in order, and joins
again what has a character of its own. Texts are lists of code points here.
-/

/-! ## Taking apart -/

/-- What a character is made of, one step down; none if it is not made of others. -/
def parts? (code : Nat) : Option (List Nat) :=
  match variantOf? code with
  | some meant => some [meant]
  | none =>
      ((composites.find? (·.whole == code)).or
        (separated.find? (·.whole == code))).map fun composite =>
          [composite.base, composite.mark]

/-- How many steps down the parts of a character reach. -/
def maxDepth : Nat := 4

/-- The character taken apart, so many steps down. -/
def takeApart : (depth : Nat) → (code : Nat) → List Nat
  | 0, code => [code]
  | depth + 1, code =>
      match parts? code with
      | some parts => parts.flatMap (takeApart depth)
      | none => [code]

/-- The character taken apart as far as it goes. -/
def decompose (code : Nat) : List Nat :=
  if code < 0xC0 then
    [code]
  else
    (Hangul.letters? code).getD (takeApart maxDepth code)

/-! ## Order of marks -/

/-- Put a character before others, but behind the marks of a lower class. -/
def place (code : Nat) : List Nat → List Nat
  | [] => [code]
  | first :: rest =>
      if 0 < combiningClass first ∧
          combiningClass first < combiningClass code then
        first :: place code rest
      else
        code :: first :: rest

/-- Put the marks on each character in the order of their classes. -/
def order (codes : List Nat) : List Nat :=
  codes.foldr place []

/-- Putting a character in its place leaves out and adds nothing else. -/
theorem place_perm (code : Nat) (codes : List Nat) :
    (place code codes).Perm (code :: codes) := by
  induction codes with
  | nil => exact List.Perm.refl _
  | cons first rest inductionHypothesis =>
      unfold place
      split
      · exact (inductionHypothesis.cons first).trans (List.Perm.swap ..)
      · exact List.Perm.refl _

/-- Ordering the marks leaves out and adds nothing. -/
theorem order_perm (codes : List Nat) : (order codes).Perm codes := by
  induction codes with
  | nil => exact List.Perm.refl _
  | cons code rest inductionHypothesis =>
      exact (place_perm code _).trans (inductionHypothesis.cons code)

/-! ## Joining -/

/-- The character that means the same as two, if there is one. -/
def join? (base mark : Nat) : Option Nat :=
  if mark < 0x300 then
    none
  else
    (Hangul.join? base mark).or
      ((composites.find? fun composite =>
        composite.base == base && composite.mark == mark).map (·.whole))

/-- No mark among those held back, which come in order, stands in the way. -/
def reaches (held : List Nat) (code : Nat) : Bool :=
  (held.getLast?.map fun last =>
    decide (combiningClass last < combiningClass code)).getD true

/--
Join what follows a base to it as far as it can be. The marks held back stand
between the base and what follows, since they could not be joined.
-/
def joinTo (base : Nat) (held : List Nat) : List Nat → List Nat
  | [] => base :: held
  | code :: rest =>
      match (if reaches held code then join? base code else none) with
      | some whole => joinTo whole held rest
      | none =>
          if combiningClass code = 0 then
            base :: held ++ joinTo code [] rest
          else
            joinTo base (held ++ [code]) rest

/-- Join all that can be joined; marks before the first base stay. -/
def compose : List Nat → List Nat
  | [] => []
  | code :: rest =>
      if combiningClass code = 0 then
        joinTo code [] rest
      else
        code :: compose rest

/-- The canonical form of a text in code points. -/
def form (codes : List Nat) : List Nat :=
  compose (order (codes.flatMap decompose))

/-- The canonical form of a text. -/
def normalize (text : List Char) : List Char :=
  (form (text.map Char.toNat)).map Char.ofNat

end Untrack.Text.Canonical
