import Untrack.Pattern.Expr

namespace Untrack.Pattern

/-!
# What expressions mean

An expression reads a text from one place to another, and its groups note places
on the way. `Expr.Reads` says between which cursors it can do so, without a word
about how a match is found or which of several is preferred.
-/

/-- A place that a match has come to, and what its groups have noted so far. -/
structure Cursor where
  position : Nat
  slots : List (Option Nat)
  deriving Repr, DecidableEq

namespace Cursor

/-- Past one character. -/
def past (cursor : Cursor) : Cursor :=
  { cursor with position := cursor.position + 1 }

/-- Note the place in a slot. -/
def note (slot : Nat) (cursor : Cursor) : Cursor :=
  { cursor with slots := cursor.slots.set slot (some cursor.position) }

end Cursor

/-- The character before a place. -/
def before? (text : List Char) : (position : Nat) → Option Char
  | 0 => none
  | position + 1 => text[position]?

/-- So many steps lead from one thing to another. -/
def Times {α : Type} (step : α → α → Prop) : (count : Nat) → α → α → Prop
  | 0, first, last => last = first
  | count + 1, first, last => ∃ next, step first next ∧ Times step count next last

/--
The expression reads a text from one cursor to another. A repetition with an
upper end below its lower one reads its body as often as the lower end says.
-/
def Expr.Reads (text : List Char) : Expr → Cursor → Cursor → Prop
  | .empty, first, last => last = first
  | .set characters, first, last =>
      ∃ character,
        text[first.position]? = some character ∧
          characters.has character = true ∧ last = first.past
  | .assertion required, first, last =>
      required.holds (before? text first.position) text[first.position]? = true ∧
        last = first
  | .group index body, first, last =>
      ∃ inside,
        body.Reads text (first.note (2 * index)) inside ∧
          last = inside.note (2 * index + 1)
  | .seq left right, first, last =>
      ∃ middle, left.Reads text first middle ∧ right.Reads text middle last
  | .either left right, first, last =>
      left.Reads text first last ∨ right.Reads text first last
  | .repeated least most _ body, first, last =>
      ∃ count,
        least ≤ count ∧ (∀ limit, most = some limit → count ≤ max least limit) ∧
          Times (fun first last => body.Reads text first last) count first last

/-- What the groups of an expression have noted before it reads anything. -/
def Expr.blank (expr : Expr) : List (Option Nat) :=
  List.replicate (2 * expr.lastGroup + 2) none

/-- The expression matches the text between two places. -/
def Expr.Matches (expr : Expr) (text : List Char) (start stop : Nat) : Prop :=
  ∃ slots, expr.Reads text ⟨start, expr.blank⟩ ⟨stop, slots⟩

/-! ## Chains of steps -/

/-- A chain is one chain after another. -/
theorem times_add
    {α : Type}
    {step : α → α → Prop}
    {front back : Nat}
    {first last : α} :
    Times step (front + back) first last ↔
      ∃ middle, Times step front first middle ∧ Times step back middle last := by
  induction front generalizing first with
  | zero =>
      simp [Times]
  | succ front inductionHypothesis =>
      simp only [Nat.succ_add, Times, inductionHypothesis]
      constructor
      · rintro ⟨next, isStep, middle, chain, others⟩
        exact ⟨middle, ⟨next, isStep, chain⟩, others⟩
      · rintro ⟨middle, ⟨next, isStep, chain⟩, others⟩
        exact ⟨next, isStep, middle, chain, others⟩

/-- A chain of one step. -/
theorem times_one
    {α : Type}
    {step : α → α → Prop}
    {first last : α} :
    Times step 1 first last ↔ step first last := by
  simp [Times]

/-- What a step keeps, a chain of steps keeps. -/
theorem Times.keeps
    {α : Type}
    {step : α → α → Prop}
    (holds : α → Prop)
    (stepKeeps : ∀ {first last}, step first last → holds first → holds last)
    {count : Nat}
    {first last : α}
    (chain : Times step count first last)
    (atFirst : holds first) :
    holds last := by
  induction count generalizing first with
  | zero =>
      rw [show last = first from chain]
      exact atFirst
  | succ count inductionHypothesis =>
      obtain ⟨next, isStep, chain⟩ := chain
      exact inductionHypothesis chain (stepKeeps isStep atFirst)

/-! ## Places -/

/-- An expression that begins inside a text ends inside it. -/
theorem Expr.Reads.position_le
    {text : List Char}
    {expr : Expr}
    {first last : Cursor}
    (reads : expr.Reads text first last)
    (inside : first.position ≤ text.length) :
    last.position ≤ text.length := by
  induction expr generalizing first last with
  | empty =>
      rw [show last = first from reads]
      exact inside
  | set characters =>
      obtain ⟨character, isThere, -, rfl⟩ := reads
      exact (List.getElem?_eq_some_iff.mp isThere).1
  | assertion required =>
      rw [reads.2]
      exact inside
  | group index body inductionHypothesis =>
      obtain ⟨middle, bodyReads, rfl⟩ := reads
      have bodyInside : middle.position ≤ text.length :=
        inductionHypothesis bodyReads inside
      exact bodyInside
  | seq left right leftHypothesis rightHypothesis =>
      obtain ⟨middle, leftReads, rightReads⟩ := reads
      exact rightHypothesis rightReads (leftHypothesis leftReads inside)
  | either left right leftHypothesis rightHypothesis =>
      rcases reads with leftReads | rightReads
      · exact leftHypothesis leftReads inside
      · exact rightHypothesis rightReads inside
  | repeated least most greedy body inductionHypothesis =>
      obtain ⟨count, -, -, chain⟩ := reads
      exact
        chain.keeps (fun cursor => cursor.position ≤ text.length)
          (fun reads inside => inductionHypothesis reads inside) inside

/-! ## Sequences -/

/-- The expressions read a text one after another. -/
def ReadsAll (text : List Char) : List Expr → Cursor → Cursor → Prop
  | [], first, last => last = first
  | expr :: rest, first, last =>
      ∃ middle, expr.Reads text first middle ∧ ReadsAll text rest middle last

/-- Two lists of expressions read one after the other. -/
theorem readsAll_append
    {text : List Char}
    {front back : List Expr}
    {first last : Cursor} :
    ReadsAll text (front ++ back) first last ↔
      ∃ middle, ReadsAll text front first middle ∧ ReadsAll text back middle last := by
  induction front generalizing first with
  | nil =>
      simp [ReadsAll]
  | cons expr rest inductionHypothesis =>
      simp only [List.cons_append, ReadsAll, inductionHypothesis]
      constructor
      · rintro ⟨next, reads, middle, chain, others⟩
        exact ⟨middle, ⟨next, reads, chain⟩, others⟩
      · rintro ⟨middle, ⟨next, reads, chain⟩, others⟩
        exact ⟨next, reads, middle, chain, others⟩

/-- One expression alone. -/
theorem readsAll_singleton
    {text : List Char}
    {expr : Expr}
    {first last : Cursor} :
    ReadsAll text [expr] first last ↔ expr.Reads text first last := by
  simp [ReadsAll]

namespace Expr

/-- Parts that are put together read what they read one after another. -/
theorem reads_ofParts
    {text : List Char}
    {exprs : List Expr}
    {first last : Cursor} :
    (ofParts exprs).Reads text first last ↔ ReadsAll text exprs first last := by
  induction exprs generalizing first with
  | nil =>
      rfl
  | cons expr rest inductionHypothesis =>
      cases rest with
      | nil =>
          exact readsAll_singleton.symm
      | cons next others =>
          exact exists_congr fun middle => and_congr_right fun _ => inductionHypothesis

/-- The parts of an expression read what it reads. -/
theorem readsAll_parts
    {text : List Char}
    {expr : Expr}
    {first last : Cursor} :
    ReadsAll text expr.parts first last ↔ expr.Reads text first last := by
  induction expr generalizing first last with
  | empty =>
      rfl
  | seq left right leftHypothesis rightHypothesis =>
      rw [parts, readsAll_append, Reads]
      exact exists_congr fun middle => and_congr leftHypothesis rightHypothesis
  | _ =>
      exact readsAll_singleton

/-- A sequence reads what its members read one after another. -/
theorem reads_concat
    {text : List Char}
    {exprs : List Expr}
    {first last : Cursor} :
    (concat exprs).Reads text first last ↔ ReadsAll text exprs first last := by
  rw [concat, reads_ofParts]
  induction exprs generalizing first with
  | nil =>
      rfl
  | cons expr rest inductionHypothesis =>
      rw [List.flatMap_cons, readsAll_append, ReadsAll]
      exact exists_congr fun middle => and_congr readsAll_parts inductionHypothesis

/-! ## Groups of a sequence -/

/-- The highest number of a group in some expressions. -/
def lastGroupOf (exprs : List Expr) : Nat :=
  (exprs.map lastGroup).foldr max 0

/-- The groups of two lists of expressions are those of both. -/
theorem lastGroupOf_append (front back : List Expr) :
    lastGroupOf (front ++ back) = max (lastGroupOf front) (lastGroupOf back) := by
  induction front with
  | nil =>
      simp [lastGroupOf]
  | cons expr rest inductionHypothesis =>
      simp only [lastGroupOf, List.cons_append, List.map_cons, List.foldr_cons] at *
      rw [inductionHypothesis, Nat.max_assoc]

/-- Putting parts together keeps their groups. -/
theorem lastGroup_ofParts (exprs : List Expr) :
    (ofParts exprs).lastGroup = lastGroupOf exprs := by
  induction exprs with
  | nil =>
      rfl
  | cons expr rest inductionHypothesis =>
      cases rest with
      | nil =>
          simp [ofParts, lastGroupOf]
      | cons next others =>
          change max expr.lastGroup (ofParts (next :: others)).lastGroup = _
          rw [inductionHypothesis]
          rfl

/-- The parts of an expression have its groups. -/
theorem lastGroupOf_parts (expr : Expr) :
    lastGroupOf expr.parts = expr.lastGroup := by
  induction expr with
  | empty =>
      rfl
  | seq left right leftHypothesis rightHypothesis =>
      rw [parts, lastGroupOf_append, leftHypothesis, rightHypothesis, lastGroup]
  | _ =>
      exact Nat.max_zero _

/-- A sequence has the groups of its members. -/
theorem lastGroup_concat (exprs : List Expr) :
    (concat exprs).lastGroup = lastGroupOf exprs := by
  rw [concat, lastGroup_ofParts]
  induction exprs with
  | nil =>
      rfl
  | cons expr rest inductionHypothesis =>
      rw [List.flatMap_cons, lastGroupOf_append, inductionHypothesis,
        lastGroupOf_parts]
      rfl

end Expr

end Untrack.Pattern
