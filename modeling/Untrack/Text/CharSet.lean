namespace Untrack.Text

/-!
# Sets of characters

A set of characters is a list of ranges of code points, in any order and with
any overlap. The operations are those of sets. `normal` gives the one list of a
set: its ranges ascend, and no two of them overlap or touch. The lemmas say which
characters a complement has, and that the normal list has those of the set.
-/

/-- The code points from `low` to `high`, both included. -/
structure CharRange where
  low : Nat
  high : Nat
  deriving Repr, DecidableEq

namespace CharRange

/-- The code point lies in the range. -/
def has (range : CharRange) (code : Nat) : Bool :=
  range.low ≤ code && code ≤ range.high

/-- What is left of a range when another is taken away. -/
def subtract (range taken : CharRange) : List CharRange :=
  if taken.high < range.low ∨ range.high < taken.low ∨
      taken.high < taken.low then
    [range]
  else
    (if range.low < taken.low then [⟨range.low, taken.low - 1⟩] else []) ++
      (if taken.high < range.high then [⟨taken.high + 1, range.high⟩] else [])

/-- The code points of both ranges; it may be an empty range. -/
def overlap (left right : CharRange) : CharRange :=
  ⟨max left.low right.low, min left.high right.high⟩

end CharRange

/-- A set of characters as a list of ranges. -/
abbrev CharSet := List CharRange

namespace CharSet

/-- The code point lies in some range of the set. -/
def hasCode (set : CharSet) (code : Nat) : Bool :=
  set.any (·.has code)

/-- The character belongs to the set. -/
def has (set : CharSet) (character : Char) : Bool :=
  set.hasCode character.toNat

/-- Every code point. -/
def full : CharSet :=
  [⟨0, 0x10FFFF⟩]

/-- The set of one code point. -/
def single (code : Nat) : CharSet :=
  [⟨code, code⟩]

/-- The set of some code points. -/
def ofCodes (codes : List Nat) : CharSet :=
  codes.map fun code => ⟨code, code⟩

/-- The members of either set. -/
def union (left right : CharSet) : CharSet :=
  left ++ right

/-- The members of a set that do not lie in a range. -/
def without (set : CharSet) (taken : CharRange) : CharSet :=
  set.flatMap (·.subtract taken)

/-- The members of the first set that are no members of the second. -/
def difference (left right : CharSet) : CharSet :=
  right.foldl without left

/-- The code points outside a set. -/
def complement (set : CharSet) : CharSet :=
  full.difference set

/-- The members of both sets. -/
def intersection (left right : CharSet) : CharSet :=
  left.flatMap fun first =>
    (right.map first.overlap).filter fun range => range.low ≤ range.high

/-- The members of exactly one of two sets. -/
def symmetricDifference (left right : CharSet) : CharSet :=
  (left.difference right).union (right.difference left)

/-- Join ranges that overlap or touch to the one before them. -/
def joinFrom (range : CharRange) : List CharRange → CharSet
  | [] => [range]
  | next :: rest =>
      if next.low ≤ range.high + 1 then
        joinFrom ⟨range.low, max range.high next.high⟩ rest
      else
        range :: joinFrom next rest

/-- Put a range before the first one that does not begin below it. -/
def insert (range : CharRange) : List CharRange → List CharRange
  | [] => [range]
  | next :: rest =>
      if range.low ≤ next.low then
        range :: next :: rest
      else
        next :: insert range rest

/-- The ranges that hold a code point, in ascending order. -/
def ascending (set : CharSet) : List CharRange :=
  (set.filter fun range => range.low ≤ range.high).foldr insert []

/-- The set with its ranges in order and joined where they can be. -/
def normal (set : CharSet) : CharSet :=
  match set.ascending with
  | [] => []
  | first :: rest => joinFrom first rest

/-- Every member is an ASCII character. -/
def isAscii (set : CharSet) : Bool :=
  set.all fun range => range.high < 0x80

/-- Taking a range away from a range takes away its code points alone. -/
theorem hasCode_subtract (range taken : CharRange) (code : Nat) :
    hasCode (range.subtract taken) code =
      (range.has code && !taken.has code) := by
  rw [Bool.eq_iff_iff]
  unfold CharRange.subtract CharRange.has hasCode
  split
  · simp [CharRange.has]
    omega
  · split <;> split <;> simp [CharRange.has] <;> omega

/-- Taking a range away from a set takes away its code points alone. -/
theorem hasCode_without (set : CharSet) (taken : CharRange) (code : Nat) :
    (set.without taken).hasCode code =
      (set.hasCode code && !taken.has code) := by
  induction set with
  | nil => simp [without, hasCode]
  | cons range rest inductionHypothesis =>
      have headCodes := hasCode_subtract range taken code
      simp only [without, hasCode, List.flatMap_cons, List.any_append,
        List.any_cons] at *
      rw [inductionHypothesis, headCodes]
      cases range.has code <;> cases taken.has code <;> simp

/-- A difference keeps what only the first set has. -/
theorem hasCode_difference (left right : CharSet) (code : Nat) :
    (left.difference right).hasCode code =
      (left.hasCode code && !right.hasCode code) := by
  induction right generalizing left with
  | nil => simp [difference, hasCode]
  | cons range rest inductionHypothesis =>
      have afterHead := inductionHypothesis (left.without range)
      simp only [difference, List.foldl_cons] at *
      rw [afterHead, hasCode_without]
      simp [hasCode, Bool.and_assoc]

/-- Joining ranges in ascending order changes no membership. -/
theorem hasCode_joinFrom (range : CharRange) (ranges : List CharRange) (code : Nat)
    (inOrder : (range :: ranges).Pairwise fun left right => left.low ≤ right.low)
    (areRanges : ∀ next ∈ ranges, next.low ≤ next.high) :
    (joinFrom range ranges).hasCode code = hasCode (range :: ranges) code := by
  induction ranges generalizing range with
  | nil => rfl
  | cons next rest inductionHypothesis =>
      simp only [List.pairwise_cons, List.mem_cons, forall_eq_or_imp] at inOrder
      simp only [List.mem_cons, forall_eq_or_imp] at areRanges
      obtain ⟨⟨lowNext, lowRest⟩, nextRest, restOrder⟩ := inOrder
      obtain ⟨isNext, areRest⟩ := areRanges
      unfold joinFrom
      split
      · rename_i touches
        rw [inductionHypothesis _ (by simp; exact ⟨lowRest, restOrder⟩) areRest]
        simp only [hasCode, List.any_cons, CharRange.has]
        cases rest.any fun range => range.low ≤ code && code ≤ range.high
        · rw [Bool.eq_iff_iff]
          simp
          omega
        · simp
      · simp only [hasCode, List.any_cons] at *
        rw [inductionHypothesis next (by simp; exact ⟨nextRest, restOrder⟩) areRest]

/-- A range that is inserted joins those that are there. -/
theorem mem_insert (range other : CharRange) (ranges : List CharRange) :
    other ∈ insert range ranges ↔ other = range ∨ other ∈ ranges := by
  induction ranges with
  | nil => simp [insert]
  | cons next rest inductionHypothesis =>
      unfold insert
      split
      · simp
      · simp only [List.mem_cons, inductionHypothesis]
        exact or_left_comm

/-- Inserting a range keeps ranges in order. -/
theorem pairwise_insert (range : CharRange) (ranges : List CharRange)
    (inOrder : ranges.Pairwise fun left right => left.low ≤ right.low) :
    (insert range ranges).Pairwise fun left right => left.low ≤ right.low := by
  induction ranges with
  | nil => simp [insert]
  | cons next rest inductionHypothesis =>
      obtain ⟨lowNext, restOrder⟩ := List.pairwise_cons.mp inOrder
      unfold insert
      split
      · rename_i isFirst
        refine List.pairwise_cons.mpr ⟨?_, inOrder⟩
        intro other isMember
        rcases List.mem_cons.mp isMember with same | inRest
        · rw [same]
          exact isFirst
        · exact Nat.le_trans isFirst (lowNext other inRest)
      · rename_i isLater
        refine List.pairwise_cons.mpr ⟨?_, inductionHypothesis restOrder⟩
        intro other isMember
        rcases (mem_insert range other rest).mp isMember with same | inRest
        · rw [same]
          omega
        · exact lowNext other inRest

/-- The ascending ranges are those of the set that hold a code point. -/
theorem mem_ascending (set : CharSet) (range : CharRange) :
    range ∈ set.ascending ↔ range ∈ set ∧ range.low ≤ range.high := by
  have inserted (ranges : List CharRange) :
      range ∈ ranges.foldr insert [] ↔ range ∈ ranges := by
    induction ranges with
    | nil => rfl
    | cons first rest inductionHypothesis =>
        rw [List.foldr_cons, mem_insert, inductionHypothesis, List.mem_cons]
  rw [ascending, inserted]
  simp

/-- The ascending ranges are in order. -/
theorem pairwise_ascending (set : CharSet) :
    set.ascending.Pairwise fun left right => left.low ≤ right.low := by
  unfold ascending
  induction set.filter fun range => range.low ≤ range.high with
  | nil => exact .nil
  | cons first rest inductionHypothesis =>
      exact pairwise_insert first _ inductionHypothesis

/-- The ascending ranges hold the code points of the set. -/
theorem hasCode_ascending (set : CharSet) (code : Nat) :
    hasCode set.ascending code = set.hasCode code := by
  rw [Bool.eq_iff_iff]
  simp only [hasCode, List.any_eq_true, mem_ascending, CharRange.has,
    Bool.and_eq_true, decide_eq_true_eq]
  constructor
  · rintro ⟨range, ⟨isMember, _⟩, isIn⟩
    exact ⟨range, isMember, isIn⟩
  · rintro ⟨range, isMember, isIn⟩
    exact ⟨range, ⟨isMember, by omega⟩, isIn⟩

/-- A set in normal form has the same members. -/
theorem hasCode_normal (set : CharSet) (code : Nat) :
    set.normal.hasCode code = set.hasCode code := by
  rw [← hasCode_ascending set]
  have inOrder := pairwise_ascending set
  have areRanges : ∀ range ∈ set.ascending, range.low ≤ range.high :=
    fun range isMember => ((mem_ascending set range).mp isMember).2
  unfold normal
  cases shape : set.ascending with
  | nil => rfl
  | cons first rest =>
      rw [shape] at inOrder areRanges
      exact hasCode_joinFrom first rest code inOrder
        fun range isMember => areRanges range (List.mem_cons_of_mem _ isMember)

/-- A character belongs to a complement when it does not belong to the set. -/
theorem has_complement (set : CharSet) (character : Char) :
    set.complement.has character = !set.has character := by
  have valid : character.toNat ≤ 0x10FFFF := by
    have range := character.valid
    simp only [UInt32.isValidChar, Nat.isValidChar] at range
    have same : character.toNat = character.val.toNat := rfl
    omega
  have inAll : hasCode full character.toNat = true := by
    simp [full, hasCode, CharRange.has, valid]
  simp [has, complement, hasCode_difference, inAll]

end CharSet

end Untrack.Text
