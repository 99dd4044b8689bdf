import Untrack.Pattern.Compiled
import Untrack.Proofs.Pattern.ClassAppending
import Untrack.Proofs.Pattern.Meaning

namespace Untrack.Pattern

open Json (bind_eq_ok_iff)

/-!
# Patterns in a group

A pattern is anchored by its text: a caret and an opening parenthesis go before
it, and a closing one behind. If the pattern is one by itself and the text around
it makes another, then that means what it should: the pattern, where the text
starts. A pattern that is none by itself can come to mean something else.
-/

namespace Progress

/-- What has been read stands in a group that was opened before. -/
def within (frame : Frame) (progress : Progress) : Progress :=
  { progress with frames := progress.frames ++ [frame] }

variable {frame : Frame} {progress next : Progress}
variable {before : List Item} {number : Option Nat} {flags : Flags}

/-- Opening a group goes the same way in a group. -/
theorem openGroup_within
    {start : GroupStart}
    (opens : progress.openGroup start = .ok next) :
    (progress.within frame).openGroup start = .ok (next.within frame) := by
  cases start with
  | named name =>
      unfold openGroup at opens ⊢
      simp only at opens ⊢
      split at opens
      · cases opens
      · cases opens
        exact if_neg ‹_›
  | _ =>
      cases opens
      rfl

/-- Repeating what was read last goes the same way in a group. -/
theorem repeatLast_within
    {least : Nat}
    {most : Option Nat}
    {lazy : Bool}
    (repeats : progress.repeatLast least most lazy = .ok next) :
    (progress.within frame).repeatLast least most lazy = .ok (next.within frame) := by
  obtain ⟨flags, groups, names, items, frames⟩ := progress
  cases items with
  | nil =>
      cases repeats
  | cons item items =>
      simp only [repeatLast, within] at repeats ⊢
      split at repeats
      case isTrue isRepeatable =>
        cases repeats
        exact if_pos isRepeatable
      case isFalse =>
        cases repeats

/-- A branch is finished the same way in a group. -/
theorem nextBranch_within :
    (progress.within (.group before number flags)).nextBranch =
      progress.nextBranch.within (.group before number flags) := by
  obtain ⟨_, _, _, _, frames⟩ := progress
  cases frames with
  | nil =>
      rfl
  | cons innermost frames =>
      cases innermost <;> rfl

/-- In a group the content that is open is the same. -/
theorem content_within :
    (progress.within (.group before number flags)).content =
      (progress.content.1, progress.content.2 ++ [.group before number flags]) := by
  obtain ⟨_, _, _, _, frames⟩ := progress
  cases frames with
  | nil =>
      rfl
  | cons innermost frames =>
      cases innermost <;> rfl

/-- Closing a group goes the same way in a group. -/
theorem closeGroup_within
    (closes : progress.closeGroup = .ok next) :
    (progress.within (.group before number flags)).closeGroup =
      .ok (next.within (.group before number flags)) := by
  unfold closeGroup at closes ⊢
  rw [content_within]
  split at closes
  case h_1 isContent =>
    cases closes
    rw [isContent]
    rfl
  case h_2 =>
    cases closes

end Progress

section Reading

variable {more : List Char} {before : List Item} {number : Option Nat} {flags : Flags}

/-- A repetition, lazy or not, is read the same way in a group. -/
theorem repeatLazily_within
    {progress next : Progress}
    {least : Nat}
    {most : Option Nat}
    {frame : Frame}
    {text left longer : List Char}
    (closing : Closing more)
    (isRead :
      (do
          let progress ← progress.repeatLast least most (readLazy text).1
          .ok (progress, (readLazy text).2)) =
        Except.ok (next, left))
    (follows : Follows more text longer) :
    left.length ≤ text.length ∧
      ∃ longLeft,
        Follows more left longLeft ∧
          (do
              let progress ←
                (progress.within frame).repeatLast least most (readLazy longer).1
              .ok (progress, (readLazy longer).2)) =
            Except.ok (next.within frame, longLeft) := by
  obtain ⟨isShorter, sameSign, leaves⟩ := follows_readLazy closing follows
  obtain ⟨middle, goes, isRead⟩ := bind_eq_ok_iff.mp isRead
  cases isRead
  refine ⟨isShorter, _, leaves, bind_eq_ok_iff.mpr ⟨_, ?_, rfl⟩⟩
  rw [sameSign]
  exact Progress.repeatLast_within goes

/-- A part is read the same way in a group and with more text behind. -/
theorem readPart_within
    {progress next : Progress}
    {first : Char}
    {text left longer : List Char}
    (closing : Closing more)
    (isRead : readPart progress first text = .ok (next, left))
    (follows : Follows more text longer) :
    left.length ≤ text.length ∧
      ∃ longLeft,
        Follows more left longLeft ∧
          readPart (progress.within (.group before number flags)) first longer =
            .ok (next.within (.group before number flags), longLeft) := by
  unfold readPart at isRead ⊢
  split at isRead
  case h_1 =>
    obtain ⟨⟨start, rest⟩, opens, isRead⟩ := bind_eq_ok_iff.mp isRead
    obtain ⟨middle, goes, isRead⟩ := bind_eq_ok_iff.mp isRead
    cases isRead
    obtain ⟨isShorter, longLeft, leaves, isLong⟩ :=
      carries_readGroupStart closing progress.flags follows _ opens
    refine ⟨isShorter, longLeft, leaves, ?_⟩
    refine bind_eq_ok_iff.mpr ⟨_, isLong, ?_⟩
    exact bind_eq_ok_iff.mpr ⟨_, Progress.openGroup_within goes, rfl⟩
  case h_2 =>
    obtain ⟨middle, goes, isRead⟩ := bind_eq_ok_iff.mp isRead
    cases isRead
    refine ⟨Nat.le_refl _, longer, follows, ?_⟩
    exact bind_eq_ok_iff.mpr ⟨_, Progress.closeGroup_within goes, rfl⟩
  case h_3 =>
    cases isRead
    refine ⟨Nat.le_refl _, longer, follows, ?_⟩
    rw [Progress.nextBranch_within]
  case h_4 =>
    obtain ⟨read, goes, isRead⟩ := bind_eq_ok_iff.mp isRead
    cases isRead
    obtain ⟨isShorter, longLeft, leaves, isLong⟩ :=
      carries_readClass closing progress.flags follows _ goes
    exact ⟨isShorter, longLeft, leaves, bind_eq_ok_iff.mpr ⟨_, isLong, rfl⟩⟩
  case h_5 =>
    exact repeatLazily_within closing isRead follows
  case h_6 =>
    exact repeatLazily_within closing isRead follows
  case h_7 =>
    exact repeatLazily_within closing isRead follows
  case h_8 =>
    obtain ⟨⟨least, most, rest⟩, counts, isRead⟩ := bind_eq_ok_iff.mp isRead
    obtain ⟨isShorter, longRest, behind, isLong⟩ :=
      carries_readCounts closing progress.flags follows _ counts
    have isSkipped := progress.flags.length_skip_le rest
    obtain ⟨leavesLess, longLeft, leaves, repeats⟩ :=
      repeatLazily_within closing isRead (Follows.skip closing behind progress.flags)
    refine ⟨?_, longLeft, leaves, bind_eq_ok_iff.mpr ⟨_, isLong, repeats⟩⟩
    exact Nat.le_trans (Nat.le_trans leavesLess isSkipped) isShorter
  case h_9 =>
    obtain ⟨⟨atom, rest⟩, isAtom, isRead⟩ := bind_eq_ok_iff.mp isRead
    obtain ⟨expr, means, isRead⟩ := bind_eq_ok_iff.mp isRead
    cases isRead
    obtain ⟨isShorter, longLeft, leaves, isLong⟩ :=
      carries_readAtom closing progress.flags first follows _ isAtom
    refine ⟨isShorter, longLeft, leaves, bind_eq_ok_iff.mpr ⟨_, isLong, ?_⟩⟩
    exact bind_eq_ok_iff.mpr ⟨_, means, rfl⟩

/-- Where a text ends, no parts are read. -/
theorem readParts_of_end
    {progress : Progress}
    {text : List Char}
    (fuel : Nat)
    (isEnd : progress.flags.skip text = []) :
    readParts fuel progress text = .ok progress := by
  cases fuel <;> simp [readParts, isEnd]

/-- Elsewhere one part is read, and then others are. -/
theorem readParts_of_cons
    {progress : Progress}
    {text rest : List Char}
    {first : Char}
    (fuel : Nat)
    (begins : progress.flags.skip text = first :: rest) :
    readParts (fuel + 1) progress text =
      readPart progress first rest >>= fun read => readParts fuel read.1 read.2 := by
  rw [readParts.eq_def]
  simp only [begins]

/-- Reading parts begins where blanks and comments end. -/
theorem readParts_congr
    {progress : Progress}
    {text other : List Char}
    (fuel : Nat)
    (isSame : progress.flags.skip text = progress.flags.skip other) :
    readParts fuel progress text = readParts fuel progress other := by
  unfold readParts
  rw [isSame]

/-- A parenthesis is no blank. -/
theorem Closing.skip_eq (closing : Closing more) (flags : Flags) :
    flags.skip more = more := by
  obtain ⟨tail, rfl⟩ := closing.starts
  rw [Flags.skip]
  split <;> rfl

/-- Behind the end of a text stands what was put there, or nothing. -/
theorem readParts_at_end
    {progress : Progress}
    {text longer : List Char}
    {fuel : Nat}
    (closing : Closing more)
    (isEnough : longer.length ≤ fuel)
    (follows : Follows more text longer)
    (isEnd : progress.flags.skip text = []) :
    readParts fuel progress longer = .ok progress ∨
      ∃ fuelLeft,
        more.length ≤ fuelLeft ∧
          readParts fuel progress longer = readParts fuelLeft progress more := by
  have skipped := follows.skip closing progress.flags
  rw [isEnd] at skipped
  rcases skipped with isMore | isNone
  · rw [List.nil_append] at isMore
    have isShorter := progress.flags.length_skip_le longer
    rw [isMore] at isShorter
    refine .inr ⟨fuel, Nat.le_trans isShorter isEnough, readParts_congr fuel ?_⟩
    rw [isMore, closing.skip_eq]
  · exact .inl (readParts_of_end fuel isNone)

/--
Parts are read the same way in a group. Then what was put behind the text is left,
unless the text ends in a comment, which swallows it.
-/
theorem readParts_within
    {fuel longFuel : Nat}
    {progress last : Progress}
    {text longer : List Char}
    (closing : Closing more)
    (isEnough : text.length ≤ fuel)
    (isLongEnough : longer.length ≤ longFuel)
    (follows : Follows more text longer)
    (isRead : readParts fuel progress text = .ok last) :
    let frame := Frame.group before number flags
    readParts longFuel (progress.within frame) longer = .ok (last.within frame) ∨
      ∃ fuelLeft,
        more.length ≤ fuelLeft ∧
          readParts longFuel (progress.within frame) longer =
            readParts fuelLeft (last.within frame) more := by
  intro frame
  have atEnd {fuel longFuel : Nat} {progress : Progress} {text longer : List Char}
      (isLongEnough : longer.length ≤ longFuel)
      (follows : Follows more text longer)
      (isEnd : progress.flags.skip text = [])
      (isRead : readParts fuel progress text = .ok last) :
      readParts longFuel (progress.within frame) longer = .ok (last.within frame) ∨
        ∃ fuelLeft,
          more.length ≤ fuelLeft ∧
            readParts longFuel (progress.within frame) longer =
              readParts fuelLeft (last.within frame) more := by
    obtain rfl := Except.ok.inj ((readParts_of_end fuel isEnd).symm.trans isRead)
    exact readParts_at_end closing isLongEnough follows isEnd
  induction fuel generalizing progress text longer longFuel with
  | zero =>
      have isShorter := progress.flags.length_skip_le text
      have isEnd : progress.flags.skip text = [] :=
        List.length_eq_zero_iff.mp (by omega)
      exact atEnd isLongEnough follows isEnd isRead
  | succ fuel inductionHypothesis =>
      have isShorter := progress.flags.length_skip_le text
      have isLongShorter := progress.flags.length_skip_le longer
      have skipped := follows.skip closing progress.flags
      cases begins : progress.flags.skip text with
      | nil =>
          exact atEnd isLongEnough follows begins isRead
      | cons first rest =>
          rw [readParts_of_cons _ begins] at isRead
          obtain ⟨⟨middle, left⟩, isPart, isRead⟩ := bind_eq_ok_iff.mp isRead
          rw [begins] at skipped isShorter
          obtain ⟨longRest, isLong, behind⟩ := skipped.cons
          rw [isLong, List.length_cons] at isLongShorter
          rw [List.length_cons] at isShorter
          obtain ⟨longFuel, rfl⟩ :=
            Nat.exists_eq_add_one_of_ne_zero (by omega : longFuel ≠ 0)
          obtain ⟨leavesLess, longLeft, leaves, isLongPart⟩ :=
            @readPart_within _ before number flags _ _ _ _ _ _ closing isPart behind
          have longLeavesLess :=
            (@readPart_within _ before number flags _ _ _ _ _ _ closing isLongPart
              (.inr rfl)).1
          have longBegins :
              (progress.within frame).flags.skip longer = first :: longRest := isLong
          have isLongRead :
              readParts (longFuel + 1) (progress.within frame) longer =
                readParts longFuel (middle.within frame) longLeft := by
            rw [readParts_of_cons _ longBegins, isLongPart]
            rfl
          rw [isLongRead]
          exact inductionHypothesis (by omega) (by omega) leaves isRead

end Reading

/-! ## Anchored patterns -/

/-- What is open behind the signs that anchor a pattern. -/
def anchorFrame : Frame :=
  .group [Item.flat (.assertion .textStart)] none {}

/-- The signs that anchor a pattern open a group behind a caret. -/
theorem readParts_anchor (fuel : Nat) (text : List Char) :
    readParts (fuel + 2) {} ("^(?:".toList ++ text) =
      readParts fuel (({} : Progress).within anchorFrame) text := by
  let anchored := ({} : Progress).push (Item.flat (.assertion .textStart))
  have isCaret :
      ({} : Progress).flags.skip ("^(?:".toList ++ text) =
        '^' :: '(' :: '?' :: ':' :: text :=
    rfl
  have isGroup :
      anchored.flags.skip ('(' :: '?' :: ':' :: text) = '(' :: '?' :: ':' :: text :=
    rfl
  rw [readParts_of_cons _ isCaret]
  exact readParts_of_cons fuel isGroup

/-- A pattern that is one has been read to its end, with no group open. -/
theorem exists_content
    {text : List Char}
    {expr : Expr}
    (isRead : read text = .ok expr) :
    ∃ progress content,
      readParts text.length {} text = .ok progress ∧
        progress.content = (content, []) ∧ content.expr = expr := by
  obtain ⟨progress, reads, isRead⟩ := bind_eq_ok_iff.mp isRead
  split at isRead
  case h_1 content isContent =>
    split at isRead
    case isTrue =>
      cases isRead
    case isFalse =>
      exact ⟨progress, content, reads, isContent, Except.ok.inj isRead⟩
  case h_2 =>
    cases isRead

/-- The progress of reading when an anchored pattern has just been closed. -/
structure Closed (expr : Expr) (progress : Progress) : Prop where
  flags_eq : progress.flags = {}
  frames_eq : progress.frames = []
  items_eq : progress.items.map Item.expr = [expr, .assertion .textStart]

/--
Where a pattern is one by itself, the signs around it close what they opened, and
behind them stands nothing but what was put there.
-/
theorem exists_closed
    {text tail : List Char}
    {expr wrapped : Expr}
    (closing : Closing (')' :: tail))
    (isRead : read text = .ok expr)
    (isWrapped : read ("^(?:".toList ++ text ++ ')' :: tail) = .ok wrapped) :
    ∃ closed last fuel,
      Closed expr closed ∧
        tail.length ≤ fuel ∧
        readParts fuel closed tail = .ok last ∧
        last.content.1.expr = wrapped := by
  obtain ⟨progress, content, reads, isContent, rfl⟩ := exists_content isRead
  obtain ⟨last, lastContent, readsAll, isLast, rfl⟩ := exists_content isWrapped
  have isLength :
      ("^(?:".toList ++ text ++ ')' :: tail).length =
        (text ++ ')' :: tail).length + 2 + 2 := by
    simp
  rw [isLength, List.append_assoc, readParts_anchor] at readsAll
  have isGroup :
      (progress.within anchorFrame).content = (content, [anchorFrame]) := by
    rw [anchorFrame, Progress.content_within, isContent, List.nil_append]
  rcases
    @readParts_within _ [Item.flat (.assertion .textStart)] none {} _ _ _ _ _ _ closing
      (Nat.le_refl _) (Nat.le_add_right _ 2) (.inl rfl) reads with
    isOpen | ⟨fuel, fits, isSame⟩
  · -- The closing sign was swallowed, so that the group is still open.
    obtain rfl : last = progress.within anchorFrame :=
      Except.ok.inj (readsAll.symm.trans isOpen)
    rw [isGroup] at isLast
    cases isLast
  · have isSign : (progress.within anchorFrame).flags.skip (')' :: tail) = ')' :: tail :=
      closing.skip_eq _
    cases fuel with
    | zero =>
        cases fits
    | succ fuel =>
        let closed : Progress :=
          { progress with
            flags := {}
            items := [Item.grouped none content, Item.flat (.assertion .textStart)]
            frames := [] }
        have closes :
            readPart (progress.within anchorFrame) ')' tail = .ok (closed, tail) := by
          have isClosed : (progress.within anchorFrame).closeGroup = .ok closed := by
            rw [Progress.closeGroup, isGroup]
            rfl
          exact bind_eq_ok_iff.mpr ⟨closed, isClosed, rfl⟩
        have readsTail : readParts fuel closed tail = .ok last := by
          rw [← readsAll]
          refine Eq.symm (isSame.trans ?_)
          rw [← anchorFrame, readParts_of_cons fuel isSign, closes]
          rfl
        refine ⟨closed, last, fuel, ⟨rfl, rfl, rfl⟩, Nat.le_of_succ_le_succ fits, readsTail, ?_⟩
        rw [isLast]

/-- What was closed means the pattern where the text starts. -/
theorem Closed.content_eq
    {expr : Expr}
    {closed : Progress}
    (isClosed : Closed expr closed)
    (items : List Item) :
    ({ closed with items := items ++ closed.items } : Progress).content.1.expr =
      Expr.concat (.assertion .textStart :: expr :: (items.map Item.expr).reverse) := by
  obtain ⟨flags, groups, names, closedItems, frames⟩ := closed
  obtain rfl : frames = [] := isClosed.frames_eq
  change Expr.concat ((items ++ closedItems).reverse.map Item.expr) = _
  rw [List.map_reverse, List.map_append, isClosed.items_eq]
  simp

/-- A pattern that is anchored is itself where the text starts. -/
theorem read_anchored
    {text : List Char}
    {expr wrapped : Expr}
    (isRead : read text = .ok expr)
    (isWrapped : read (anchoredText text) = .ok wrapped) :
    wrapped = Expr.concat [.assertion .textStart, expr] := by
  have closing : Closing [')'] := ⟨⟨[], rfl⟩, by decide, by decide⟩
  obtain ⟨closed, last, fuel, isClosed, -, reads, rfl⟩ :=
    exists_closed closing isRead isWrapped
  have isEnd : closed.flags.skip [] = [] := by
    rw [isClosed.flags_eq]
    rfl
  obtain rfl := Except.ok.inj ((readParts_of_end fuel isEnd).symm.trans reads)
  exact isClosed.content_eq []

/-- A pattern for whole texts is itself between their start and their end. -/
theorem read_whole
    {text : List Char}
    {expr wrapped : Expr}
    (isRead : read text = .ok expr)
    (isWrapped : read (wholeText text) = .ok wrapped) :
    wrapped = Expr.concat [.assertion .textStart, expr, .assertion .textStop] := by
  have closing : Closing [')', '$'] := ⟨⟨['$'], rfl⟩, by decide, by decide⟩
  obtain ⟨closed, last, fuel, isClosed, fits, reads, rfl⟩ :=
    exists_closed closing isRead isWrapped
  have skips (rest : List Char) : closed.flags.skip rest = rest := by
    rw [isClosed.flags_eq]
    rfl
  cases fuel with
  | zero =>
      cases fits
  | succ fuel =>
      have isStop :
          readPart closed '$' [] =
            .ok (closed.push (Item.flat (.assertion .textStop)), []) := by
        refine bind_eq_ok_iff.mpr ⟨(.lineStop, []), rfl, ?_⟩
        refine bind_eq_ok_iff.mpr ⟨.assertion .textStop, ?_, rfl⟩
        rw [isClosed.flags_eq]
        rfl
      rw [readParts_of_cons fuel (skips ['$']), isStop] at reads
      have atEnd :
          readParts fuel (closed.push (Item.flat (.assertion .textStop))) [] = _ :=
        readParts_of_end fuel (skips [])
      obtain rfl := Except.ok.inj (atEnd.symm.trans reads)
      exact isClosed.content_eq [Item.flat (.assertion .textStop)]

end Untrack.Pattern
