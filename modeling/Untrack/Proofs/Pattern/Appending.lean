import Mathlib.Data.List.TakeWhile
import Untrack.Pattern.Reader
import Untrack.Proofs.Json.Progress

namespace Untrack.Pattern

open Json (bind_eq_ok_iff)

/-!
# Reading with more text behind

Patterns are anchored by putting signs around their text. What a reader makes of
a text does not change if a closing parenthesis and more is put behind it: it
reads the same and leaves what it left, followed by what was put there. Only a
comment that the text does not end can swallow that, and then it is gone.
-/

/-- Text that closes a group and holds no sign that names or comments end at. -/
structure Closing (more : List Char) : Prop where
  starts : ∃ tail, more = ')' :: tail
  noLineEnd : '\n' ∉ more
  noColon : ':' ∉ more

/-- More text stands behind, unless a comment swallowed it. -/
def Follows (more left longer : List Char) : Prop :=
  longer = left ++ more ∨ longer = left

/-- What a reader returns holds the text that is left. -/
class HasRest (α : Type) where
  rest : α → List Char
  withRest : α → List Char → α

namespace HasRest

instance : HasRest (List Char) where
  rest := id
  withRest _ left := left

instance {α β : Type} [HasRest β] : HasRest (α × β) where
  rest value := rest value.2
  withRest value left := (value.1, withRest value.2 left)

instance : HasRest ClassRead where
  rest := ClassRead.rest
  withRest read left := { read with rest := left }

end HasRest

open HasRest (rest withRest)

/--
A reader that succeeds on a text leaves no more than the text, and it succeeds in
the same way with more text behind.
-/
def Carries
    {α : Type}
    [HasRest α]
    (more text : List Char)
    (short long : Except Fault α) :
    Prop :=
  ∀ value,
    short = .ok value →
    (rest value).length ≤ text.length ∧
      ∃ longer,
        Follows more (rest value) longer ∧ long = .ok (withRest value longer)

namespace Carries

variable {α β : Type} [HasRest α] [HasRest β]
variable {more text : List Char}

/-- A failure says nothing. -/
theorem error (fault : Fault) (long : Except Fault α) :
    Carries more text (.error fault) long :=
  nofun

/-- A value with some text that is left. -/
theorem ok
    {value : α}
    {longer : List Char}
    (isShorter : (rest value).length ≤ text.length)
    (follows : Follows more (rest value) longer) :
    Carries more text (.ok value) (.ok (withRest value longer)) := by
  rintro _ ⟨⟩
  exact ⟨isShorter, longer, follows, rfl⟩

/-- One reader after another. -/
theorem bind
    {short long : Except Fault α}
    {next longNext : α → Except Fault β}
    (first : Carries more text short long)
    (second : ∀ value longer,
      Follows more (rest value) longer →
      Carries more (rest value) (next value) (longNext (withRest value longer))) :
    Carries more text (short >>= next) (long >>= longNext) := by
  intro value isRead
  obtain ⟨between, isFirst, isSecond⟩ := bind_eq_ok_iff.mp isRead
  obtain ⟨firstShorter, middle, firstFollows, isLong⟩ := first between isFirst
  obtain ⟨secondShorter, longer, secondFollows, isLonger⟩ :=
    second between middle firstFollows value isSecond
  refine ⟨Nat.le_trans secondShorter firstShorter, longer, secondFollows, ?_⟩
  exact bind_eq_ok_iff.mpr ⟨_, isLong, isLonger⟩

/-- A reader behind a result that has no rest. -/
theorem after
    {γ : Type}
    {result : Except Fault γ}
    {short long : γ → Except Fault α}
    (carries : ∀ value, Carries more text (short value) (long value)) :
    Carries more text (result >>= short) (result >>= long) := by
  cases result with
  | error fault =>
      exact .error _ _
  | ok value =>
      exact carries value

/-- A reader that begins further on leaves no more. -/
theorem mono
    {later : List Char}
    {short long : Except Fault α}
    (carries : Carries more later short long)
    (isShorter : later.length ≤ text.length) :
    Carries more text short long := by
  intro value isRead
  obtain ⟨leavesLess, kept⟩ := carries value isRead
  exact ⟨Nat.le_trans leavesLess isShorter, kept⟩

/-- A reader that begins behind a character. -/
theorem cons
    {character : Char}
    {short long : Except Fault α}
    (carries : Carries more text short long) :
    Carries more (character :: text) short long :=
  carries.mono (Nat.le_succ _)

end Carries

/-! ## More text -/

namespace Follows

variable {more : List Char}

/-- What begins a text begins it with more text behind. -/
theorem cons
    {character : Char}
    {text longer : List Char}
    (follows : Follows more (character :: text) longer) :
    ∃ others, longer = character :: others ∧ Follows more text others := by
  rcases follows with rfl | rfl
  · exact ⟨text ++ more, rfl, .inl rfl⟩
  · exact ⟨text, rfl, .inr rfl⟩

/-- The signs that begin a text begin it with more text behind. -/
theorem signs
    {longer : List Char}
    (signs text : List Char)
    (follows : Follows more (signs ++ text) longer) :
    ∃ others, longer = signs ++ others ∧ Follows more text others := by
  rcases follows with rfl | rfl
  · exact ⟨text ++ more, List.append_assoc .., .inl rfl⟩
  · exact ⟨text, rfl, .inr rfl⟩

/-- More text is at least as long. -/
theorem length_le {text longer : List Char} (follows : Follows more text longer) :
    text.length ≤ longer.length := by
  rcases follows with rfl | rfl
  · rw [List.length_append]
    exact Nat.le_add_right _ _
  · exact Nat.le_refl _

/-- Where a sign is met, it is met with more text behind. -/
theorem splitAt
    {isOther : Char → Bool}
    {text longer left : List Char}
    {sign : Char}
    (follows : Follows more text longer)
    (meets : text.dropWhile isOther = sign :: left) :
    left.length < text.length ∧
      longer.takeWhile isOther = text.takeWhile isOther ∧
        ∃ longLeft,
          longer.dropWhile isOther = sign :: longLeft ∧ Follows more left longLeft := by
  have whole : (text.takeWhile isOther ++ text.dropWhile isOther).length = text.length :=
    congrArg List.length List.takeWhile_append_dropWhile
  rw [meets, List.length_append, List.length_cons] at whole
  refine ⟨by omega, ?_⟩
  rcases follows with rfl | rfl
  · rw [List.takeWhile_append, if_neg (by omega), List.dropWhile_append, meets]
    exact ⟨rfl, _, rfl, .inl rfl⟩
  · exact ⟨rfl, left, meets, .inr rfl⟩

end Follows

/-! ## Codes, names and flags -/

section Names

variable {more : List Char}

/-- The atom of a code, if it is that of a character. -/
def atomOfCode (octet : Bool) (read : Nat × List Char) :
    Except Fault (Atom × List Char) :=
  match scalar? read.1 with
  | some value => .ok (.character value octet, read.2)
  | none => .error .badEscape

/-- The code of a character in braces. -/
theorem readCode_of_brace
    {flags : Flags}
    {width : Nat}
    {text others : List Char}
    (isBrace : flags.skip text = '\x7b' :: others) :
    readCode flags width text =
      readBraced flags (flags.skip others).length none (flags.skip others) >>=
        atomOfCode false := by
  rw [readCode, isBrace]
  rfl

/-- The code of a character without braces. -/
theorem readCode_of_plain
    {flags : Flags}
    {width : Nat}
    {text : List Char}
    (noBrace : ∀ others, flags.skip text ≠ '\x7b' :: others) :
    readCode flags width text =
      readDigits flags width 0 (flags.skip text) >>= atomOfCode (width == 2) := by
  rw [readCode]
  dsimp only
  split
  · exact absurd ‹_› (noBrace _)
  · rfl

/-- The name of a group. -/
theorem carries_readGroupName
    {text longer : List Char}
    (follows : Follows more text longer) :
    Carries more text (readGroupName text) (readGroupName longer) := by
  intro value isRead
  unfold readGroupName at isRead
  split at isRead
  case h_1 first others sign left isName meets =>
    obtain ⟨isShorter, sameName, longLeft, isLeft, behind⟩ := follows.splitAt meets
    split at isRead
    case isTrue isGood =>
      cases isRead
      refine ⟨Nat.le_of_lt isShorter, longLeft, behind, ?_⟩
      rw [readGroupName, sameName, isName, isLeft]
      exact if_pos isGood
    case isFalse =>
      cases isRead
  case h_2 =>
    cases isRead

/-- The flags that a group begins with. -/
theorem carries_readFlags
    {text longer : List Char}
    (follows : Follows more text longer)
    (seen : List Char)
    (negated dangling : Bool)
    (flags : Flags) :
    Carries more text (readFlags seen negated dangling flags text)
      (readFlags seen negated dangling flags longer) := by
  induction text generalizing longer seen negated dangling flags with
  | nil =>
      unfold readFlags
      exact .error _ _
  | cons letter others inductionHypothesis =>
      obtain ⟨longer, rfl, behind⟩ := follows.cons
      have further (seen : List Char) (negated dangling : Bool) (flags : Flags) :
          Carries more (letter :: others) (readFlags seen negated dangling flags others)
            (readFlags seen negated dangling flags longer) :=
        (inductionHypothesis behind _ _ _ _).cons
      rw [readFlags, readFlags]
      split
      · split
        · exact .error _ _
        · exact .ok (Nat.le_refl _) follows
      · split
        · split
          · exact .error _ _
          · exact further _ _ _ _
        · split
          · exact .error _ _
          · split
            · exact further _ _ _ _
            · exact .error _ _

end Names

/-! ## Blanks and comments -/

section Readers

variable {more : List Char} (closing : Closing more)

/-- A comment that no line ends goes on to the end. -/
theorem skipBlanks_of_noLineEnd {text : List Char} (noLineEnd : '\n' ∉ text) :
    skipBlanks true text = [] := by
  induction text with
  | nil =>
      rfl
  | cons character rest inductionHypothesis =>
      rw [List.mem_cons, not_or] at noLineEnd
      rw [skipBlanks, bne_iff_ne.mpr (Ne.symm noLineEnd.1)]
      exact inductionHypothesis noLineEnd.2

/-- Leaving out blanks and comments makes a text no longer. -/
theorem length_skipBlanks_le (inComment : Bool) (text : List Char) :
    (skipBlanks inComment text).length ≤ text.length := by
  induction text generalizing inComment with
  | nil =>
      exact Nat.le_refl _
  | cons character others inductionHypothesis =>
      have further (later : Bool) :
          (skipBlanks later others).length ≤ (character :: others).length :=
        Nat.le_succ_of_le (inductionHypothesis later)
      cases inComment with
      | true =>
          exact further _
      | false =>
          rw [skipBlanks]
          split
          · exact further _
          · split
            · exact further _
            · exact Nat.le_refl _

/-- Where they are left out at all, that is. -/
theorem Flags.length_skip_le (flags : Flags) (text : List Char) :
    (flags.skip text).length ≤ text.length := by
  rw [Flags.skip]
  split
  · exact length_skipBlanks_le false text
  · exact Nat.le_refl _

include closing

/-- Blanks and comments are left out all the same with more text behind. -/
theorem follows_skipBlanks (inComment : Bool) (text : List Char) :
    Follows more (skipBlanks inComment text) (skipBlanks inComment (text ++ more)) := by
  induction text generalizing inComment with
  | nil =>
      cases inComment with
      | true =>
          exact .inr (skipBlanks_of_noLineEnd closing.noLineEnd)
      | false =>
          obtain ⟨tail, rfl⟩ := closing.starts
          exact .inl rfl
  | cons character others inductionHypothesis =>
      rw [List.cons_append]
      cases inComment with
      | true =>
          exact inductionHypothesis _
      | false =>
          rw [skipBlanks, skipBlanks]
          split
          · exact inductionHypothesis _
          · split
            · exact inductionHypothesis _
            · exact .inl rfl

/-- Where blanks and comments are left out at all, that is. -/
theorem Follows.skip
    {text longer : List Char}
    (follows : Follows more text longer)
    (flags : Flags) :
    Follows more (flags.skip text) (flags.skip longer) := by
  rw [Flags.skip, Flags.skip]
  split
  · rcases follows with rfl | rfl
    · exact follows_skipBlanks closing false text
    · exact .inr rfl
  · exact follows

/-- A value that was read up to a character, and up to what is left out behind it. -/
theorem Carries.okSkip
    {α : Type}
    {character : Char}
    {text longer : List Char}
    (follows : Follows more text longer)
    (flags : Flags)
    (value : α) :
    Carries more (character :: text) (.ok (value, flags.skip text))
      (.ok (value, flags.skip longer)) := by
  exact .ok (Nat.le_succ_of_le (flags.length_skip_le text)) (follows.skip closing flags)

/-! ## Digits and counts -/

/-- A number of hexadecimal digits. -/
theorem carries_readDigits
    (flags : Flags)
    (count soFar : Nat)
    {text longer : List Char}
    (follows : Follows more text longer) :
    Carries more text (readDigits flags count soFar text)
      (readDigits flags count soFar longer) := by
  induction count generalizing soFar text longer with
  | zero =>
      exact .ok (Nat.le_refl _) follows
  | succ count inductionHypothesis =>
      cases text with
      | nil =>
          exact .error _ _
      | cons digit others =>
          obtain ⟨longer, rfl, behind⟩ := follows.cons
          simp only [readDigits]
          split
          · have skipped := behind.skip closing flags
            exact ((inductionHypothesis _ skipped).mono (flags.length_skip_le _)).cons
          · exact .error _ _

/-- Hexadecimal digits in braces. -/
theorem carries_readBraced
    (flags : Flags)
    {fuel longFuel : Nat}
    (isMore : fuel ≤ longFuel)
    (soFar : Option Nat)
    {text longer : List Char}
    (follows : Follows more text longer) :
    Carries more text (readBraced flags fuel soFar text)
      (readBraced flags longFuel soFar longer) := by
  induction fuel generalizing longFuel soFar text longer with
  | zero =>
      exact .error _ _
  | succ fuel inductionHypothesis =>
      obtain ⟨longFuel, rfl⟩ := Nat.exists_eq_add_one_of_ne_zero (by omega : longFuel ≠ 0)
      cases text with
      | nil =>
          exact .error _ _
      | cons character others =>
          obtain ⟨longer, rfl, behind⟩ := follows.cons
          simp only [readBraced]
          split
          · split
            · exact .okSkip closing behind flags _
            · exact .error _ _
          · split
            · have skipped := behind.skip closing flags
              exact ((inductionHypothesis (by omega) _ skipped).mono (flags.length_skip_le _)).cons
            · exact .error _ _

/-- What begins the longer text begins the text, but for the parenthesis. -/
theorem Follows.of_signs
    {signs text others : List Char}
    (follows : Follows more text (signs ++ others))
    (isOther : ')' ∉ signs) :
    ∃ rest, text = signs ++ rest := by
  obtain ⟨tail, rfl⟩ := closing.starts
  rcases follows with same | same
  · induction signs generalizing text with
    | nil =>
        exact ⟨text, rfl⟩
    | cons sign signs inductionHypothesis =>
        rw [List.mem_cons, not_or] at isOther
        cases text with
        | nil =>
            exact absurd (List.cons.inj same).1.symm isOther.1
        | cons first rest =>
            obtain ⟨rfl, sameRest⟩ := List.cons.inj same
            obtain ⟨left, rfl⟩ := inductionHypothesis isOther.2 sameRest
            exact ⟨left, rfl⟩
  · exact ⟨others, same.symm⟩

/-- Signs that do not begin a text do not begin it with more text behind. -/
theorem Follows.not_signs
    (signs : List Char)
    {text longer : List Char}
    (follows : Follows more text longer)
    (noneBegins : ∀ others, text = signs ++ others → False)
    (isOther : ')' ∉ signs) :
    ∀ others, longer = signs ++ others → False := by
  rintro others rfl
  obtain ⟨rest, same⟩ := follows.of_signs closing isOther
  exact noneBegins rest same

/-- The code of a character. -/
theorem carries_readCode
    (flags : Flags)
    (width : Nat)
    {text longer : List Char}
    (follows : Follows more text longer) :
    Carries more text (readCode flags width text) (readCode flags width longer) := by
  have skipped := follows.skip closing flags
  have atom (octet : Bool) (read : Nat × List Char) (longer : List Char)
      (follows : Follows more (rest read) longer) :
      Carries more (rest read) (atomOfCode octet read)
        (atomOfCode octet (withRest read longer)) := by
    unfold atomOfCode
    dsimp only [withRest]
    split
    · exact .ok (Nat.le_refl _) follows
    · exact .error _ _
  by_cases isBrace : ∃ others, flags.skip text = '\x7b' :: others
  · obtain ⟨others, isBrace⟩ := isBrace
    have isShorter := flags.length_skip_le text
    have isShorter' := flags.length_skip_le others
    rw [isBrace] at skipped isShorter
    obtain ⟨longOthers, isLong, behind⟩ := skipped.cons
    have skipped := behind.skip closing flags
    rw [readCode_of_brace isBrace, readCode_of_brace isLong]
    have braced := carries_readBraced closing flags skipped.length_le none skipped
    exact (braced.bind (atom _)).mono (by simp only [List.length_cons] at *; omega)
  · rw [not_exists] at isBrace
    have noBrace : ∀ others, flags.skip longer ≠ ['\x7b'] ++ others :=
      skipped.not_signs closing ['\x7b'] isBrace (by decide)
    rw [readCode_of_plain isBrace, readCode_of_plain noBrace]
    have digits := carries_readDigits closing flags width 0 skipped
    exact (digits.bind (atom _)).mono (flags.length_skip_le text)

/-! ## Escapes -/

/-- The name of an edge in braces. -/
theorem carries_readEdgeName
    (flags : Flags)
    {fuel longFuel : Nat}
    (isMore : fuel ≤ longFuel)
    (name : List Char)
    {text longer : List Char}
    (follows : Follows more text longer) :
    Carries more text (readEdgeName flags fuel name text)
      (readEdgeName flags longFuel name longer) := by
  induction fuel generalizing longFuel name text longer with
  | zero =>
      exact .error _ _
  | succ fuel inductionHypothesis =>
      obtain ⟨longFuel, rfl⟩ := Nat.exists_eq_add_one_of_ne_zero (by omega : longFuel ≠ 0)
      cases text with
      | nil =>
          exact .error _ _
      | cons character others =>
          obtain ⟨longer, rfl, behind⟩ := follows.cons
          simp only [readEdgeName]
          split
          · have skipped := behind.skip closing flags
            exact ((inductionHypothesis (by omega) _ skipped).mono (flags.length_skip_le _)).cons
          · split
            · split
              · exact .ok (Nat.le_succ _) behind
              · exact .error _ _
            · exact .error _ _

/-- A boundary and the edge that it may name. -/
theorem carries_readBoundary
    (flags : Flags)
    {text longer : List Char}
    (follows : Follows more text longer) :
    Carries more text (readBoundary flags text) (readBoundary flags longer) := by
  by_cases isBrace : ∃ others, text = '\x7b' :: others
  · obtain ⟨others, rfl⟩ := isBrace
    obtain ⟨longer, rfl, behind⟩ := follows.cons
    have isShorter := flags.length_skip_le others
    have skipped := behind.skip closing flags
    simp only [readBoundary]
    generalize flags.skip others = short at *
    generalize flags.skip longer = long at *
    cases short with
    | nil =>
        exact .error _ _
    | cons character rest =>
        obtain ⟨rest, rfl, -⟩ := skipped.cons
        dsimp only
        split
        · have named := carries_readEdgeName closing flags skipped.length_le [] skipped
          refine Carries.cons (Carries.mono (named.bind ?_) isShorter)
          exact fun _ _ behind => .ok (Nat.le_refl _) behind
        · exact .ok (Nat.le_refl _) follows
  · rw [not_exists] at isBrace
    have isPlain {text : List Char} (noBrace : ∀ others, text ≠ '\x7b' :: others) :
        readBoundary flags text =
          .ok (.assertion (.word .boundary flags.unicode), text) := by
      unfold readBoundary
      split
      · exact absurd rfl (noBrace _)
      · rfl
    have noBrace : ∀ others, longer ≠ ['\x7b'] ++ others :=
      follows.not_signs closing ['\x7b'] isBrace (by decide)
    rw [isPlain isBrace, isPlain noBrace]
    exact .ok (Nat.le_refl _) follows

/-- The name of a property in braces. -/
theorem carries_readPropertyName
    (flags : Flags)
    {fuel longFuel : Nat}
    (isMore : fuel ≤ longFuel)
    (name : List Char)
    {text longer : List Char}
    (follows : Follows more text longer) :
    Carries more text (readPropertyName flags fuel name text)
      (readPropertyName flags longFuel name longer) := by
  induction fuel generalizing longFuel name text longer with
  | zero =>
      exact .error _ _
  | succ fuel inductionHypothesis =>
      obtain ⟨longFuel, rfl⟩ := Nat.exists_eq_add_one_of_ne_zero (by omega : longFuel ≠ 0)
      cases text with
      | nil =>
          exact .error _ _
      | cons character others =>
          obtain ⟨longer, rfl, behind⟩ := follows.cons
          simp only [readPropertyName]
          split
          · exact .ok (Nat.le_succ _) behind
          · have skipped := behind.skip closing flags
            exact ((inductionHypothesis (by omega) _ skipped).mono (flags.length_skip_le _)).cons

omit closing in
/-- The atom of a property. -/
theorem carries_propertyAtom
    (negated : Bool)
    (name : List Char)
    {text longer : List Char}
    (follows : Follows more text longer) :
    Carries more text (propertyAtom negated name text)
      (propertyAtom negated name longer) := by
  unfold propertyAtom
  split
  · exact .ok (Nat.le_refl _) follows
  · exact .error _ _

/-- A property, by one letter or by a name in braces. -/
theorem carries_readProperty
    (flags : Flags)
    (negated : Bool)
    {text longer : List Char}
    (follows : Follows more text longer) :
    Carries more text (readProperty flags negated text)
      (readProperty flags negated longer) := by
  have isShorter := flags.length_skip_le text
  have begun := follows.skip closing flags
  unfold readProperty
  generalize flags.skip text = short at *
  generalize flags.skip longer = long at *
  refine Carries.mono ?_ isShorter
  cases short with
  | nil =>
      exact .error _ _
  | cons letter others =>
      obtain ⟨longer, rfl, behind⟩ := begun.cons
      have noLonger := flags.length_skip_le others
      have skipped := behind.skip closing flags
      refine Carries.cons ?_
      by_cases isBrace : letter = '\x7b'
      · subst isBrace
        have named := carries_readPropertyName closing flags skipped.length_le [] skipped
        refine Carries.mono (named.bind ?_) noLonger
        exact fun _ _ behind => carries_propertyAtom negated _ behind
      · by_cases isSlash : letter = '\\'
        · subst isSlash
          exact .error _ _
        · simp only
          exact (carries_propertyAtom negated _ skipped).mono noLonger

/-- What a backslash makes of the characters after it. -/
theorem carries_readEscape
    (flags : Flags)
    {text longer : List Char}
    (follows : Follows more text longer) :
    Carries more text (readEscape flags text) (readEscape flags longer) := by
  cases text with
  | nil =>
      exact .error _ _
  | cons letter others =>
      obtain ⟨longer, rfl, behind⟩ := follows.cons
      have isCode (width : Nat) :
          Carries more (letter :: others) (readCode flags width others)
            (readCode flags width longer) :=
        (carries_readCode closing flags width behind).cons
      have isProperty (negated : Bool) :
          Carries more (letter :: others) (readProperty flags negated others)
            (readProperty flags negated longer) :=
        (carries_readProperty closing flags negated behind).cons
      have isAtom (atom : Atom) :
          Carries more (letter :: others) (.ok (atom, others)) (.ok (atom, longer)) :=
        .ok (Nat.le_succ _) behind
      unfold readEscape
      dsimp only
      split
      case h_20 =>
        exact (carries_readBoundary closing flags behind).cons
      case h_24 =>
        split
        · exact isAtom _
        · exact .error _ _
      all_goals first | exact isCode _ | exact isProperty _ | exact isAtom _

/-- One atom. -/
theorem carries_readAtom
    (flags : Flags)
    (first : Char)
    {text longer : List Char}
    (follows : Follows more text longer) :
    Carries more text (readAtom flags first text) (readAtom flags first longer) := by
  have isAtom (atom : Atom) : Carries more text (.ok (atom, text)) (.ok (atom, longer)) :=
    .ok (Nat.le_refl _) follows
  unfold readAtom
  split
  case h_1 =>
    exact carries_readEscape closing flags follows
  all_goals exact isAtom _

/-! ## Groups -/

/-- What a parenthesis opens. -/
theorem carries_readGroupStart
    (flags : Flags)
    {text longer : List Char}
    (follows : Follows more text longer) :
    Carries more text (readGroupStart flags text) (readGroupStart flags longer) := by
  have skipped := follows.skip closing flags
  have isShorter := flags.length_skip_le text
  unfold readGroupStart
  generalize flags.skip text = short at *
  generalize flags.skip longer = long at *
  refine Carries.mono ?_ isShorter
  have named {text longer : List Char} (follows : Follows more text longer) :
      Carries more text
        (readGroupName text >>= fun read => .ok (GroupStart.named read.1, read.2))
        (readGroupName longer >>= fun read => .ok (GroupStart.named read.1, read.2)) :=
    (carries_readGroupName follows).bind fun _ _ behind => .ok (Nat.le_refl _) behind
  split
  case h_5 others =>
    obtain ⟨longer, rfl, behind⟩ := Follows.signs ['?', 'P', '<'] others skipped
    exact (named behind).cons.cons.cons
  case h_6 others notEqual notMark =>
    obtain ⟨longer, rfl, behind⟩ := Follows.signs ['?', '<'] others skipped
    have longEqual : ∀ left, longer = '=' :: left → False :=
      behind.not_signs closing ['='] notEqual (by decide)
    have longMark : ∀ left, longer = '!' :: left → False :=
      behind.not_signs closing ['!'] notMark (by decide)
    simp only [List.cons_append, List.nil_append]
    exact (named behind).cons.cons
  case h_7 others notEqual notMark _ _ notName notAngle =>
    obtain ⟨longer, rfl, behind⟩ := skipped.cons
    have longEqual : ∀ left, longer = '=' :: left → False :=
      behind.not_signs closing ['='] notEqual (by decide)
    have longMark : ∀ left, longer = '!' :: left → False :=
      behind.not_signs closing ['!'] notMark (by decide)
    have longName : ∀ left, longer = 'P' :: '<' :: left → False :=
      behind.not_signs closing ['P', '<'] notName (by decide)
    have longAngle : ∀ left, longer = '<' :: left → False :=
      behind.not_signs closing ['<'] notAngle (by decide)
    have longAhead : ∀ left, longer = '<' :: '=' :: left → False := fun _ => longAngle _
    have longBehind : ∀ left, longer = '<' :: '!' :: left → False := fun _ => longAngle _
    simp only
    refine Carries.cons ((carries_readFlags behind [] false false flags).bind ?_)
    rintro ⟨seen, inner, left⟩ longLeft (leaves : Follows more left longLeft)
    change Carries more left _ _
    cases left with
    | nil =>
        exact .error _ _
    | cons sign others =>
        obtain ⟨longer, rfl, after⟩ := leaves.cons
        dsimp only [withRest]
        by_cases isColon : sign = ':'
        · subst isColon
          exact .ok (Nat.le_succ _) after
        · simp only
          split
          · exact .error _ _
          · exact .ok (Nat.le_succ _) after
  case h_8 notEqual notMark _ _ notName notAngle notFlags =>
    have longFlags : ∀ left, long = ['?'] ++ left → False :=
      skipped.not_signs closing ['?'] notFlags (by decide)
    split
    case h_8 =>
      exact .ok (Nat.le_refl _) skipped
    all_goals exact (longFlags _ rfl).elim
  all_goals exact .error _ _

/-! ## Repetitions -/

/-- A question mark after a repetition. -/
theorem follows_readLazy
    {text longer : List Char}
    (follows : Follows more text longer) :
    (readLazy text).2.length ≤ text.length ∧
      (readLazy longer).1 = (readLazy text).1 ∧
        Follows more (readLazy text).2 (readLazy longer).2 := by
  by_cases isMark : ∃ others, text = '?' :: others
  · obtain ⟨others, rfl⟩ := isMark
    obtain ⟨longer, rfl, behind⟩ := follows.cons
    exact ⟨Nat.le_succ _, rfl, behind⟩
  · rw [not_exists] at isMark
    have isPlain {text : List Char} (noMark : ∀ others, text ≠ '?' :: others) :
        readLazy text = (false, text) := by
      unfold readLazy
      split
      · exact absurd rfl (noMark _)
      · rfl
    have noMark : ∀ others, longer ≠ ['?'] ++ others :=
      follows.not_signs closing ['?'] isMark (by decide)
    rw [isPlain isMark, isPlain noMark]
    exact ⟨Nat.le_refl _, rfl, follows⟩

/-- Behind the end of a text stands nothing, or the parenthesis. -/
theorem Follows.nil {longer : List Char} (follows : Follows more [] longer) :
    longer = [] ∨ ∃ tail, longer = ')' :: tail := by
  obtain ⟨tail, rfl⟩ := closing.starts
  rcases follows with rfl | rfl
  · exact .inr ⟨tail, rfl⟩
  · exact .inl rfl

/-- Behind the end of a text stand no digits. -/
theorem readDecimalDigits_of_end
    {longer : List Char}
    (follows : Follows more [] longer)
    (flags : Flags)
    (fuel : Nat)
    (soFar : Option Nat) :
    readDecimalDigits flags fuel soFar longer = (soFar, longer) := by
  rcases follows.nil closing with rfl | ⟨tail, rfl⟩ <;> cases fuel <;> rfl

/-- Decimal digits, with fuel enough. -/
theorem follows_readDecimalDigits
    (flags : Flags)
    {fuel longFuel : Nat}
    (soFar : Option Nat)
    {text longer : List Char}
    (isEnough : text.length ≤ fuel)
    (isLongEnough : longer.length ≤ longFuel)
    (follows : Follows more text longer) :
    (readDecimalDigits flags fuel soFar text).2.length ≤ text.length ∧
      (readDecimalDigits flags longFuel soFar longer).1 =
        (readDecimalDigits flags fuel soFar text).1 ∧
        Follows more (readDecimalDigits flags fuel soFar text).2
          (readDecimalDigits flags longFuel soFar longer).2 := by
  induction fuel generalizing longFuel soFar text longer with
  | zero =>
      obtain rfl : text = [] := List.length_eq_zero_iff.mp (Nat.le_zero.mp isEnough)
      rw [readDecimalDigits_of_end closing follows,
        readDecimalDigits_of_end closing (.inr rfl)]
      exact ⟨Nat.le_refl _, rfl, follows⟩
  | succ fuel inductionHypothesis =>
      cases text with
      | nil =>
          rw [readDecimalDigits_of_end closing follows,
            readDecimalDigits_of_end closing (.inr rfl)]
          exact ⟨Nat.le_refl _, rfl, follows⟩
      | cons digit others =>
          obtain ⟨longer, rfl, behind⟩ := follows.cons
          cases longFuel with
          | zero =>
              exact absurd isLongEnough (Nat.not_succ_le_zero _)
          | succ longFuel =>
              have isShorter := flags.length_skip_le others
              have isShorterLong := flags.length_skip_le longer
              rw [List.length_cons] at isEnough isLongEnough
              simp only [readDecimalDigits]
              split
              · obtain ⟨leavesLess, others⟩ :=
                  @inductionHypothesis longFuel _ _ _ (by omega) (by omega)
                    (behind.skip closing flags)
                refine ⟨?_, others⟩
                rw [List.length_cons]
                omega
              · exact ⟨Nat.le_refl _, rfl, follows⟩

/-- Blanks are dropped all the same. -/
theorem Follows.dropBlanks
    {text longer : List Char}
    (follows : Follows more text longer) :
    Follows more (text.dropWhile Text.isBlank) (longer.dropWhile Text.isBlank) := by
  obtain ⟨tail, rfl⟩ := closing.starts
  rcases follows with rfl | rfl
  · rw [List.dropWhile_append]
    split
    case isTrue isEmpty =>
      rw [List.isEmpty_iff.mp isEmpty]
      exact .inl rfl
    case isFalse =>
      exact .inl rfl
  · exact .inr rfl

/-- A blank begins a text all the same. -/
theorem Follows.head_isBlank
    {text longer : List Char}
    (follows : Follows more text longer) :
    longer.head?.any Text.isBlank = text.head?.any Text.isBlank := by
  cases text with
  | nil =>
      rcases follows.nil closing with rfl | ⟨tail, rfl⟩ <;> rfl
  | cons first others =>
      obtain ⟨longer, rfl, -⟩ := follows.cons
      rfl

/-- A count with blanks around it. -/
theorem carries_readCount
    (flags : Flags)
    {text longer : List Char}
    (follows : Follows more text longer) :
    Carries more text (readCount flags text) (readCount flags longer) := by
  have isDropped := (List.dropWhile_sublist Text.isBlank (l := text)).length_le
  have dropped := follows.dropBlanks closing
  unfold readCount
  dsimp only
  generalize text.dropWhile Text.isBlank = short at *
  generalize longer.dropWhile Text.isBlank = long at *
  obtain ⟨isShorter, sameCount, leaves⟩ :=
    follows_readDecimalDigits closing flags none (Nat.le_refl _) (Nat.le_refl _) dropped
  generalize readDecimalDigits flags short.length none short = digits at *
  generalize readDecimalDigits flags long.length none long = longDigits at *
  obtain ⟨count, left⟩ := digits
  obtain ⟨longCount, longLeft⟩ := longDigits
  obtain rfl : longCount = count := sameCount
  dsimp only at *
  split
  · exact .error _ _
  · rw [leaves.head_isBlank closing]
    split
    · have isSkipped := flags.length_skip_le (left.dropWhile Text.isBlank)
      have isBlankless := (List.dropWhile_sublist Text.isBlank (l := left)).length_le
      refine .ok ?_ ((leaves.dropBlanks closing).skip closing flags)
      change (flags.skip (left.dropWhile Text.isBlank)).length ≤ text.length
      omega
    · refine .ok ?_ leaves
      change left.length ≤ text.length
      omega

/-- Read the upper end of a repetition, up to the closing brace. -/
def readMost
    (flags : Flags)
    (least : Nat)
    (text : List Char) :
    Except Fault (Nat × Option Nat × List Char) := do
  let (second, rest) ← readCount flags text
  match second, rest with
  | some most, '\x7d' :: left =>
      if least ≤ most then
        .ok (least, some most, left)
      else
        .error .badCount
  | _, _ => .error .badCount

/-- The upper end of a repetition. -/
theorem carries_readMost
    (flags : Flags)
    (least : Nat)
    {text longer : List Char}
    (follows : Follows more text longer) :
    Carries more text (readMost flags least text) (readMost flags least longer) := by
  refine Carries.bind (carries_readCount closing flags follows) ?_
  rintro ⟨count, left⟩ longLeft (leaves : Follows more left longLeft)
  change Carries more left _ _
  dsimp only [withRest]
  split
  · obtain ⟨longer, rfl, behind⟩ := leaves.cons
    simp only
    split
    · exact .ok (Nat.le_succ _) behind
    · exact .error _ _
  · exact .error _ _

/-- The counts of a repetition. -/
theorem carries_readCounts
    (flags : Flags)
    {text longer : List Char}
    (follows : Follows more text longer) :
    Carries more text (readCounts flags text) (readCounts flags longer) := by
  have isSkipped := flags.length_skip_le text
  have first := carries_readCount closing flags (follows.skip closing flags)
  unfold readCounts
  refine Carries.mono (first.bind ?_) isSkipped
  rintro ⟨count, left⟩ longLeft (leaves : Follows more left longLeft)
  change Carries more left _ _
  dsimp only [withRest]
  split
  case h_1 least others =>
    obtain ⟨longer, rfl, behind⟩ := leaves.cons
    have isShorter := flags.length_skip_le others
    have skipped := behind.skip closing flags
    simp only
    generalize flags.skip others = short at *
    generalize flags.skip longer = long at *
    refine Carries.cons (Carries.mono ?_ isShorter)
    split
    case h_1 left =>
      obtain ⟨longer, rfl, behind⟩ := skipped.cons
      exact .ok (Nat.le_succ _) behind
    case h_2 noBrace =>
      have longNoBrace : ∀ left, long = ['\x7d'] ++ left → False :=
        skipped.not_signs closing ['\x7d'] noBrace (by decide)
      split
      · exact (longNoBrace _ rfl).elim
      · exact carries_readMost closing flags least skipped
  case h_2 =>
    obtain ⟨longer, rfl, behind⟩ := leaves.cons
    exact .ok (Nat.le_succ _) behind
  case h_3 =>
    exact .error _ _

end Readers

end Untrack.Pattern
