import Untrack.Proofs.Pattern.Appending

namespace Untrack.Pattern

open HasRest (rest withRest)

/-!
# Reading classes with more text behind

A class in brackets ends at its own bracket, so text that is put behind it changes
nothing about how it is read. What stands in it is looked at some signs ahead, for
names, for ranges and for the operators between sets; none of these signs is one
that the text behind can begin with.
-/

section Classes

variable {more : List Char} (closing : Closing more)

include closing

/-- Read a caret, and what may be left out behind it. -/
def readCaret (flags : Flags) : List Char → Bool × List Char
  | '^' :: rest => (true, flags.skip rest)
  | text => (false, text)

/-- A caret. -/
theorem follows_readCaret
    (flags : Flags)
    {text longer : List Char}
    (follows : Follows more text longer) :
    (readCaret flags text).2.length ≤ text.length ∧
      (readCaret flags longer).1 = (readCaret flags text).1 ∧
        Follows more (readCaret flags text).2 (readCaret flags longer).2 := by
  by_cases isCaret : ∃ others, text = '^' :: others
  · obtain ⟨others, rfl⟩ := isCaret
    obtain ⟨longer, rfl, behind⟩ := follows.cons
    exact
      ⟨Nat.le_succ_of_le (flags.length_skip_le others), rfl, behind.skip closing flags⟩
  · rw [not_exists] at isCaret
    have isPlain {text : List Char} (noCaret : ∀ others, text ≠ '^' :: others) :
        readCaret flags text = (false, text) := by
      unfold readCaret
      split
      · exact absurd rfl (noCaret _)
      · rfl
    have noCaret : ∀ others, longer ≠ ['^'] ++ others :=
      follows.not_signs closing ['^'] isCaret (by decide)
    rw [isPlain isCaret, isPlain noCaret]
    exact ⟨Nat.le_refl _, rfl, follows⟩

/-- Read a named class from behind the sign that negates it. -/
def readClassName? (negated : Bool) (text : List Char) :
    Option (Bool × Text.CharSet × List Char) :=
  match text.dropWhile (· != ':') with
  | ':' :: ']' :: left =>
      (asciiClass? (text.takeWhile (· != ':'))).map fun set => (negated, set, left)
  | _ => none

/-- Two outcomes without a value, or with one that leaves more text behind. -/
def CarriesOption
    {α : Type}
    [HasRest α]
    (more text : List Char)
    (short long : Option α) :
    Prop :=
  (short = none ∧ long = none) ∨
    ∃ value longer,
      short = some value ∧ long = some (withRest value longer) ∧
        (rest value).length ≤ text.length ∧ Follows more (rest value) longer

/-- The name of a named class. -/
theorem carries_readClassName?
    (negated : Bool)
    {text longer : List Char}
    (follows : Follows more text longer) :
    CarriesOption more text (readClassName? negated text)
      (readClassName? negated longer) := by
  unfold readClassName?
  cases meets : text.dropWhile (· != ':') with
  | nil =>
      have isEnd : longer.dropWhile (· != ':') = [] := by
        rcases follows with rfl | rfl
        · rw [List.dropWhile_append, meets, List.isEmpty_nil, if_pos rfl]
          refine List.dropWhile_eq_nil_iff.mpr fun character member => ?_
          exact bne_iff_ne.mpr fun isColon => closing.noColon (isColon ▸ member)
        · exact meets
      rw [isEnd]
      exact .inl ⟨rfl, rfl⟩
  | cons sign left =>
      obtain ⟨isShorter, sameName, longLeft, isLeft, behind⟩ := follows.splitAt meets
      rw [isLeft, sameName]
      have noBracket (isNone : ∀ others, left = ']' :: others → False) :
          ∀ others, longLeft = [']'] ++ others → False :=
        behind.not_signs closing [']'] isNone (by decide)
      split
      case h_1 others same =>
        obtain ⟨rfl, rfl⟩ := List.cons.inj same
        obtain ⟨longer, rfl, after⟩ := behind.cons
        cases asciiClass? (text.takeWhile (· != ':')) with
        | none =>
            exact .inl ⟨rfl, rfl⟩
        | some set =>
            refine .inr ⟨_, longer, rfl, rfl, ?_, after⟩
            exact Nat.le_of_lt (Nat.lt_of_succ_lt isShorter)
      case h_2 isNone =>
        refine .inl ⟨rfl, ?_⟩
        split
        case h_1 others same =>
          obtain ⟨rfl, rfl⟩ := List.cons.inj same
          exact (noBracket (fun others same => isNone others (same ▸ rfl)) _ rfl).elim
        case h_2 =>
          rfl

/-- A named class. -/
theorem carries_readAsciiClass?
    {text longer : List Char}
    (follows : Follows more text longer) :
    CarriesOption more text (readAsciiClass? text) (readAsciiClass? longer) := by
  by_cases isColon : ∃ others, text = ':' :: others
  · obtain ⟨others, rfl⟩ := isColon
    obtain ⟨longer, rfl, behind⟩ := follows.cons
    have isName (rest : List Char) :
        readAsciiClass? (':' :: rest) =
          readClassName? (readCaret {} rest).1 (readCaret {} rest).2 :=
      rfl
    obtain ⟨isShorter, sameSign, after⟩ := follows_readCaret closing {} behind
    rw [isName, isName, sameSign]
    rcases carries_readClassName? closing _ after with
      isNone | ⟨value, left, isShort, isLong, leavesLess, leaves⟩
    · exact .inl isNone
    · refine .inr ⟨value, left, isShort, isLong, ?_, leaves⟩
      rw [List.length_cons]
      omega
  · rw [not_exists] at isColon
    have isNone {text : List Char} (noColon : ∀ others, text ≠ ':' :: others) :
        readAsciiClass? text = none := by
      unfold readAsciiClass?
      split
      · exact absurd rfl (noColon _)
      · rfl
    have noColon : ∀ others, longer ≠ [':'] ++ others :=
      follows.not_signs closing [':'] isColon (by decide)
    exact .inl ⟨isNone isColon, isNone noColon⟩

/-- Hyphens that open a class, with fuel enough. -/
theorem follows_readLeadingHyphens
    (flags : Flags)
    {fuel longFuel : Nat}
    (listing : Listing)
    {text longer : List Char}
    (isEnough : text.length ≤ fuel)
    (isLongEnough : longer.length ≤ longFuel)
    (follows : Follows more text longer) :
    (readLeadingHyphens flags fuel listing text).2.length ≤ text.length ∧
      (readLeadingHyphens flags longFuel listing longer).1 =
        (readLeadingHyphens flags fuel listing text).1 ∧
        Follows more (readLeadingHyphens flags fuel listing text).2
          (readLeadingHyphens flags longFuel listing longer).2 := by
  have isPlain {text : List Char} (noHyphen : ∀ others, text ≠ '-' :: others)
      (fuel : Nat) (listing : Listing) :
      readLeadingHyphens flags fuel listing text = (listing, text) := by
    unfold readLeadingHyphens
    split
    · exact absurd rfl (noHyphen _)
    · rfl
  have plain {text longer : List Char} (noHyphen : ∀ others, text ≠ '-' :: others)
      (follows : Follows more text longer) (fuel longFuel : Nat) (listing : Listing) :
      (readLeadingHyphens flags fuel listing text).2.length ≤ text.length ∧
        (readLeadingHyphens flags longFuel listing longer).1 =
          (readLeadingHyphens flags fuel listing text).1 ∧
          Follows more (readLeadingHyphens flags fuel listing text).2
            (readLeadingHyphens flags longFuel listing longer).2 := by
    have longNoHyphen : ∀ others, longer ≠ ['-'] ++ others :=
      follows.not_signs closing ['-'] noHyphen (by decide)
    rw [isPlain noHyphen, isPlain longNoHyphen]
    exact ⟨Nat.le_refl _, rfl, follows⟩
  induction fuel generalizing longFuel listing text longer with
  | zero =>
      obtain rfl : text = [] := List.length_eq_zero_iff.mp (Nat.le_zero.mp isEnough)
      exact plain (fun _ => (List.cons_ne_nil _ _).symm) follows _ _ _
  | succ fuel inductionHypothesis =>
      by_cases isHyphen : ∃ others, text = '-' :: others
      · obtain ⟨others, rfl⟩ := isHyphen
        obtain ⟨longer, rfl, behind⟩ := follows.cons
        cases longFuel with
        | zero =>
            exact absurd isLongEnough (Nat.not_succ_le_zero _)
        | succ longFuel =>
            have isShorter := flags.length_skip_le others
            have isShorterLong := flags.length_skip_le longer
            rw [List.length_cons] at isEnough isLongEnough
            obtain ⟨leavesLess, others⟩ :=
              @inductionHypothesis longFuel (listing.push (Text.CharSet.single 0x2D) 0)
                _ _ (by omega) (by omega) (behind.skip closing flags)
            refine ⟨Nat.le_succ_of_le (Nat.le_trans leavesLess isShorter), others⟩
      · exact plain (not_exists.mp isHyphen) follows _ _ _

/-- Read the start of a class from behind the sign that negates it. -/
def readOpening
    (flags : Flags)
    (negated : Bool)
    (text : List Char) :
    Except Fault (Bool × Listing × List Char) :=
  let (listing, text) := readLeadingHyphens flags text.length {} text
  match text with
  | [] => .error .badClass
  | ']' :: rest =>
      if listing.items = 0 then
        match flags.skip rest with
        | [] => .error .badClass
        | left => .ok (negated, listing.push (Text.CharSet.single 0x5D) 0, left)
      else
        .ok (negated, listing, text)
  | text => .ok (negated, listing, text)

/-- The start of a class behind the sign that negates it. -/
theorem carries_readOpening
    (flags : Flags)
    (negated : Bool)
    {text longer : List Char}
    (follows : Follows more text longer) :
    Carries more text (readOpening flags negated text)
      (readOpening flags negated longer) := by
  obtain ⟨isShorter, sameListing, leaves⟩ :=
    follows_readLeadingHyphens closing flags {} (Nat.le_refl _) (Nat.le_refl _) follows
  unfold readOpening
  generalize readLeadingHyphens flags text.length {} text = hyphens at *
  generalize readLeadingHyphens flags longer.length {} longer = longHyphens at *
  obtain ⟨listing, left⟩ := hyphens
  obtain ⟨longListing, longLeft⟩ := longHyphens
  obtain rfl : longListing = listing := sameListing
  refine Carries.mono ?_ isShorter
  change Follows more left longLeft at leaves
  cases left with
  | nil =>
      exact .error _ _
  | cons sign others =>
      obtain ⟨longOthers, rfl, behind⟩ := leaves.cons
      have unchanged :
          Carries more (sign :: others) (.ok (negated, longListing, sign :: others))
            (.ok (negated, longListing, sign :: longOthers)) :=
        .ok (Nat.le_refl _) leaves
      by_cases isBracket : sign = ']'
      · subst isBracket
        simp only
        split
        · have isSkipped := flags.length_skip_le others
          have skipped := behind.skip closing flags
          generalize flags.skip others = short at *
          generalize flags.skip longOthers = long at *
          cases short with
          | nil =>
              exact .error _ _
          | cons first rest =>
              obtain ⟨longRest, rfl, -⟩ := skipped.cons
              exact .cons (.mono (.ok (Nat.le_refl _) skipped) isSkipped)
        · exact unchanged
      · have isPlain (rest : List Char) :
            ∀ left, sign :: rest = ']' :: left → False :=
          fun _ same => isBracket (List.cons.inj same).1
        have isShort := isPlain others
        have isLong := isPlain longOthers
        simp only
        exact unchanged

/-- The start of a class. -/
theorem carries_readClassStart
    (flags : Flags)
    {text longer : List Char}
    (follows : Follows more text longer) :
    Carries more text (readClassStart flags text) (readClassStart flags longer) := by
  have isOpening (text : List Char) :
      readClassStart flags text =
        readOpening flags (readCaret flags (flags.skip text)).1
          (readCaret flags (flags.skip text)).2 :=
    rfl
  obtain ⟨isShorter, sameSign, after⟩ :=
    follows_readCaret closing flags (follows.skip closing flags)
  rw [isOpening, isOpening, sameSign]
  refine (carries_readOpening closing flags _ after).mono ?_
  exact Nat.le_trans isShorter (flags.length_skip_le text)

/-- A member of a class. -/
theorem carries_readMember
    (flags : Flags)
    {text longer : List Char}
    (follows : Follows more text longer) :
    Carries more text (readMember flags text) (readMember flags longer) := by
  cases text with
  | nil =>
      exact .error _ _
  | cons first others =>
      obtain ⟨longOthers, rfl, behind⟩ := follows.cons
      by_cases isEscape : first = '\\'
      · subst isEscape
        exact (carries_readEscape closing flags behind).cons
      · have isCharacter (rest : List Char) :
            readMember flags (first :: rest) = .ok (.character first false, rest) := by
          simp [readMember]
        rw [isCharacter, isCharacter]
        exact .ok (Nat.le_succ _) behind

omit closing in
/-- What is found past blanks is found with more text behind. -/
theorem peekPast_append
    (closing : Closing more)
    (inComment : Bool)
    (text : List Char) :
    peekPast inComment (text ++ more) = (peekPast inComment text).or (some ')') := by
  induction text generalizing inComment with
  | nil =>
      obtain ⟨tail, rfl⟩ := closing.starts
      cases inComment <;> rfl
  | cons character others inductionHypothesis =>
      simp only [List.cons_append, peekPast]
      split
      · exact inductionHypothesis _
      · split
        · exact inductionHypothesis _
        · rfl

omit closing in
/-- Where nothing is found past blanks, the text does not begin with another sign. -/
theorem head_of_peekPast
    {text : List Char}
    {sign : Char}
    (isNone : peekPast false text = none)
    (isSign : ¬Text.isBlank sign = true ∧ sign ≠ '#') :
    text.head? ≠ some sign := by
  cases text with
  | nil =>
      nofun
  | cons character others =>
      rintro ⟨⟩
      simp [peekPast, isSign] at isNone

/-- A sign decides behind a hyphen whether or not more text stands behind. -/
theorem peekAfterHyphen_iff
    (flags : Flags)
    {text longer : List Char}
    (follows : Follows more text longer)
    {sign : Char}
    (isSign : ¬Text.isBlank sign = true ∧ sign ≠ '#' ∧ sign ≠ ')') :
    peekAfterHyphen flags longer = some sign ↔
      peekAfterHyphen flags text = some sign := by
  rcases follows with rfl | rfl
  · unfold peekAfterHyphen
    split
    · rw [peekPast_append closing]
      cases found : peekPast false text with
      | none =>
          have notHead := head_of_peekPast found ⟨isSign.1, isSign.2.1⟩
          simp [notHead, Ne.symm isSign.2.2]
      | some character =>
          simp
    · obtain ⟨tail, rfl⟩ := closing.starts
      cases text with
      | nil =>
          simp [Ne.symm isSign.2.2]
      | cons character others =>
          simp
  · rfl

/-- Two members of a class that a hyphen joins, or one alone. -/
theorem carries_readItem
    (flags : Flags)
    {text longer : List Char}
    (follows : Follows more text longer) :
    Carries more text (readItem flags text) (readItem flags longer) := by
  refine Carries.bind (carries_readMember closing flags follows) ?_
  rintro ⟨first, left⟩ longLeft (leaves : Follows more left longLeft)
  change Carries more left _ _
  have isSkipped := flags.length_skip_le left
  have skipped := leaves.skip closing flags
  dsimp only [withRest]
  generalize flags.skip left = short at *
  generalize flags.skip longLeft = long at *
  refine Carries.mono ?_ isSkipped
  have alone :
      Carries more short
        (do
          let set ← memberSet flags first
          .ok (set, short))
        (do
          let set ← memberSet flags first
          .ok (set, long)) :=
    .after fun _ => .ok (Nat.le_refl _) skipped
  cases short with
  | nil =>
      exact .error _ _
  | cons sign others =>
      obtain ⟨longer, rfl, behind⟩ := skipped.cons
      by_cases isHyphen : sign = '-'
      · subst isHyphen
        have sameEnd :
            (peekAfterHyphen flags longer == some ']' ||
                peekAfterHyphen flags longer == some '-') =
              (peekAfterHyphen flags others == some ']' ||
                peekAfterHyphen flags others == some '-') := by
          rw [Bool.eq_iff_iff]
          simp only [Bool.or_eq_true, beq_iff_eq]
          exact
            or_congr (peekAfterHyphen_iff closing flags behind (by decide))
              (peekAfterHyphen_iff closing flags behind (by decide))
        simp only [sameEnd]
        split
        · exact alone
        · have isShorter := flags.length_skip_le others
          have second := carries_readMember closing flags (behind.skip closing flags)
          refine Carries.cons (Carries.mono (second.bind ?_) isShorter)
          exact fun _ _ leaves => .after fun _ => .ok (Nat.le_refl _) leaves
      · have isPlain (rest : List Char) :
            ∀ after, sign :: rest = '-' :: after → False :=
          fun _ same => isHyphen (List.cons.inj same).1
        have isShort := isPlain others
        have isLong := isPlain longer
        simp only
        exact alone

/-- A class with the frames that are open. -/
theorem carries_readClassFrom
    (flags : Flags)
    {fuel longFuel : Nat}
    (isMore : fuel ≤ longFuel)
    (frames : List ClassFrame)
    (listing : Listing)
    {text longer : List Char}
    (follows : Follows more text longer) :
    Carries more text (readClassFrom flags fuel frames listing text)
      (readClassFrom flags longFuel frames listing longer) := by
  induction fuel generalizing longFuel frames listing text longer with
  | zero =>
      exact .error _ _
  | succ fuel inductionHypothesis =>
      obtain ⟨longFuel, rfl⟩ := Nat.exists_eq_add_one_of_ne_zero (by omega : longFuel ≠ 0)
      have isMore := Nat.le_of_succ_le_succ isMore
      have isSkipped := flags.length_skip_le text
      have skipped := follows.skip closing flags
      unfold readClassFrom
      dsimp only
      generalize flags.skip text = short at *
      generalize flags.skip longer = long at *
      refine Carries.mono ?_ isSkipped
      split
      case h_1 =>
        exact .error _ _
      case h_2 others =>
        obtain ⟨longer, rfl, behind⟩ := skipped.cons
        refine Carries.cons ?_
        simp only
        rcases carries_readAsciiClass? closing behind with
          ⟨isShort, isLong⟩ | ⟨⟨negated, set, left⟩, longLeft, isShort, isLong, isShorter, leaves⟩
        · rw [isShort, isLong]
          have opening := carries_readClassStart closing flags behind
          exact opening.bind fun _ _ leaves => inductionHypothesis isMore _ _ leaves
        · rw [isShort, isLong]
          refine Carries.mono ?_ isShorter
          exact .after fun _ => inductionHypothesis isMore _ _ leaves
      case h_3 others =>
        obtain ⟨longer, rfl, behind⟩ := skipped.cons
        refine Carries.cons ?_
        simp only
        split
        · refine .after fun set => ?_
          split
          · exact .ok (Nat.le_refl _) behind
          · exact inductionHypothesis isMore _ _ behind
        · exact .error _ _
      case h_4 others =>
        obtain ⟨longer, rfl, behind⟩ := Follows.signs ['&', '&'] others skipped
        exact (inductionHypothesis isMore _ _ behind).cons.cons
      case h_5 others =>
        obtain ⟨longer, rfl, behind⟩ := Follows.signs ['-', '-'] others skipped
        exact (inductionHypothesis isMore _ _ behind).cons.cons
      case h_6 others =>
        obtain ⟨longer, rfl, behind⟩ := Follows.signs ['~', '~'] others skipped
        exact (inductionHypothesis isMore _ _ behind).cons.cons
      case h_7 isNone noOpening noClosing noMeet noDifference noSymmetric =>
        have longOpening : ∀ rest, long = '[' :: rest → False :=
          skipped.not_signs closing ['['] noOpening (by decide)
        have longClosing : ∀ rest, long = ']' :: rest → False :=
          skipped.not_signs closing [']'] noClosing (by decide)
        have longMeet : ∀ rest, long = '&' :: '&' :: rest → False :=
          skipped.not_signs closing ['&', '&'] noMeet (by decide)
        have longDifference : ∀ rest, long = '-' :: '-' :: rest → False :=
          skipped.not_signs closing ['-', '-'] noDifference (by decide)
        have longSymmetric : ∀ rest, long = '~' :: '~' :: rest → False :=
          skipped.not_signs closing ['~', '~'] noSymmetric (by decide)
        split
        case h_1 =>
          exact (isNone (List.length_eq_zero_iff.mp (Nat.le_zero.mp skipped.length_le))).elim
        case h_2 =>
          exact (longOpening _ rfl).elim
        case h_3 =>
          exact (longClosing _ rfl).elim
        case h_4 =>
          exact (longMeet _ rfl).elim
        case h_5 =>
          exact (longDifference _ rfl).elim
        case h_6 =>
          exact (longSymmetric _ rfl).elim
        case h_7 =>
          have item := carries_readItem closing flags skipped
          exact item.bind fun _ _ leaves => inductionHypothesis isMore _ _ leaves

/-- A class in brackets. -/
theorem carries_readClass
    (flags : Flags)
    {text longer : List Char}
    (follows : Follows more text longer) :
    Carries more text (readClass flags text) (readClass flags longer) := by
  refine Carries.bind (carries_readClassStart closing flags follows) ?_
  rintro ⟨negated, opened, left⟩ longLeft (leaves : Follows more left longLeft)
  exact carries_readClassFrom closing flags (Nat.succ_le_succ leaves.length_le) _ _ leaves

end Classes

end Untrack.Pattern
