import Untrack.Json.Reader

namespace Untrack.Json

/-!
# Readers go forward

A reader that succeeds leaves no more text than it found, and one that has to
read something leaves less. That is what bounds the fuel of the readers that
call themselves.

Each lemma says it of one reader, as `LeavesFewer`; the few laws of that relation
take a reader apart into the ones it calls.
-/

namespace Cursor

/-- How many characters are left to read. -/
def left (cursor : Cursor) : Nat :=
  cursor.rest.length

@[simp]
theorem left_past (cursor : Cursor) (rest : List Char) (octets : Nat) :
    (cursor.past rest octets).left = rest.length :=
  rfl

@[simp]
theorem rest_past (cursor : Cursor) (rest : List Char) (octets : Nat) :
    (cursor.past rest octets).rest = rest :=
  rfl

/-- What is left where the next character is known. -/
theorem left_of_rest
    {cursor : Cursor}
    {character : Char}
    {rest : List Char}
    (stands : cursor.rest = character :: rest) :
    cursor.left = rest.length + 1 := by
  rw [left, stands, List.length_cons]

/-- The end of a list from which a prefix is dropped is no longer than it. -/
theorem left_past_dropWhile_le
    (cursor : Cursor)
    (condition : Char → Bool)
    (octets : Nat) :
    (cursor.past (cursor.rest.dropWhile condition) octets).left ≤
      cursor.left :=
  (List.dropWhile_sublist condition).length_le

/-- Skipping blanks leaves no more text. -/
theorem left_skipBlanks_le (cursor : Cursor) :
    cursor.skipBlanks.left ≤ cursor.left :=
  left_past_dropWhile_le cursor isBlank _

/-- Behind blanks there are no more blanks. -/
@[simp]
theorem skipBlanks_skipBlanks (cursor : Cursor) :
    cursor.skipBlanks.skipBlanks = cursor.skipBlanks := by
  have noBlanks :
      (cursor.rest.dropWhile isBlank).takeWhile isBlank = [] := by
    cases shape : cursor.rest.dropWhile isBlank with
    | nil =>
        rfl
    | cons character rest =>
        have notBlank :=
          List.head_dropWhile_not isBlank (l := cursor.rest) (by simp [shape])
        simp only [shape, List.head_cons] at notBlank
        simp [notBlank]
  have nothingDropped :
      (cursor.rest.dropWhile isBlank).dropWhile isBlank =
        cursor.rest.dropWhile isBlank := by
    have parts :=
      List.takeWhile_append_dropWhile
        (p := isBlank) (l := cursor.rest.dropWhile isBlank)
    rwa [noBlanks, List.nil_append] at parts
  simp [skipBlanks, past, noBlanks, nothingDropped]

end Cursor

/-! ## Results -/

variable {ε ε' α β : Type}

/-- A chain of two results is there if both are, one after the other. -/
theorem bind_eq_ok_iff
    {result : Except ε α}
    {next : α → Except ε β}
    {value : β} :
    (result >>= next) = .ok value ↔
      ∃ between, result = .ok between ∧ next between = .ok value := by
  cases result with
  | error failure =>
      simp [bind, Except.bind]
  | ok between =>
      simp [bind, Except.bind]

/-- A result that is passed on was there. -/
theorem map_eq_ok_iff
    {result : Except ε α}
    {change : α → β}
    {value : β} :
    result.map change = .ok value ↔
      ∃ before, result = .ok before ∧ change before = value := by
  cases result with
  | error failure =>
      simp [Except.map]
  | ok before =>
      simp [Except.map]

/-- Passing a result on neither makes nor loses one. -/
theorem exists_map_eq_ok_iff
    {result : Except ε α}
    {change : α → β} :
    (∃ value, result.map change = .ok value) ↔ ∃ before, result = .ok before := by
  cases result with
  | error failure =>
      simp [Except.map]
  | ok before =>
      simp [Except.map]

/-- Telling a failure in another way leaves a success as it is. -/
theorem mapError_eq_ok_iff
    {result : Except ε α}
    {change : ε → ε'}
    {value : α} :
    result.mapError change = .ok value ↔ result = .ok value := by
  cases result with
  | error failure =>
      constructor <;> nofun
  | ok before =>
      exact ⟨fun same => congrArg _ (Except.ok.inj same),
        fun same => congrArg _ (Except.ok.inj same)⟩

/-- Reading that succeeds leaves fewer than so many characters. -/
def LeavesFewer
    (bound : Nat)
    (cursorOf : α → Cursor)
    (result : Except Stop α) : Prop :=
  ∀ value, result = .ok value → (cursorOf value).left < bound

namespace LeavesFewer

variable {bound : Nat} {cursorOf : α → Cursor}

/-- A failure leaves nothing. -/
@[simp]
theorem error (stop : Stop) :
    LeavesFewer bound cursorOf (.error stop) := by
  intro value succeeds
  cases succeeds

@[simp]
theorem ok_iff (value : α) :
    LeavesFewer bound cursorOf (.ok value) ↔ (cursorOf value).left < bound := by
  simp [LeavesFewer]

/-- A result that is passed on leaves as much as it did. -/
@[simp]
theorem map_iff
    {cursorOf : β → Cursor}
    (result : Except Stop α)
    (change : α → β) :
    LeavesFewer bound cursorOf (result.map change) ↔
      LeavesFewer bound (cursorOf ∘ change) result := by
  cases result with
  | error stop =>
      simp [Except.map]
  | ok value =>
      simp [Except.map]

/-- The second of two readers goes on from what the first has left. -/
theorem bind
    {middle : Nat}
    {laterCursorOf : β → Cursor}
    {result : Except Stop α}
    {next : α → Except Stop β}
    (first : LeavesFewer middle cursorOf result)
    (second :
      ∀ value,
        (cursorOf value).left < middle →
          LeavesFewer bound laterCursorOf (next value)) :
    LeavesFewer bound laterCursorOf (result >>= next) := by
  intro value succeeds
  obtain ⟨between, firstSucceeds, secondSucceeds⟩ :=
    bind_eq_ok_iff.mp succeeds
  exact second between (first between firstSucceeds) value secondSucceeds

/-- A larger bound is kept too. -/
theorem mono
    {larger : Nat}
    {result : Except Stop α}
    (leaves : LeavesFewer bound cursorOf result)
    (isLarger : bound ≤ larger) :
    LeavesFewer larger cursorOf result := by
  intro value succeeds
  exact Nat.lt_of_lt_of_le (leaves value succeeds) isLarger

end LeavesFewer

/-! ## Words and strings -/

/-- Reading a word leaves no more text. -/
theorem leavesFewer_readWord (letters : List Char) (cursor : Cursor) :
    LeavesFewer (cursor.left + 1) id (readWord letters cursor) := by
  induction letters generalizing cursor with
  | nil =>
      simp [readWord]
  | cons letter letters inductionHypothesis =>
      unfold readWord
      split
      · exact .error _
      · rename_i character rest stands
        split
        · refine (inductionHypothesis _).mono ?_
          rw [Cursor.left_of_rest stands]
          simp
        · exact .error _

/-- Reading four hexadecimal digits leaves no more text. -/
theorem leavesFewer_readHexEscape (cursor : Cursor) :
    LeavesFewer (cursor.left + 1) Prod.snd (readHexEscape cursor) := by
  unfold readHexEscape
  split
  · exact .error _
  · split
    · have noMore : (cursor.rest.drop 4).length ≤ cursor.rest.length :=
        (List.drop_sublist 4 cursor.rest).length_le
      rw [LeavesFewer.ok_iff]
      exact Nat.lt_succ_of_le noMore
    · exact .error _

/-- Reading the sign of a pair leaves less text. -/
theorem leavesFewer_readPairSign (sign : Char) (cursor : Cursor) :
    LeavesFewer cursor.left id (readPairSign sign cursor) := by
  unfold readPairSign
  split
  · exact .error _
  · rename_i character rest stands
    split
    · simp [Cursor.left_of_rest stands]
    · exact .error _

/-- Reading a numbered character leaves no more text. -/
theorem leavesFewer_readUnicodeEscape (cursor : Cursor) :
    LeavesFewer (cursor.left + 1) Prod.snd (readUnicodeEscape cursor) := by
  unfold readUnicodeEscape
  refine (leavesFewer_readHexEscape cursor).bind ?_
  rintro ⟨unit, afterUnit⟩ leftOfUnit
  dsimp only at leftOfUnit ⊢
  split
  · exact .error _
  · split
    · refine (leavesFewer_readPairSign _ afterUnit).bind ?_
      intro afterSlash leftOfSlash
      refine (leavesFewer_readPairSign _ afterSlash).bind ?_
      intro afterLetter leftOfLetter
      refine (leavesFewer_readHexEscape afterLetter).bind ?_
      rintro ⟨trailing, afterTrailing⟩ leftOfTrailing
      simp only [id_eq] at leftOfSlash leftOfLetter leftOfTrailing ⊢
      split
      · simp only [LeavesFewer.ok_iff]
        omega
      · exact .error _
    · exact (LeavesFewer.ok_iff _).mpr leftOfUnit

/-- Reading an escape leaves no more text. -/
theorem leavesFewer_readEscape (cursor : Cursor) :
    LeavesFewer (cursor.left + 1) Prod.snd (readEscape cursor) := by
  unfold readEscape
  split
  · exact .error _
  · rename_i rest stands
    refine (leavesFewer_readUnicodeEscape _).mono ?_
    simp [Cursor.left_of_rest stands]
  · rename_i letter rest _ stands
    split
    · simp only [LeavesFewer.ok_iff, Cursor.left_past,
        Cursor.left_of_rest stands]
      omega
    · exact .error _

/-- Reading a string leaves less text. -/
theorem leavesFewer_readCharacters
    (fuel : Nat)
    (soFar : List Char)
    (cursor : Cursor) :
    LeavesFewer cursor.left Prod.snd (readCharacters fuel soFar cursor) := by
  induction fuel generalizing soFar cursor with
  | zero =>
      exact .error _
  | succ fuel inductionHypothesis =>
      unfold readCharacters
      split
      · exact .error _
      · rename_i rest stands
        simp [Cursor.left_of_rest stands]
      · rename_i rest stands
        refine (leavesFewer_readEscape _).bind ?_
        rintro ⟨character, after⟩ left
        refine (inductionHypothesis _ after).mono ?_
        simp only [Cursor.left_past] at left
        rw [Cursor.left_of_rest stands]
        omega
      · rename_i character rest _ _ stands
        split
        · exact .error _
        · refine (inductionHypothesis _ _).mono ?_
          simp [Cursor.left_of_rest stands]

/-- Reading a string leaves less text. -/
theorem leavesFewer_readString (cursor : Cursor) :
    LeavesFewer cursor.left Prod.snd (readString cursor) :=
  leavesFewer_readCharacters _ _ cursor

/-! ## Numbers -/

/-- Going over digits leaves no more text. -/
theorem left_spanDigits_le (cursor : Cursor) :
    (spanDigits cursor).2.left ≤ cursor.left :=
  Cursor.left_past_dropWhile_le cursor Char.isDigit _

/-- Going over digits leaves less text where a digit stands. -/
theorem left_spanDigits_lt
    {cursor : Cursor}
    {first : Char}
    {rest : List Char}
    (stands : cursor.rest = first :: rest)
    (isDigit : first.isDigit) :
    (spanDigits cursor).2.left < cursor.left := by
  have shape :
      cursor.rest.dropWhile Char.isDigit = rest.dropWhile Char.isDigit := by
    rw [stands, List.dropWhile_cons_of_pos isDigit]
  have notLonger :
      (rest.dropWhile Char.isDigit).length ≤ rest.length :=
    (List.dropWhile_sublist Char.isDigit).length_le
  simp only [spanDigits, Cursor.left_past, shape, Cursor.left_of_rest stands]
  omega

/-- Making a number of its parts reads nothing. -/
theorem leavesFewer_realNumber
    (isNegative : Bool)
    (whole : Nat)
    (power : Int)
    (cursor : Cursor) :
    LeavesFewer (cursor.left + 1) Prod.snd
      (realNumber isNegative whole power cursor) := by
  unfold realNumber
  split
  · simp
  · exact .error _

/-- Gathering an exponent leaves no more text. -/
theorem left_gatherExponent_le
    (fuel exponent : Nat)
    (cursor : Cursor) :
    (gatherExponent fuel exponent cursor).2.left ≤ cursor.left := by
  induction fuel generalizing exponent cursor with
  | zero =>
      exact Nat.le_refl _
  | succ fuel inductionHypothesis =>
      unfold gatherExponent
      split
      · rename_i digit rest stands
        have oneLess := Cursor.left_of_rest stands
        split
        · dsimp only
          split
          · have gathered :=
              inductionHypothesis (10 * exponent + digitValue digit)
                (cursor.past rest 1)
            rw [Cursor.left_past] at gathered
            omega
          · rw [Cursor.left_past]
            omega
        · exact Nat.le_refl _
      · exact Nat.le_refl _

/-- Reading an exponent leaves no more text. -/
theorem leavesFewer_readExponent
    (isNegative : Bool)
    (whole : Nat)
    (power : Int)
    (cursor : Cursor) :
    LeavesFewer (cursor.left + 1) Prod.snd
      (readExponent isNegative whole power cursor) := by
  unfold readExponent
  split
  rename_i lowers afterSign signShape
  have signRead : afterSign.left ≤ cursor.left := by
    split at signShape
    · rename_i rest stands
      cases signShape
      simp [Cursor.left_of_rest stands]
    · rename_i rest stands
      cases signShape
      simp [Cursor.left_of_rest stands]
    · cases signShape
      exact Nat.le_refl _
  split
  · exact .error _
  · split
    · have gathered :=
        left_gatherExponent_le afterSign.rest.length 0 afterSign
      split
      · rename_i exponent after result
        refine (leavesFewer_realNumber _ _ _ after).mono ?_
        rw [result] at gathered
        dsimp only at gathered
        omega
      · rename_i after result
        split
        · exact .error _
        · have skipped := left_spanDigits_le after
          rw [result] at gathered
          dsimp only at gathered
          simp only [LeavesFewer.ok_iff]
          omega
    · exact .error _

/-- Reading an exponent, if there is one, leaves no more text. -/
theorem leavesFewer_readMaybeExponent
    (isNegative : Bool)
    (whole : Nat)
    (power : Int)
    (cursor : Cursor) :
    LeavesFewer (cursor.left + 1) Prod.snd
      (readMaybeExponent isNegative whole power cursor) := by
  unfold readMaybeExponent
  split
  · rename_i rest stands
    refine (leavesFewer_readExponent _ _ _ _).mono ?_
    simp [Cursor.left_of_rest stands]
  · rename_i rest stands
    refine (leavesFewer_readExponent _ _ _ _).mono ?_
    simp [Cursor.left_of_rest stands]
  · exact leavesFewer_realNumber _ _ _ cursor

/-- Reading the digits after a point leaves no more text. -/
theorem leavesFewer_readFraction
    (isNegative : Bool)
    (whole : Nat)
    (power : Int)
    (cursor : Cursor) :
    LeavesFewer (cursor.left + 1) Prod.snd
      (readFraction isNegative whole power cursor) := by
  unfold readFraction
  have spanned := left_spanDigits_le cursor
  split
  · split
    · exact .error _
    · exact .error _
  · rename_i digits after _ result
    refine (leavesFewer_readMaybeExponent _ _ _ after).mono ?_
    rw [result] at spanned
    dsimp only at spanned
    omega

/-- Reading what follows the digits before the point leaves no more text. -/
theorem leavesFewer_readAfterWhole
    (isNegative : Bool)
    (whole : Nat)
    (cursor : Cursor) :
    LeavesFewer (cursor.left + 1) Prod.snd
      (readAfterWhole isNegative whole cursor) := by
  unfold readAfterWhole
  split
  · rename_i rest stands
    refine (leavesFewer_readFraction _ _ _ _).mono ?_
    simp [Cursor.left_of_rest stands]
  · rename_i rest stands
    refine (leavesFewer_readExponent _ _ _ _).mono ?_
    simp [Cursor.left_of_rest stands]
  · rename_i rest stands
    refine (leavesFewer_readExponent _ _ _ _).mono ?_
    simp [Cursor.left_of_rest stands]
  · simp

/-- Reading a number leaves less text. -/
theorem leavesFewer_readNumber (isNegative : Bool) (cursor : Cursor) :
    LeavesFewer cursor.left Prod.snd (readNumber isNegative cursor) := by
  unfold readNumber
  split
  · exact .error _
  · rename_i rest stands
    dsimp only
    split
    · exact .error _
    · refine (leavesFewer_readAfterWhole _ _ _).mono ?_
      simp [Cursor.left_of_rest stands]
  · rename_i first rest _ stands
    split
    · rename_i isDigit
      have spanned := left_spanDigits_lt stands isDigit
      generalize spanDigits cursor = span at spanned
      obtain ⟨digits, after⟩ := span
      dsimp only at spanned ⊢
      split
      · exact (leavesFewer_readAfterWhole _ _ after).mono spanned
      · split
        · rename_i rest stands
          have shorter := Cursor.left_of_rest stands
          split
          · refine (leavesFewer_readFraction _ _ _ _).mono ?_
            rw [Cursor.left_past]
            omega
          · rename_i digits afterDigits _ result
            have spannedAgain := left_spanDigits_le (after.past rest 1)
            rw [result, Cursor.left_past] at spannedAgain
            dsimp only at spannedAgain
            refine (leavesFewer_readMaybeExponent _ _ _ afterDigits).mono ?_
            omega
        · exact (leavesFewer_readMaybeExponent _ _ _ after).mono spanned
    · exact .error _

/-- Reading a value that consists of a word or a number leaves less text. -/
theorem leavesFewer_readPlain
    {first : Char}
    {rest : List Char}
    {cursor : Cursor}
    (stands : cursor.rest = first :: rest) :
    LeavesFewer cursor.left Prod.snd (readPlain first cursor) := by
  have shorter : (cursor.past (cursor.rest.drop 1) 1).left < cursor.left := by
    simp [stands, Cursor.left_of_rest stands]
  unfold readPlain
  dsimp only
  split
  · rw [LeavesFewer.map_iff]
    exact (leavesFewer_readWord _ _).mono shorter
  · rw [LeavesFewer.map_iff]
    exact (leavesFewer_readWord _ _).mono shorter
  · rw [LeavesFewer.map_iff]
    exact (leavesFewer_readWord _ _).mono shorter
  · rw [LeavesFewer.map_iff]
    exact (leavesFewer_readNumber _ _).mono (Nat.le_of_lt shorter)
  · split
    · rw [LeavesFewer.map_iff]
      exact leavesFewer_readNumber _ cursor
    · exact .error _

end Untrack.Json
