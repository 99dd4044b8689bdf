import Untrack.Proofs.Json.Progress

namespace Untrack.Json

/-!
# Skipping goes forward

What is skipped is looked at less closely than what is read, by readers of its
own. They leave no more text either; `SkippingLeaves` says it of the three that
call one another.
-/

/-! ## Strings and numbers -/

/-- Skipping an escape leaves no more text. -/
theorem leavesFewer_skipEscape (cursor : Cursor) :
    LeavesFewer (cursor.left + 1) id (skipEscape cursor) := by
  unfold skipEscape
  split
  · exact .error _
  · rename_i rest stands
    rw [LeavesFewer.map_iff]
    refine (leavesFewer_readHexEscape _).mono ?_
    simp [Cursor.left_of_rest stands]
  · rename_i letter rest _ stands
    split
    · simp only [LeavesFewer.ok_iff, id_eq, Cursor.left_past,
        Cursor.left_of_rest stands]
      omega
    · exact .error _

/-- Skipping a string leaves less text. -/
theorem leavesFewer_skipCharacters (fuel : Nat) (cursor : Cursor) :
    LeavesFewer cursor.left id (skipCharacters fuel cursor) := by
  induction fuel generalizing cursor with
  | zero =>
      exact .error _
  | succ fuel inductionHypothesis =>
      unfold skipCharacters
      split
      · exact .error _
      · rename_i rest stands
        simp [Cursor.left_of_rest stands]
      · rename_i rest stands
        refine (leavesFewer_skipEscape _).bind ?_
        intro after left
        refine (inductionHypothesis after).mono ?_
        simp only [id_eq, Cursor.left_past] at left
        rw [Cursor.left_of_rest stands]
        omega
      · rename_i character rest _ _ stands
        split
        · exact .error _
        · refine (inductionHypothesis _).mono ?_
          simp [Cursor.left_of_rest stands]

/-- Skipping a string leaves less text. -/
theorem leavesFewer_skipString (cursor : Cursor) :
    LeavesFewer cursor.left id (skipString cursor) :=
  leavesFewer_skipCharacters _ cursor

/-- Skipping an exponent leaves no more text. -/
theorem leavesFewer_skipExponent (cursor : Cursor) :
    LeavesFewer (cursor.left + 1) id (skipExponent cursor) := by
  have skipsDigits
      {start after : Cursor}
      {digits : List Char}
      (noMore : start.left ≤ cursor.left)
      (result : spanDigits start = (digits, after)) :
      LeavesFewer (cursor.left + 1) id (.ok after) := by
    have spanned := left_spanDigits_le start
    rw [result] at spanned
    rw [LeavesFewer.ok_iff]
    exact Nat.lt_succ_of_le (Nat.le_trans spanned noMore)
  unfold skipExponent
  split
  · rename_i rest stands
    dsimp only
    split
    · exact .error _
    · rename_i result
      exact skipsDigits (by simp [Cursor.left_of_rest stands]) result
  · rename_i rest stands
    dsimp only
    split
    · exact .error _
    · rename_i result
      exact skipsDigits (by simp [Cursor.left_of_rest stands]) result
  · dsimp only
    split
    · exact .error _
    · rename_i result
      exact skipsDigits (Nat.le_refl _) result

/-- Skipping an exponent, if there is one, leaves no more text. -/
theorem leavesFewer_skipMaybeExponent (cursor : Cursor) :
    LeavesFewer (cursor.left + 1) id (skipMaybeExponent cursor) := by
  unfold skipMaybeExponent
  split
  · rename_i rest stands
    refine (leavesFewer_skipExponent _).mono ?_
    simp [Cursor.left_of_rest stands]
  · rename_i rest stands
    refine (leavesFewer_skipExponent _).mono ?_
    simp [Cursor.left_of_rest stands]
  · simp

/-- Skipping what follows the digits before the point leaves no more text. -/
theorem leavesFewer_skipAfterWhole (cursor : Cursor) :
    LeavesFewer (cursor.left + 1) id (skipAfterWhole cursor) := by
  unfold skipAfterWhole
  split
  · rename_i rest stands
    have shorter := Cursor.left_of_rest stands
    have spanned := left_spanDigits_le (cursor.past rest 1)
    split
    · exact .error _
    · rename_i digits after _ result
      rw [result, Cursor.left_past] at spanned
      dsimp only at spanned
      refine (leavesFewer_skipMaybeExponent after).mono ?_
      omega
  · exact leavesFewer_skipMaybeExponent cursor

/-- Skipping a number leaves no more text. -/
theorem leavesFewer_skipNumber (cursor : Cursor) :
    LeavesFewer (cursor.left + 1) id (skipNumber cursor) := by
  unfold skipNumber
  split
  · rename_i rest stands
    dsimp only
    split
    · exact .error _
    · refine (leavesFewer_skipAfterWhole _).mono ?_
      simp [Cursor.left_of_rest stands]
  · have spanned := left_spanDigits_le cursor
    split
    · exact .error _
    · rename_i digits after _ result
      rw [result] at spanned
      dsimp only at spanned
      refine (leavesFewer_skipAfterWhole after).mono ?_
      omega

/-! ## Values -/

/-- Reading a colon leaves less text. -/
theorem leavesFewer_readColon (cursor : Cursor) :
    LeavesFewer cursor.left id (readColon cursor) := by
  unfold readColon
  have noMore := cursor.left_skipBlanks_le
  dsimp only
  split
  · rename_i rest stands
    have shorter := Cursor.left_of_rest stands
    rw [LeavesFewer.ok_iff, id_eq, Cursor.left_past]
    omega
  · exact .error _
  · exact .error _

/-- Skipping a value without brackets leaves no more text. -/
theorem leavesFewer_skipPlain (first : Char) (cursor : Cursor) :
    LeavesFewer (cursor.left + 1) id (skipPlain first cursor) := by
  have noMore : (cursor.past (cursor.rest.drop 1) 1).left ≤ cursor.left := by
    simp [Cursor.left]
  unfold skipPlain
  dsimp only
  split
  · exact (leavesFewer_readWord _ _).mono (by omega)
  · exact (leavesFewer_readWord _ _).mono (by omega)
  · exact (leavesFewer_readWord _ _).mono (by omega)
  · exact (leavesFewer_skipNumber _).mono (by omega)
  · exact (leavesFewer_skipString _).mono (by omega)
  · split
    · exact leavesFewer_skipNumber cursor
    · exact .error _

/-- Skipping a name and its colon leaves no more text. -/
theorem leavesFewer_skipName (cursor : Cursor) :
    LeavesFewer (cursor.left + 1) id (skipName cursor) := by
  unfold skipName
  have noMore := cursor.left_skipBlanks_le
  dsimp only
  split
  · rename_i rest stands
    have shorter := Cursor.left_of_rest stands
    refine (leavesFewer_skipString _).bind ?_
    intro afterName left
    refine (leavesFewer_readColon afterName).mono ?_
    rw [id_eq, Cursor.left_past] at left
    omega
  · exact .error _
  · exact .error _

/-- Skipping with some fuel, wherever it is, leaves no more text. -/
structure SkippingLeaves (fuel : Nat) : Prop where
  value :
    ∀ around cursor,
      LeavesFewer (cursor.left + 1) id (skipFrom fuel around cursor)
  after :
    ∀ around cursor,
      LeavesFewer (cursor.left + 1) id (skipAfter fuel around cursor)
  within :
    ∀ afterValue bracket around cursor,
      LeavesFewer (cursor.left + 1) id
        (skipWithin fuel afterValue bracket around cursor)

namespace SkippingLeaves

variable {fuel : Nat}

/-- A value is a bracket that opens, or it is plain. -/
theorem value_succ
    (leaves : SkippingLeaves fuel)
    (around : List Bracket)
    (cursor : Cursor) :
    LeavesFewer (cursor.left + 1) id (skipFrom (fuel + 1) around cursor) := by
  have noMore := cursor.left_skipBlanks_le
  unfold skipFrom
  dsimp only
  split
  · exact .error _
  · rename_i rest stands
    have shorter := Cursor.left_of_rest stands
    refine (leaves.within _ _ _ _).mono ?_
    rw [Cursor.left_past]
    omega
  · rename_i rest stands
    have shorter := Cursor.left_of_rest stands
    refine (leaves.within _ _ _ _).mono ?_
    rw [Cursor.left_past]
    omega
  · refine (leavesFewer_skipPlain _ _).bind ?_
    intro afterPlain left
    refine (leaves.after around afterPlain).mono ?_
    rw [id_eq] at left
    omega

/-- An item of a list is a value; one of an object has a name before it. -/
theorem item
    (leaves : SkippingLeaves fuel)
    (bracket : Bracket)
    (around : List Bracket)
    (start : Cursor)
    {result : Except Stop Cursor}
    (ofList :
      bracket = .list → result = skipFrom fuel (bracket :: around) start)
    (ofObject :
      bracket = .object →
        result = skipName start >>= skipFrom fuel (bracket :: around)) :
    LeavesFewer (start.left + 1) id result := by
  cases bracket with
  | list =>
      rw [ofList rfl]
      exact leaves.value _ start
  | object =>
      rw [ofObject rfl]
      refine (leavesFewer_skipName start).bind ?_
      intro afterName left
      exact (leaves.value _ afterName).mono left

/-- Inside a bracket there is an item, or the bracket is closed. -/
theorem within_succ
    (leaves : SkippingLeaves fuel)
    (afterValue : Bool)
    (bracket : Bracket)
    (around : List Bracket)
    (cursor : Cursor) :
    LeavesFewer (cursor.left + 1) id
      (skipWithin (fuel + 1) afterValue bracket around cursor) := by
  have noMore := cursor.left_skipBlanks_le
  unfold skipWithin
  dsimp only
  split
  · exact .error _
  · rename_i sign rest stands
    have shorter := Cursor.left_of_rest stands
    split
    · refine
        (leaves.item bracket around (cursor.skipBlanks.past rest 1) ?_
          ?_).mono ?_
      · rintro rfl
        rfl
      · rintro rfl
        rfl
      · rw [Cursor.left_past]
        omega
    · split
      · refine (leaves.after around _).mono ?_
        rw [Cursor.left_past]
        omega
      · split
        · exact .error _
        · refine (leaves.item bracket around cursor.skipBlanks ?_ ?_).mono ?_
          · rintro rfl
            rfl
          · rintro rfl
            rfl
          · omega

end SkippingLeaves

/-- Skipping, wherever it is, leaves no more text. -/
theorem skippingLeaves (fuel : Nat) : SkippingLeaves fuel := by
  have nothingAround (fuel : Nat) (cursor : Cursor) :
      LeavesFewer (cursor.left + 1) id (skipAfter fuel [] cursor) := by
    simp [skipAfter]
  induction fuel with
  | zero =>
      refine { value := ?_, after := ?_, within := ?_ }
      · intro around cursor
        exact .error _
      · intro around cursor
        cases around with
        | nil =>
            exact nothingAround 0 cursor
        | cons bracket around =>
            exact .error _
      · intro afterValue bracket around cursor
        exact .error _
  | succ fuel inductionHypothesis =>
      refine
        { value := inductionHypothesis.value_succ
          after := ?_
          within := inductionHypothesis.within_succ }
      intro around cursor
      cases around with
      | nil =>
          exact nothingAround (fuel + 1) cursor
      | cons bracket around =>
          exact inductionHypothesis.within true bracket around cursor

/-- Skipping a value leaves no more text. -/
theorem leavesFewer_skipValue (cursor : Cursor) :
    LeavesFewer (cursor.left + 1) id (skipValue cursor) :=
  (skippingLeaves _).value [] cursor

end Untrack.Json
