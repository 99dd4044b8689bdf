import Untrack.Json.Record
import Untrack.Proofs.Json.Progress

namespace Untrack.Json

/-!
# Records taken from the members of objects

A record is taken from an object that has been read before by its fields. Members that
are no fields are passed over, and each field takes what it holds from the member of
its name. `takes_of_namedOfMembers` and `exists_namedOfMembers` say so for all records.

The fields of definitions are texts and lists of texts; `HoldsTexts` says what can
stand for a list.
-/

/-! ## Texts and lists of texts -/

/-- What can stand for a list of texts, and the list that it stands for, if any. -/
inductive HoldsTexts : Option Value → Option (List String) → Prop where
  | absent :
      HoldsTexts none none
  | null :
      HoldsTexts (some .null) none
  | texts
      (texts : List String) :
      HoldsTexts (some (.array (texts.map .string))) (some texts)

/-- Only a string is taken for a text. -/
theorem textOfValue_eq_ok_iff {value : Value} {text : String} :
    textOfValue value = .ok text ↔ value = .string text := by
  cases value <;> simp [textOfValue]

/-- Texts are taken from a list of strings and nothing else. -/
theorem mapM_textOfValue_eq_ok_iff {items : List Value} {texts : List String} :
    items.mapM textOfValue = .ok texts ↔ items = texts.map .string := by
  induction items generalizing texts with
  | nil =>
      cases texts <;> simp [pure, Except.pure]
  | cons item rest inductionHypothesis =>
      rw [List.mapM_cons, bind_eq_ok_iff]
      constructor
      · rintro ⟨text, isText, computes⟩
        obtain ⟨others, areTexts, made⟩ := bind_eq_ok_iff.mp computes
        cases made
        rw [List.map_cons, ← textOfValue_eq_ok_iff.mp isText,
          ← inductionHypothesis.mp areTexts]
      · intro same
        obtain ⟨text, others, rfl, rfl, rfl⟩ := List.map_eq_cons_iff.mp same.symm
        refine ⟨text, rfl, bind_eq_ok_iff.mpr ⟨others, ?_, rfl⟩⟩
        exact inductionHypothesis.mpr rfl

/-- A list of texts is taken from what stands for one. -/
theorem optionalTextsOfValue_eq_ok_iff
    {value : Value}
    {texts : Option (List String)} :
    optionalTextsOfValue value = .ok texts ↔ HoldsTexts (some value) texts := by
  constructor
  · intro takes
    cases value with
    | null =>
        cases takes
        exact .null
    | array items =>
        obtain ⟨listed, areTexts, rfl⟩ := map_eq_ok_iff.mp takes
        rw [mapM_textOfValue_eq_ok_iff.mp areTexts]
        exact .texts listed
    | _ =>
        cases takes
  · intro holds
    cases holds with
    | null =>
        rfl
    | texts listed =>
        exact map_eq_ok_iff.mpr ⟨listed, mapM_textOfValue_eq_ok_iff.mpr rfl, rfl⟩

/-- At most one list is stood for. -/
theorem HoldsTexts.unique
    {value? : Option Value}
    {first second : Option (List String)}
    (holds : HoldsTexts value? first)
    (holdsToo : HoldsTexts value? second) :
    first = second := by
  cases value? with
  | none =>
      cases holds
      cases holdsToo
      rfl
  | some value =>
      rw [← optionalTextsOfValue_eq_ok_iff] at holds holdsToo
      exact Except.ok.inj (holds.symm.trans holdsToo)

/-! ## Fields of a record -/

namespace Record

variable {α β : Type} (record : Record α β)

/-- What a field holds is taken from the member of its name, if there is one. -/
inductive Takes (field : String) : Option Value → Option β → Prop where
  | absent :
      Takes field none none
  | present
      {value : Value}
      {content : β} :
      record.fieldOfValue field value = .ok content →
      Takes field (some value) (some content)

variable {record}

/-- Members that are no fields do not matter. -/
theorem namedOfMembers_filter (members : List (String × Value)) (seen : Entries β) :
    namedOfMembers record (members.filter (·.1 ∈ record.fields)) seen =
      namedOfMembers record members seen := by
  induction members generalizing seen with
  | nil =>
      rfl
  | cons member rest inductionHypothesis =>
      by_cases isField : member.1 ∈ record.fields
      · rw [List.filter_cons_of_pos (by simpa using isField)]
        simp only [namedOfMembers, isField, ↓reduceIte, inductionHypothesis]
      · rw [List.filter_cons_of_neg (by simpa using isField), inductionHypothesis]
        simp only [namedOfMembers, isField, ↓reduceIte]

/-- Each field takes what it holds from the first member of its name. -/
theorem namedOfMembers_sound
    {members : Entries Value}
    {seen all : Entries β}
    (takes : namedOfMembers record members seen = .ok all) :
    ∃ added,
      all = seen ++ added ∧
        ∀ field ∈ record.fields,
          record.Takes field (members.get? field) (added.get? field) := by
  induction members generalizing seen with
  | nil =>
      cases takes
      exact ⟨[], by simp, fun _ _ => .absent⟩
  | cons member rest inductionHypothesis =>
      obtain ⟨name, value⟩ := member
      rw [namedOfMembers] at takes
      split at takes
      case isTrue isField =>
        obtain ⟨content, isContent, takesRest⟩ := bind_eq_ok_iff.mp takes
        obtain ⟨added, rfl, later⟩ := inductionHypothesis takesRest
        refine ⟨(name, content) :: added, by simp, fun field isAlsoField => ?_⟩
        by_cases same : name = field
        · subst same
          simpa [Entries.get?] using Takes.present isContent
        · simpa [Entries.get?, same] using later field isAlsoField
      case isFalse noField =>
        obtain ⟨added, rfl, later⟩ := inductionHypothesis takes
        refine ⟨added, rfl, fun field isField => ?_⟩
        have different : name ≠ field := by
          rintro rfl
          exact noField isField
        simpa [Entries.get?, different] using later field isField

/-- What the fields of a record hold is taken from the members of their names. -/
theorem takes_of_namedOfMembers
    {members : Entries Value}
    {all : Entries β}
    (taken : namedOfMembers record members [] = .ok all)
    {field : String}
    (isField : field ∈ record.fields) :
    record.Takes field (members.get? field) (all.get? field) := by
  obtain ⟨added, isAll, takes⟩ := namedOfMembers_sound taken
  rw [isAll, List.nil_append]
  exact takes field isField

/-- If every member that is a field can be taken, all of them are. -/
theorem exists_namedOfMembers
    {members : Entries Value}
    (canTake :
      ∀ member ∈ members,
        member.1 ∈ record.fields →
          ∃ content, record.fieldOfValue member.1 member.2 = .ok content)
    (seen : Entries β) :
    ∃ all, namedOfMembers record members seen = .ok all := by
  induction members generalizing seen with
  | nil =>
      exact ⟨seen, rfl⟩
  | cons member rest inductionHypothesis =>
      obtain ⟨canTakeFirst, canTakeRest⟩ := List.forall_mem_cons.mp canTake
      rw [namedOfMembers]
      split
      case isTrue isField =>
        obtain ⟨content, isContent⟩ := canTakeFirst isField
        obtain ⟨all, takesRest⟩ :=
          inductionHypothesis canTakeRest (seen ++ [(member.1, content)])
        exact ⟨all, bind_eq_ok_iff.mpr ⟨content, isContent, takesRest⟩⟩
      case isFalse =>
        exact inductionHypothesis canTakeRest seen

end Record

end Untrack.Json
