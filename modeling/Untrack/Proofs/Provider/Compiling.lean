import Untrack.Proofs.Provider.Anchoring

namespace Untrack.Provider

/-!
# Which patterns make a provider

The patterns of a provider compile in a fixed order. `Prepared` says that everything
compiles that comes before the redirections. Of these the first bad one decides:
`FirstBad` names it, and it either has no group or is no pattern at all.
-/

/-! ## Redirections -/

/-- The text makes a pattern with a group, as a redirection needs it. -/
def IsRedirection (text : String) : Prop :=
  ∃ pattern, Pattern.anchored text = .ok pattern ∧ 0 < pattern.groups

/-- The text makes a pattern, but one without a group. -/
def IsGroupless (text : String) : Prop :=
  ∃ pattern, Pattern.anchored text = .ok pattern ∧ pattern.groups = 0

/-- The text is no redirection, and it is the first such text of the list. -/
def FirstBad (texts : List String) (text : String) : Prop :=
  ∃ passed later,
    texts = passed ++ text :: later ∧
      (∀ redirection ∈ passed, IsRedirection redirection) ∧ ¬IsRedirection text

/-- A pattern has groups or it has none. -/
theorem IsGroupless.not_isRedirection
    {text : String}
    (isGroupless : IsGroupless text) :
    ¬IsRedirection text := by
  rintro ⟨pattern, isAnchored, hasGroup⟩
  obtain ⟨other, isOther, noGroup⟩ := isGroupless
  cases isAnchored.symm.trans isOther
  exact hasGroup.ne' noGroup

/-- At the head of a list a bad text is the first one. -/
theorem firstBad_cons_of_not_isRedirection
    {first text : String}
    {rest : List String}
    (isBad : ¬IsRedirection first) :
    FirstBad (first :: rest) text ↔ text = first := by
  constructor
  · rintro ⟨passed, later, shape, arePassed, -⟩
    cases passed with
    | nil =>
        exact (List.cons.inj shape).1.symm
    | cons head passed =>
        rw [(List.cons.inj shape).1] at isBad
        exact absurd (arePassed head List.mem_cons_self) isBad
  · rintro rfl
    exact ⟨[], rest, rfl, by simp, isBad⟩

/-- After a redirection the first bad text is that of the rest. -/
theorem firstBad_cons_of_isRedirection
    {first text : String}
    {rest : List String}
    (isGood : IsRedirection first) :
    FirstBad (first :: rest) text ↔ FirstBad rest text := by
  constructor
  · rintro ⟨passed, later, shape, arePassed, isBad⟩
    cases passed with
    | nil =>
        rw [← (List.cons.inj shape).1] at isBad
        exact absurd isGood isBad
    | cons head passed =>
        exact
          ⟨passed, later, (List.cons.inj shape).2, (List.forall_mem_cons.mp arePassed).2,
            isBad⟩
  · rintro ⟨passed, later, rfl, arePassed, isBad⟩
    exact ⟨first :: passed, later, rfl, List.forall_mem_cons.mpr ⟨isGood, arePassed⟩, isBad⟩

/-- What the first of several redirections comes to. -/
inductive FirstCompiles (text : String) (texts : List String) : Prop where
  | unreadable (fault : Pattern.Fault) :
      ¬IsRedirection text →
      ¬IsGroupless text →
      compileRedirections (text :: texts) = .error (.pattern fault) →
      FirstCompiles text texts
  | groupless :
      IsGroupless text →
      compileRedirections (text :: texts) = .error (.redirectionWithoutGroup text) →
      FirstCompiles text texts
  | good (pattern : Pattern) :
      IsRedirection text →
      compileRedirections (text :: texts) =
        (compileRedirections texts).map (pattern :: ·) →
      FirstCompiles text texts

/-- A text is no pattern, or one without a group, or a redirection. -/
theorem firstCompiles (text : String) (texts : List String) :
    FirstCompiles text texts := by
  cases isAnchored : Pattern.anchored text with
  | error fault =>
      refine .unreadable fault ?_ ?_ (by rw [compileRedirections, isAnchored]) <;>
        simp [IsRedirection, IsGroupless, isAnchored]
  | ok pattern =>
      by_cases noGroup : pattern.groups = 0
      · refine .groupless ⟨pattern, isAnchored, noGroup⟩ ?_
        rw [compileRedirections, isAnchored]
        exact if_pos noGroup
      · refine .good pattern ⟨pattern, isAnchored, Nat.pos_of_ne_zero noGroup⟩ ?_
        rw [compileRedirections, isAnchored]
        exact if_neg noGroup

/-- Redirections compile if each of them does and has a group. -/
theorem exists_compileRedirections_iff {texts : List String} :
    (∃ patterns, compileRedirections texts = .ok patterns) ↔
      ∀ text ∈ texts, IsRedirection text := by
  induction texts with
  | nil =>
      exact ⟨fun _ => by simp, fun _ => ⟨[], rfl⟩⟩
  | cons text texts inductionHypothesis =>
      rw [List.forall_mem_cons, ← inductionHypothesis]
      cases firstCompiles text texts with
      | unreadable fault isBad _ comesTo =>
          simp [comesTo, isBad]
      | groupless isGroupless comesTo =>
          simp [comesTo, isGroupless.not_isRedirection]
      | good pattern isGood comesTo =>
          rw [comesTo, Json.exists_map_eq_ok_iff, and_iff_right isGood]

/-- A redirection without a group is told of if it is the first bad one. -/
theorem compileRedirections_eq_withoutGroup_iff
    {texts : List String}
    {text : String} :
    compileRedirections texts = .error (.redirectionWithoutGroup text) ↔
      FirstBad texts text ∧ IsGroupless text := by
  induction texts with
  | nil =>
      simp [compileRedirections, FirstBad]
  | cons first rest inductionHypothesis =>
      cases firstCompiles first rest with
      | unreadable fault isBad notGroupless comesTo =>
          rw [comesTo, firstBad_cons_of_not_isRedirection isBad]
          constructor
          · intro isBlamed
            cases isBlamed
          · rintro ⟨rfl, isGroupless⟩
            exact absurd isGroupless notGroupless
      | groupless isGroupless comesTo =>
          rw [comesTo, firstBad_cons_of_not_isRedirection isGroupless.not_isRedirection]
          constructor
          · intro same
            cases same
            exact ⟨rfl, isGroupless⟩
          · rintro ⟨rfl, -⟩
            rfl
      | good pattern isGood comesTo =>
          rw [comesTo, firstBad_cons_of_isRedirection isGood, ← inductionHypothesis]
          cases compileRedirections rest <;> simp [Except.map]

/-- Each redirection makes one pattern. -/
theorem length_of_compileRedirections
    {texts : List String}
    {patterns : List Pattern}
    (compiles : compileRedirections texts = .ok patterns) :
    patterns.length = texts.length := by
  induction texts generalizing patterns with
  | nil =>
      cases compiles
      rfl
  | cons text texts inductionHypothesis =>
      cases firstCompiles text texts with
      | unreadable fault _ _ comesTo =>
          cases comesTo.symm.trans compiles
      | groupless _ comesTo =>
          cases comesTo.symm.trans compiles
      | good pattern _ comesTo =>
          obtain ⟨rest, isRest, rfl⟩ := Json.map_eq_ok_iff.mp (comesTo.symm.trans compiles)
          rw [List.length_cons, List.length_cons, inductionHypothesis isRest]

/-! ## Providers -/

/-- What comes before the redirections compiles. -/
structure Prepared
    (address : String)
    (parameters exceptions : List String) :
    Prop where
  address : ∃ pattern, Pattern.anchored address = .ok pattern
  exceptions :
    ∃ patterns,
      Pattern.ofTexts
          (exceptions.map fun text => Pattern.anchoredText text.toList) =
        .ok patterns
  parameters :
    ∃ patterns,
      Pattern.ofTexts (parameters.map fun text => Pattern.wholeText text.toList) =
        .ok patterns

section Compile

variable {name address : String} {parameters redirections exceptions : List String}

/-- After the other patterns the redirections decide. -/
theorem compile_of_prepared
    (prepared : Prepared address parameters exceptions)
    (name : String)
    (redirections : List String) :
    ∃ finish,
      compile name address parameters redirections exceptions =
        (compileRedirections redirections).map finish := by
  obtain ⟨addressPattern, makesAddress⟩ := prepared.address
  obtain ⟨exceptionPatterns, makeExceptions⟩ := prepared.exceptions
  obtain ⟨parameterPatterns, makeParameters⟩ := prepared.parameters
  refine
    ⟨fun redirections =>
      { name
        address := addressPattern
        parameters := parameterPatterns
        redirections
        exceptions := exceptionPatterns }, ?_⟩
  rw [compile, makesAddress, makeExceptions, makeParameters]
  cases compileRedirections redirections <;> rfl

/-- Without the other patterns the redirections are not looked at. -/
theorem compile_of_not_prepared
    (notPrepared : ¬Prepared address parameters exceptions)
    (name : String)
    (redirections : List String) :
    ∃ fault,
      compile name address parameters redirections exceptions =
        .error (.pattern fault) := by
  unfold compile
  cases makesAddress : Pattern.anchored address with
  | error fault =>
      exact ⟨fault, rfl⟩
  | ok addressPattern =>
      cases makeExceptions :
          Pattern.ofTexts
            (exceptions.map fun text => Pattern.anchoredText text.toList) with
      | error fault =>
          exact ⟨fault, rfl⟩
      | ok exceptionPatterns =>
          cases makeParameters :
              Pattern.ofTexts
                (parameters.map fun text => Pattern.wholeText text.toList) with
          | error fault =>
              exact ⟨fault, rfl⟩
          | ok parameterPatterns =>
              exact
                absurd ⟨⟨_, makesAddress⟩, ⟨_, makeExceptions⟩, ⟨_, makeParameters⟩⟩
                  notPrepared

/-- A provider compiles if all its patterns do and its redirections have groups. -/
theorem exists_compile_iff :
    (∃ provider,
        compile name address parameters redirections exceptions = .ok provider) ↔
      Prepared address parameters exceptions ∧
        ∀ text ∈ redirections, IsRedirection text := by
  by_cases prepared : Prepared address parameters exceptions
  · obtain ⟨finish, comesTo⟩ := compile_of_prepared prepared name redirections
    rw [comesTo, Json.exists_map_eq_ok_iff, exists_compileRedirections_iff,
      and_iff_right prepared]
  · obtain ⟨fault, comesTo⟩ := compile_of_not_prepared prepared name redirections
    simp [comesTo, prepared]

/-- A redirection without a group is told of if nothing before it is bad. -/
theorem compile_eq_withoutGroup_iff {text : String} :
    compile name address parameters redirections exceptions =
        .error (.redirectionWithoutGroup text) ↔
      Prepared address parameters exceptions ∧
        FirstBad redirections text ∧ IsGroupless text := by
  by_cases prepared : Prepared address parameters exceptions
  · obtain ⟨finish, comesTo⟩ := compile_of_prepared prepared name redirections
    rw [comesTo, ← compileRedirections_eq_withoutGroup_iff, and_iff_right prepared]
    cases compileRedirections redirections <;> simp [Except.map]
  · obtain ⟨fault, comesTo⟩ := compile_of_not_prepared prepared name redirections
    simp [comesTo, prepared]

end Compile

end Untrack.Provider
