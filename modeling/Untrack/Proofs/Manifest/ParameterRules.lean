import Untrack.Manifest.Catalog
import Untrack.Proofs.Provider.Anchoring
import Mathlib.Data.List.Nodup

namespace Untrack.Manifest

/-!
# The parameter rules of a definition

A definition writes its parameter rules under three headings. `parameterRules` puts
them together, and `ListsOnce` says how: each text once, in the order in which the
texts first come. It determines the list.

What stripping takes out depends on the set of these texts alone. Neither the heading
under which a rule stands, nor the order of the rules, nor how often one is repeated
makes any difference.
-/

/-- Every text of a list once, in the order in which the texts first come. -/
structure ListsOnce (written distinct : List String) : Prop where
  mem_iff :
    ∀ text, text ∈ distinct ↔ text ∈ written
  nodup :
    distinct.Nodup
  inOrder :
    distinct.Pairwise fun first second => written.idxOf first < written.idxOf second

/-- All parameter rules as a definition writes them, heading by heading. -/
def Definition.writtenRules (definition : Definition) : List String :=
  definition.rules.getD [] ++ definition.rawRules.getD [] ++
    definition.referralMarketing.getD []

/-! ## Each text once -/

namespace ListsOnce

variable {written distinct : List String}

/-- The first places of texts stay the same when more is written. -/
private theorem inOrder_append
    (lists : ListsOnce written distinct)
    (more : List String) :
    distinct.Pairwise fun first second =>
      (written ++ more).idxOf first < (written ++ more).idxOf second := by
  refine lists.inOrder.imp_of_mem fun {first second} isFirst isSecond before => ?_
  rw [List.idxOf_append_of_mem ((lists.mem_iff first).mp isFirst),
    List.idxOf_append_of_mem ((lists.mem_iff second).mp isSecond)]
  exact before

/-- A text that was written before is not listed again. -/
theorem known
    {text : String}
    (lists : ListsOnce written distinct)
    (isThere : text ∈ distinct) :
    ListsOnce (written ++ [text]) distinct where
  mem_iff other := by
    rw [List.mem_append, ← lists.mem_iff, List.mem_singleton]
    constructor
    · exact .inl
    · rintro (isListed | rfl)
      · exact isListed
      · exact isThere
  nodup :=
    lists.nodup
  inOrder :=
    lists.inOrder_append [text]

/-- A text that comes for the first time is listed last. -/
theorem new
    {text : String}
    (lists : ListsOnce written distinct)
    (isNew : text ∉ distinct) :
    ListsOnce (written ++ [text]) (distinct ++ [text]) where
  mem_iff other := by
    rw [List.mem_append, List.mem_append, lists.mem_iff]
  nodup := by
    refine List.nodup_append.mpr ⟨lists.nodup, List.nodup_singleton text, ?_⟩
    rintro listed isListed other isOther rfl
    rw [List.mem_singleton.mp isOther] at isListed
    exact isNew isListed
  inOrder := by
    refine List.pairwise_append.mpr
      ⟨lists.inOrder_append [text], List.pairwise_singleton _ text, ?_⟩
    intro first isFirst last isLast
    have isWritten := (lists.mem_iff first).mp isFirst
    have notWritten : text ∉ written := fun isThere =>
      isNew ((lists.mem_iff text).mpr isThere)
    rw [List.mem_singleton.mp isLast, List.idxOf_append_of_mem isWritten,
      List.idxOf_append_of_notMem notWritten]
    exact Nat.lt_add_right _ (List.idxOf_lt_length_iff.mpr isWritten)

/-- Putting in texts that are not there yet goes on with the list. -/
theorem addNew
    (lists : ListsOnce written distinct)
    (more : List String) :
    ListsOnce (written ++ more) (addNew distinct more) := by
  induction more generalizing written distinct with
  | nil =>
      rw [List.append_nil]
      exact lists
  | cons text rest inductionHypothesis =>
      rw [Manifest.addNew, List.append_cons]
      split
      case isTrue isThere =>
        exact inductionHypothesis (lists.known isThere)
      case isFalse isNew =>
        exact inductionHypothesis (lists.new isNew)

/-- Two lists of the same texts, each once, are as long. -/
theorem length_eq
    {otherWritten otherDistinct : List String}
    (lists : ListsOnce written distinct)
    (others : ListsOnce otherWritten otherDistinct)
    (sameTexts : ∀ text, text ∈ written ↔ text ∈ otherWritten) :
    distinct.length = otherDistinct.length := by
  have sameMembers (text : String) : text ∈ distinct ↔ text ∈ otherDistinct := by
    rw [lists.mem_iff, others.mem_iff, sameTexts]
  exact ((List.perm_ext_iff_of_nodup lists.nodup others.nodup).mpr sameMembers).length_eq

end ListsOnce

/-- The parameter rules are what is written, each text once. -/
theorem listsOnce_parameterRules (definition : Definition) :
    ListsOnce definition.writtenRules definition.parameterRules := by
  have nothing : ListsOnce [] [] :=
    ⟨fun _ => Iff.rfl, List.nodup_nil, List.Pairwise.nil⟩
  exact nothing.addNew definition.writtenRules

/-! ## What the rules strip -/

/-- A definition that compiles gives a provider with the patterns of its parameter rules. -/
theorem compiled_of_compileDefinition
    {name : String}
    {definition : Definition}
    {provider : Provider}
    (compiles : compileDefinition name definition = .ok provider) :
    Provider.Compiled definition.urlPattern definition.parameterRules
      (definition.redirections.getD []) (definition.exceptions.getD []) provider :=
  Provider.compiled_of_compile (Json.mapError_eq_ok_iff.mp compiles)

/-- An entry compiles as the definition that it is read as. -/
theorem compileEntry_of_ofValue
    {value : Json.Value}
    {definition : Definition}
    (isRead : Definition.ofValue value = .ok definition)
    (name : String) :
    compileEntry name value = compileDefinition name definition := by
  rw [compileEntry, isRead]

/-- A provider has one pattern for each parameter rule. -/
theorem length_parameters
    {name : String}
    {definition : Definition}
    {provider : Provider}
    (compiles : compileDefinition name definition = .ok provider) :
    provider.parameters.length = definition.parameterRules.length := by
  have compiled := compiled_of_compileDefinition compiles
  rw [Pattern.length_of_ofTexts compiled.parameters, List.length_map]

/--
Two definitions that compile and write the same set of parameter rules, under whatever
headings, in whatever order and however often, strip every link alike and have as many
parameter rules. The parameter rules of a definition are what it writes, each text
once, in the order in which the texts first come heading by heading.
-/
theorem strip_of_same_rules
    {firstName secondName : String}
    {firstValue secondValue : Json.Value}
    {first second : Definition}
    {one other : Provider}
    (firstRead : Definition.ofValue firstValue = .ok first)
    (secondRead : Definition.ofValue secondValue = .ok second)
    (firstCompiles : compileEntry firstName firstValue = .ok one)
    (secondCompiles : compileEntry secondName secondValue = .ok other)
    (sameRules : ∀ text, text ∈ first.writtenRules ↔ text ∈ second.writtenRules) :
    (∀ link, one.strip link = other.strip link) ∧
      one.parameters.length = other.parameters.length ∧
      ∀ definition : Definition,
        ListsOnce definition.writtenRules definition.parameterRules := by
  rw [compileEntry_of_ofValue firstRead] at firstCompiles
  rw [compileEntry_of_ofValue secondRead] at secondCompiles
  have listsFirst := listsOnce_parameterRules first
  have listsSecond := listsOnce_parameterRules second
  have sameSources (text : String) :
      text ∈ first.parameterRules ↔ text ∈ second.parameterRules := by
    rw [listsFirst.mem_iff, listsSecond.mem_iff, sameRules]
  refine ⟨fun link => ?_, ?_, listsOnce_parameterRules⟩
  · refine Link.strip_congr fun pair _ => ?_
    exact
      Pattern.any_isMatch_congr
        (compiled_of_compileDefinition firstCompiles).parameters
        (compiled_of_compileDefinition secondCompiles).parameters sameSources _
  · rw [length_parameters firstCompiles, length_parameters secondCompiles]
    exact listsFirst.length_eq listsSecond sameRules

/-- The same rules under other headings, in another order and without a repetition. -/
theorem strip_of_same_rules_of_regrouped :
    let text := Json.Value.string
    let scattered :=
      Json.Value.object
        [("rules", .array [text "x", text "y", text "x"]), ("rawRules", .null),
          ("urlPattern", text "a"), ("referralMarketing", .array [text "y"])]
    let regrouped :=
      Json.Value.object
        [("urlPattern", text "b"), ("referralMarketing", .array [text "x"]),
          ("rawRules", .array [text "y"])]
    ∃ one other,
      compileEntry "scattered" scattered = .ok one ∧
        compileEntry "regrouped" regrouped = .ok other ∧
        (∀ link, one.strip link = other.strip link) ∧
        one.parameters.length = other.parameters.length := by
  intro text scattered regrouped
  have scatteredRead :
      Definition.ofValue scattered =
        .ok ⟨"a", some ["x", "y", "x"], none, some ["y"], none, none⟩ :=
    rfl
  have regroupedRead :
      Definition.ofValue regrouped =
        .ok ⟨"b", none, some ["y"], some ["x"], none, none⟩ :=
    rfl
  have bothCompile :
      ((compileEntry "scattered" scattered).toOption.isSome &&
        (compileEntry "regrouped" regrouped).toOption.isSome) = true := by
    decide +kernel
  cases oneCompiles : compileEntry "scattered" scattered with
  | error failure =>
      simp [oneCompiles, Except.toOption] at bothCompile
  | ok one =>
      cases otherCompiles : compileEntry "regrouped" regrouped with
      | error failure =>
          simp [otherCompiles, Except.toOption] at bothCompile
      | ok other =>
          have sameRules :=
            strip_of_same_rules scatteredRead regroupedRead oneCompiles otherCompiles
              (by grind [Definition.writtenRules])
          exact ⟨one, other, rfl, rfl, sameRules.1, sameRules.2.1⟩

end Untrack.Manifest
