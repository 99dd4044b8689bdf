import Untrack.Proofs.Json.Members
import Untrack.Proofs.Manifest.Merging
import Untrack.Proofs.Manifest.ParameterRules
import Untrack.Proofs.Provider.Compiling
import Mathlib.Data.Finset.Card

namespace Untrack.Manifest

/-!
# Which definitions are accepted

An entry of a manifest is accepted in two steps. Its value has to describe a
definition, and the patterns of the definition have to compile. `Describes` says by
the members of an object which definition it describes, and `Definition.Compiles` says
what has to compile.

`compileEntry_judges` says when an entry is accepted, how many patterns the provider
then has, and what an entry that is not accepted is blamed for.
-/

/-! ## What an object describes -/

/-- The members of an object describe the definition. -/
structure Describes (members : Entries Json.Value) (definition : Definition) : Prop where
  urlPattern : members.get? "urlPattern" = some (.string definition.urlPattern)
  rules : Json.HoldsTexts (members.get? "rules") definition.rules
  rawRules : Json.HoldsTexts (members.get? "rawRules") definition.rawRules
  referralMarketing :
    Json.HoldsTexts (members.get? "referralMarketing") definition.referralMarketing
  redirections : Json.HoldsTexts (members.get? "redirections") definition.redirections
  exceptions : Json.HoldsTexts (members.get? "exceptions") definition.exceptions

/-- An object describes at most one definition. -/
theorem Describes.unique
    {members : Entries Json.Value}
    {first second : Definition}
    (describes : Describes members first)
    (describesToo : Describes members second) :
    first = second := by
  have sameUrlPattern : first.urlPattern = second.urlPattern := by
    simpa [describes.urlPattern] using describesToo.urlPattern
  cases first
  cases second
  simp only [Definition.mk.injEq]
  exact
    ⟨sameUrlPattern, describes.rules.unique describesToo.rules,
      describes.rawRules.unique describesToo.rawRules,
      describes.referralMarketing.unique describesToo.referralMarketing,
      describes.redirections.unique describesToo.redirections,
      describes.exceptions.unique describesToo.exceptions⟩

namespace Definition

/-- A field other than the pattern of the addresses takes a list of texts. -/
theorem holdsTexts_of_takes
    {field : String}
    {value? : Option Json.Value}
    {content? : Option Content}
    (isList : field ≠ requiredField)
    (takes : record.Takes field value? content?) :
    Json.HoldsTexts value? (content?.bind Content.list?) := by
  cases takes with
  | absent =>
      exact .absent
  | present isContent =>
      simp only [record, if_neg isList] at isContent
      obtain ⟨texts, areTexts, rfl⟩ := Json.map_eq_ok_iff.mp isContent
      exact Json.optionalTextsOfValue_eq_ok_iff.mp areTexts

/-- The pattern of the addresses takes a string. -/
theorem isText_of_takes
    {value? : Option Json.Value}
    {content? : Option Content}
    (takes : record.Takes requiredField value? content?) :
    value? = none ∧ content? = none ∨
      ∃ text, value? = some (.string text) ∧ content? = some (.text text) := by
  cases takes with
  | absent =>
      exact .inl ⟨rfl, rfl⟩
  | present isContent =>
      obtain ⟨text, isText, rfl⟩ := Json.map_eq_ok_iff.mp isContent
      exact .inr ⟨text, congrArg some (Json.textOfValue_eq_ok_iff.mp isText), rfl⟩

/-- The fields that are taken from an object make the definition that it describes. -/
theorem describes_of_ofFields
    {members : Entries Json.Value}
    {seen : Entries Content}
    {definition : Definition}
    (takes :
      ∀ field ∈ record.fields,
        record.Takes field (members.get? field) (seen.get? field))
    (makes : ofFields false seen = .ok definition) :
    Describes members definition := by
  have isList {field : String} (isField : field ∈ record.fields)
      (other : field ≠ requiredField) :
      Json.HoldsTexts (members.get? field) ((seen.get? field).bind Content.list?) :=
    holdsTexts_of_takes other (takes field isField)
  rcases isText_of_takes (takes requiredField (by decide)) with
    ⟨-, isMissing⟩ | ⟨text, isText, isThere⟩
  · simp [ofFields, isMissing] at makes
  · simp only [ofFields, isThere, Except.ok.injEq] at makes
    subst makes
    exact
      { urlPattern := isText
        rules := isList (by decide) (by decide)
        rawRules := isList (by decide) (by decide)
        referralMarketing := isList (by decide) (by decide)
        redirections := isList (by decide) (by decide)
        exceptions := isList (by decide) (by decide) }

/-- What a member of an object that describes a definition holds can be taken. -/
theorem exists_fieldOfValue
    {members : Entries Json.Value}
    {definition : Definition}
    (describes : Describes members definition)
    {field : String}
    {value : Json.Value}
    (isField : field ∈ record.fields)
    (found : members.get? field = some value) :
    ∃ content, record.fieldOfValue field value = .ok content := by
  have ofTexts {texts : Option (List String)}
      (holds : Json.HoldsTexts (members.get? field) texts)
      (isList : field ≠ requiredField) :
      ∃ content, record.fieldOfValue field value = .ok content := by
    rw [found] at holds
    simp only [record, if_neg isList, Json.exists_map_eq_ok_iff]
    exact ⟨texts, Json.optionalTextsOfValue_eq_ok_iff.mpr holds⟩
  simp only [record, List.mem_cons, List.not_mem_nil, or_false] at isField
  rcases isField with rfl | rfl | rfl | rfl | rfl | rfl
  · have isText := Option.some.inj (found.symm.trans describes.urlPattern)
    exact ⟨.text definition.urlPattern, by rw [isText]; rfl⟩
  · exact ofTexts describes.rules (by decide)
  · exact ofTexts describes.rawRules (by decide)
  · exact ofTexts describes.referralMarketing (by decide)
  · exact ofTexts describes.redirections (by decide)
  · exact ofTexts describes.exceptions (by decide)

/-- An object is read as the definition that its members describe. -/
theorem ofValue_object_eq_ok_iff
    {members : Entries Json.Value}
    {definition : Definition}
    (distinct : members.names.Nodup) :
    ofValue (.object members) = .ok definition ↔ Describes members definition := by
  constructor
  · intro isRead
    obtain ⟨seen, taken, makes⟩ := Json.bind_eq_ok_iff.mp isRead
    exact describes_of_ofFields (fun _ => Json.Record.takes_of_namedOfMembers taken) makes
  · intro describes
    obtain ⟨seen, taken⟩ :=
      Json.Record.exists_namedOfMembers
        (fun member isMember isField =>
          exists_fieldOfValue describes isField (Entries.get?_of_mem distinct isMember))
        []
    have takes (field : String) (isField : field ∈ record.fields) :
        record.Takes field (members.get? field) (seen.get? field) :=
      Json.Record.takes_of_namedOfMembers taken isField
    have isThere : seen.get? requiredField = some (.text definition.urlPattern) := by
      rcases isText_of_takes (takes requiredField (by decide)) with
        ⟨isMissing, -⟩ | ⟨text, isText, isThere⟩
      · cases isMissing.symm.trans describes.urlPattern
      · cases isText.symm.trans describes.urlPattern
        exact isThere
    obtain ⟨made, makes⟩ : ∃ made, ofFields false seen = .ok made := by
      simp [ofFields, isThere]
    rw [describes.unique (describes_of_ofFields takes makes)]
    exact Json.bind_eq_ok_iff.mpr ⟨seen, taken, makes⟩

/-! ## What compiles -/

/-- Everything of a definition compiles that comes before its redirections. -/
def IsPrepared (definition : Definition) : Prop :=
  Provider.Prepared definition.urlPattern definition.parameterRules
    (definition.exceptions.getD [])

/-- All patterns of a definition compile, and its redirections have groups. -/
structure Compiles (definition : Definition) : Prop where
  isPrepared : definition.IsPrepared
  redirections : ∀ text ∈ definition.redirections.getD [], Provider.IsRedirection text

/--
What keeps a definition from compiling is a redirection without a group, and nothing
that is looked at before it.
-/
structure LacksGroup (definition : Definition) (text : String) : Prop where
  isPrepared : definition.IsPrepared
  firstBad : Provider.FirstBad (definition.redirections.getD []) text
  isGroupless : Provider.IsGroupless text

/-- The provider has the patterns of the definition in number. -/
structure HasCounts (definition : Definition) (provider : Provider) : Prop where
  /-- Parameter rules are counted once, however often they are written. -/
  parameters : provider.parameters.length = definition.writtenRules.toFinset.card
  redirections : provider.redirections.length = (definition.redirections.getD []).length
  exceptions : provider.exceptions.length = (definition.exceptions.getD []).length

end Definition

variable {name : String} {definition : Definition}

/-- A definition compiles if all its patterns do. -/
theorem exists_compileDefinition_iff :
    (∃ provider, compileDefinition name definition = .ok provider) ↔
      definition.Compiles := by
  simp only [compileDefinition, Json.mapError_eq_ok_iff, Provider.exists_compile_iff]
  exact
    ⟨fun ⟨isPrepared, areRedirections⟩ => ⟨isPrepared, areRedirections⟩,
      fun ⟨isPrepared, areRedirections⟩ => ⟨isPrepared, areRedirections⟩⟩

/-- A definition that does not compile is blamed for a redirection or a pattern. -/
theorem failure_of_compileDefinition
    {failure : Failure}
    (fails : compileDefinition name definition = .error failure) :
    (∃ text,
        definition.LacksGroup text ∧
          failure = .definition name (.redirectionWithoutGroup text)) ∨
      (∀ text, ¬definition.LacksGroup text) ∧ ∃ fault, failure = .pattern fault := by
  unfold compileDefinition at fails
  cases comesTo :
      Provider.compile name definition.urlPattern definition.parameterRules
        (definition.redirections.getD []) (definition.exceptions.getD []) with
  | ok provider =>
      rw [comesTo] at fails
      cases fails
  | error refusal =>
      rw [comesTo] at fails
      cases fails
      cases refusal with
      | redirectionWithoutGroup text =>
          obtain ⟨isPrepared, firstBad, isGroupless⟩ :=
            Provider.compile_eq_withoutGroup_iff.mp comesTo
          exact .inl ⟨text, ⟨isPrepared, firstBad, isGroupless⟩, rfl⟩
      | pattern fault =>
          refine .inr ⟨fun text lacksGroup => ?_, fault, rfl⟩
          rw [Provider.compile_eq_withoutGroup_iff.mpr
            ⟨lacksGroup.isPrepared, lacksGroup.firstBad, lacksGroup.isGroupless⟩] at comesTo
          cases comesTo

/-- A list of each text once is as long as the set of the texts has elements. -/
theorem ListsOnce.length_eq_card
    {written distinct : List String}
    (lists : ListsOnce written distinct) :
    distinct.length = written.toFinset.card := by
  have sameSet : written.toFinset = distinct.toFinset := by
    ext text
    rw [List.mem_toFinset, List.mem_toFinset, lists.mem_iff]
  rw [sameSet, List.toFinset_card_of_nodup lists.nodup]

/-- A provider has as many patterns of each sort as its definition. -/
theorem hasCounts_of_compileDefinition
    {provider : Provider}
    (compiles : compileDefinition name definition = .ok provider) :
    definition.HasCounts provider := by
  have compiled := compiled_of_compileDefinition compiles
  constructor
  · rw [length_parameters compiles, (listsOnce_parameterRules definition).length_eq_card]
  · exact Provider.length_of_compileRedirections compiled.redirections
  · rw [Pattern.length_of_ofTexts compiled.exceptions, List.length_map]

/-! ## Accepted and refused entries -/

/-- Members of an object that are no fields of definitions do not matter. -/
theorem compileEntry_filter (name : String) (members : Entries Json.Value) :
    compileEntry name (.object (members.filter (·.1 ∈ Definition.record.fields))) =
      compileEntry name (.object members) := by
  simp only [compileEntry, Definition.ofValue, Json.Record.ofValue,
    Json.Record.namedOfMembers_filter]

/-- What comes of an entry that is an object. -/
inductive Judged (name : String) (members : Entries Json.Value) :
    Except Failure Provider → Prop where
  | misshapen (fault : DefinitionFault) :
      (¬∃ definition, Describes members definition) →
      Judged name members (.error (.definition name fault))
  | described (definition : Definition) :
      Describes members definition →
      Judged name members (compileDefinition name definition)

/-- An object is misshapen, or it is compiled as the definition that it describes. -/
theorem judged_compileEntry
    (name : String)
    {members : Entries Json.Value}
    (distinct : members.names.Nodup) :
    Judged name members (compileEntry name (.object members)) := by
  cases isRead : Definition.ofValue (.object members) with
  | ok definition =>
      rw [compileEntry_of_ofValue isRead]
      exact .described definition ((Definition.ofValue_object_eq_ok_iff distinct).mp isRead)
  | error cause =>
      rw [compileEntry, isRead]
      refine .misshapen (.shape cause) ?_
      rintro ⟨definition, describes⟩
      cases isRead.symm.trans ((Definition.ofValue_object_eq_ok_iff distinct).mpr describes)

namespace Judged

variable {members : Entries Json.Value} {result : Except Failure Provider}

/-- An entry is accepted if it describes a definition that compiles. -/
theorem exists_ok_iff (judged : Judged name members result) :
    (∃ provider, result = .ok provider) ↔
      ∃ definition, Describes members definition ∧ definition.Compiles := by
  cases judged with
  | misshapen fault describesNone =>
      simp only [reduceCtorEq, exists_false, false_iff]
      exact fun ⟨definition, describes, _⟩ => describesNone ⟨definition, describes⟩
  | described definition describes =>
      rw [exists_compileDefinition_iff]
      constructor
      · exact fun compiles => ⟨definition, describes, compiles⟩
      · rintro ⟨other, describesToo, compiles⟩
        rwa [describes.unique describesToo]

/-- The provider of an entry has the patterns that it describes in number. -/
theorem hasCounts
    {provider : Provider}
    (judged : Judged name members result)
    (accepted : result = .ok provider) :
    ∃ definition, Describes members definition ∧ definition.HasCounts provider := by
  cases judged with
  | misshapen =>
      cases accepted
  | described definition describes =>
      exact ⟨definition, describes, hasCounts_of_compileDefinition accepted⟩

/-- An entry is blamed for what it describes only if it lacks a group. -/
theorem definition_iff
    {failure : Failure}
    (judged : Judged name members result)
    (refused : result = .error failure) :
    (∃ fault, failure = .definition name fault) ↔
      (¬∃ definition, Describes members definition) ∨
        ∃ definition text,
          Describes members definition ∧ definition.LacksGroup text := by
  cases judged with
  | misshapen fault describesNone =>
      cases refused
      exact ⟨fun _ => .inl describesNone, fun _ => ⟨fault, rfl⟩⟩
  | described definition describes =>
      rcases failure_of_compileDefinition refused with
        ⟨text, lacksGroup, rfl⟩ | ⟨blameless, fault, rfl⟩
      · exact
          ⟨fun _ => .inr ⟨definition, text, describes, lacksGroup⟩, fun _ => ⟨_, rfl⟩⟩
      · refine ⟨nofun, ?_⟩
        rintro (describesNone | ⟨other, text, describesToo, lacksGroup⟩)
        · exact absurd ⟨definition, describes⟩ describesNone
        · rw [describes.unique describesToo] at blameless
          exact absurd lacksGroup (blameless text)

/-- Either the definition is to blame or a pattern. -/
theorem definition_or_pattern
    {failure : Failure}
    (judged : Judged name members result)
    (refused : result = .error failure) :
    (∃ fault, failure = .definition name fault) ∨ ∃ fault, failure = .pattern fault := by
  cases judged with
  | misshapen fault =>
      cases refused
      exact .inl ⟨fault, rfl⟩
  | described definition =>
      rcases failure_of_compileDefinition refused with
        ⟨text, -, rfl⟩ | ⟨-, fault, rfl⟩
      · exact .inl ⟨_, rfl⟩
      · exact .inr ⟨fault, rfl⟩

end Judged

/--
An entry that is an object is accepted just if it describes a definition that
compiles. The provider then has the name of the entry, and as many patterns of each
sort as the definition. An entry that is not accepted is blamed for its definition if
it describes none, or if a redirection without a group is the first thing that is bad
about it; otherwise a pattern is at fault. Other members of the object never matter.
-/
theorem compileEntry_judges
    (name : String)
    {members : Entries Json.Value}
    (distinct : members.names.Nodup) :
    ((∃ provider, compileEntry name (.object members) = .ok provider) ↔
        ∃ definition, Describes members definition ∧ definition.Compiles) ∧
      (∀ provider, compileEntry name (.object members) = .ok provider →
        provider.name = name ∧
          ∃ definition, Describes members definition ∧ definition.HasCounts provider) ∧
      (∀ failure, compileEntry name (.object members) = .error failure →
        ((∃ fault, failure = .definition name fault) ↔
            (¬∃ definition, Describes members definition) ∨
              ∃ definition text,
                Describes members definition ∧ definition.LacksGroup text) ∧
          ((∃ fault, failure = .definition name fault) ∨
            ∃ fault, failure = .pattern fault)) ∧
      compileEntry name (.object (members.filter (·.1 ∈ Definition.record.fields))) =
        compileEntry name (.object members) := by
  have judged := judged_compileEntry name distinct
  refine ⟨judged.exists_ok_iff, fun provider accepted => ?_, fun failure refused => ?_, ?_⟩
  · exact ⟨name_of_compileEntry accepted, judged.hasCounts accepted⟩
  · exact ⟨judged.definition_iff refused, judged.definition_or_pattern refused⟩
  · exact compileEntry_filter name members

/-- Null for a list, a rule that comes twice and a member that is no field. -/
theorem compileEntry_judges_of_unknown_member :
    let text := Json.Value.string
    let members : Entries Json.Value :=
      [("completeProvider", .boolean true), ("rules", .array [text "x", text "y"]),
        ("urlPattern", text "a"), ("rawRules", .null),
        ("referralMarketing", .array [text "x"]), ("redirections", .array [text "a(.*)"])]
    members.names.Nodup ∧
      ∃ definition provider,
        compileEntry "site" (.object members) = .ok provider ∧
          Describes members definition ∧
          definition.HasCounts provider ∧
          provider.parameters.length = 2 := by
  intro text members
  have distinct : members.names.Nodup := by
    decide
  have counted :
      (compileEntry "site" (.object members)).toOption.map (·.parameters.length) =
        some 2 := by
    decide +kernel
  cases accepted : compileEntry "site" (.object members) with
  | error failure =>
      rw [accepted] at counted
      cases counted
  | ok provider =>
      obtain ⟨-, definition, describes, hasCounts⟩ :=
        (compileEntry_judges "site" distinct).2.1 provider accepted
      rw [accepted] at counted
      exact
        ⟨distinct, definition, provider, rfl, describes, hasCounts,
          Option.some.inj counted⟩

end Untrack.Manifest
