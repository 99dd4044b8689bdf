import Untrack.Proofs.Cleaning
import Untrack.Proofs.Pattern.Search
import Untrack.Proofs.Pattern.Wrapping

namespace Untrack

/-!
# Anchored rules

The patterns of a provider begin to match where a link begins, and its parameter
rules take in the whole of a name. Both hold of every pattern that is one by
itself. They are brought about by signs around the text of a pattern, however, so
a text that closes the group around it and opens another is accepted too, and
gets out of its anchors.
-/

namespace Pattern

/-! ## Anchored expressions -/

/-- There is no character before a place in a text just where the text starts. -/
theorem before?_isNone_iff
    {text : List Char}
    {position : Nat}
    (inside : position ≤ text.length) :
    (before? text position).isNone = true ↔ position = 0 := by
  cases position with
  | zero =>
      simp [before?]
  | succ position =>
      simp only [before?, Option.isNone_iff_eq_none, List.getElem?_eq_none_iff]
      omega

/-- An anchored expression has the groups of the expression. -/
theorem blank_anchored (expr : Expr) :
    (Expr.concat [.assertion .textStart, expr]).blank = expr.blank := by
  simp [Expr.blank, Expr.lastGroup_concat, Expr.lastGroupOf, Expr.lastGroup]

/-- An expression for whole texts has the groups of the expression. -/
theorem blank_whole (expr : Expr) :
    (Expr.concat [.assertion .textStart, expr, .assertion .textStop]).blank =
      expr.blank := by
  simp [Expr.blank, Expr.lastGroup_concat, Expr.lastGroupOf, Expr.lastGroup]

/-- An anchored expression reads a text from its start. -/
theorem reads_anchored_iff
    {text : List Char}
    {expr : Expr}
    {first last : Cursor}
    (inside : first.position ≤ text.length) :
    (Expr.concat [.assertion .textStart, expr]).Reads text first last ↔
      first.position = 0 ∧ expr.Reads text first last := by
  rw [Expr.reads_concat, ← before?_isNone_iff inside]
  simp only [ReadsAll, Expr.Reads, Assertion.holds]
  constructor
  · rintro ⟨_, ⟨isStart, rfl⟩, _, reads, rfl⟩
    exact ⟨isStart, reads⟩
  · rintro ⟨isStart, reads⟩
    exact ⟨first, ⟨isStart, rfl⟩, last, reads, rfl⟩

/-- An expression for whole texts reads all of a text. -/
theorem reads_whole_iff
    {text : List Char}
    {expr : Expr}
    {first last : Cursor}
    (inside : first.position ≤ text.length) :
    (Expr.concat [.assertion .textStart, expr, .assertion .textStop]).Reads text
        first last ↔
      first.position = 0 ∧ last.position = text.length ∧
        expr.Reads text first last := by
  rw [Expr.reads_concat, ← before?_isNone_iff inside]
  simp only [ReadsAll, Expr.Reads, Assertion.holds]
  constructor
  · rintro ⟨_, ⟨isStart, rfl⟩, middle, reads, _, ⟨isStop, rfl⟩, rfl⟩
    have isInside := reads.position_le inside
    rw [Option.isNone_iff_eq_none, List.getElem?_eq_none_iff] at isStop
    exact ⟨isStart, Nat.le_antisymm isInside isStop, reads⟩
  · rintro ⟨isStart, isStop, reads⟩
    refine ⟨first, ⟨isStart, rfl⟩, last, reads, last, ⟨?_, rfl⟩, rfl⟩
    rw [Option.isNone_iff_eq_none, List.getElem?_eq_none_iff]
    exact Nat.le_of_eq isStop.symm

/-! ## Anchored patterns -/

/-- A pattern that begins where a text begins is the one that its own text means. -/
theorem isMatch_anchored_iff
    {source text : List Char}
    {expr wrapped : Expr}
    (isRead : read source = .ok expr)
    (isWrapped : read (anchoredText source) = .ok wrapped) :
    (ofExpr wrapped).isMatch text = true ↔ ∃ stop, expr.Matches text 0 stop := by
  rw [isMatch_ofExpr_iff, read_anchored isRead isWrapped]
  simp only [Expr.Matches, blank_anchored]
  constructor
  · rintro ⟨start, stop, inside, slots, reads⟩
    obtain ⟨rfl, reads⟩ := (reads_anchored_iff inside).mp reads
    exact ⟨stop, slots, reads⟩
  · rintro ⟨stop, slots, reads⟩
    exact ⟨0, stop, Nat.zero_le _, slots, (reads_anchored_iff (Nat.zero_le _)).mpr ⟨rfl, reads⟩⟩

/-- A pattern for whole texts is the one that its own text means. -/
theorem isMatch_whole_iff
    {source text : List Char}
    {expr wrapped : Expr}
    (isRead : read source = .ok expr)
    (isWrapped : read (wholeText source) = .ok wrapped) :
    (ofExpr wrapped).isMatch text = true ↔ expr.Matches text 0 text.length := by
  rw [isMatch_ofExpr_iff, read_whole isRead isWrapped]
  simp only [Expr.Matches, blank_whole]
  constructor
  · rintro ⟨start, stop, inside, slots, reads⟩
    obtain ⟨rfl, rfl, reads⟩ := (reads_whole_iff inside).mp reads
    exact ⟨slots, reads⟩
  · rintro ⟨slots, reads⟩
    exact
      ⟨0, text.length, Nat.zero_le _, slots,
        (reads_whole_iff (Nat.zero_le _)).mpr ⟨rfl, rfl, reads⟩⟩

/-- What a pattern that begins where a text begins finds is a match of its own text. -/
theorem reads_of_find_anchored
    {source text : List Char}
    {expr wrapped : Expr}
    {found : Match}
    (isRead : read source = .ok expr)
    (isWrapped : read (anchoredText source) = .ok wrapped)
    (isFound : (ofExpr wrapped).find text = some found) :
    expr.Reads text ⟨0, expr.blank⟩ ⟨found.stop, found.slots⟩ := by
  obtain ⟨inside, reads⟩ := reads_of_find isFound
  rw [read_anchored isRead isWrapped, blank_anchored] at reads
  obtain ⟨isStart, reads⟩ := (reads_anchored_iff inside).mp reads
  rwa [show found.start = 0 from isStart] at reads

/-- A text that makes a pattern is read, and the pattern is what it means. -/
theorem exists_of_ofText
    {source : List Char}
    {pattern : Pattern}
    (makes : ofText source = .ok pattern) :
    ∃ expr, read source = .ok expr ∧ pattern = ofExpr expr := by
  obtain ⟨expr, isRead, fits⟩ := Json.bind_eq_ok_iff.mp makes
  split at fits
  · exact ⟨expr, isRead, (Except.ok.inj fits).symm⟩
  · cases fits

/-- The values of a list of results are there for each of them. -/
theorem mapM_spec
    {ε α β : Type}
    {compute : α → Except ε β}
    {inputs : List α}
    {outputs : List β}
    (computes : inputs.mapM compute = .ok outputs) :
    (∀ input ∈ inputs, ∃ output, compute input = .ok output) ∧
      ∀ output, output ∈ outputs ↔ ∃ input ∈ inputs, compute input = .ok output := by
  induction inputs generalizing outputs with
  | nil =>
      cases computes
      simp
  | cons input inputs inductionHypothesis =>
      rw [List.mapM_cons] at computes
      obtain ⟨first, isFirst, computes⟩ := Json.bind_eq_ok_iff.mp computes
      obtain ⟨rest, isRest, computes⟩ := Json.bind_eq_ok_iff.mp computes
      cases computes
      obtain ⟨areThere, areOutputs⟩ := inductionHypothesis isRest
      refine ⟨List.forall_mem_cons.mpr ⟨⟨first, isFirst⟩, areThere⟩, fun output => ?_⟩
      rw [List.mem_cons, areOutputs]
      simp only [List.mem_cons, exists_eq_or_imp, isFirst, Except.ok.injEq]
      exact or_congr_left eq_comm

/-- Where every input has an output there are as many of them. -/
theorem length_of_mapM
    {ε α β : Type}
    {compute : α → Except ε β}
    {inputs : List α}
    {outputs : List β}
    (computes : inputs.mapM compute = .ok outputs) :
    outputs.length = inputs.length := by
  induction inputs generalizing outputs with
  | nil =>
      cases computes
      rfl
  | cons input inputs inductionHypothesis =>
      rw [List.mapM_cons] at computes
      obtain ⟨first, -, computes⟩ := Json.bind_eq_ok_iff.mp computes
      obtain ⟨rest, isRest, computes⟩ := Json.bind_eq_ok_iff.mp computes
      cases computes
      rw [List.length_cons, List.length_cons, inductionHypothesis isRest]

/-- Each of several texts makes one pattern. -/
theorem length_of_ofTexts
    {texts : List (List Char)}
    {patterns : List Pattern}
    (makes : ofTexts texts = .ok patterns) :
    patterns.length = texts.length := by
  obtain ⟨exprs, areRead, fits⟩ := Json.bind_eq_ok_iff.mp makes
  split at fits
  · cases fits
    rw [List.length_map, length_of_mapM areRead]
  · cases fits

/-- Some pattern of several matches just if the text of one means so. -/
theorem any_isMatch_iff
    {wrap : List Char → List Char}
    {sources : List String}
    {patterns : List Pattern}
    {text : List Char}
    {means : String → Prop}
    (makes : ofTexts (sources.map fun source => wrap source.toList) = .ok patterns)
    (isMatch_iff :
      ∀ source ∈ sources, ∀ wrapped,
        read (wrap source.toList) = .ok wrapped →
        ((ofExpr wrapped).isMatch text = true ↔ means source)) :
    patterns.any (·.isMatch text) = true ↔ ∃ source ∈ sources, means source := by
  obtain ⟨exprs, areRead, fits⟩ := Json.bind_eq_ok_iff.mp makes
  obtain ⟨areThere, areExprs⟩ := mapM_spec areRead
  split at fits
  case isTrue =>
    cases fits
    simp only [List.any_map, List.any_eq_true, areExprs, List.mem_map]
    constructor
    · rintro ⟨wrapped, ⟨_, ⟨source, member, rfl⟩, isWrapped⟩, isMatch⟩
      exact ⟨source, member, (isMatch_iff source member wrapped isWrapped).mp isMatch⟩
    · rintro ⟨source, member, isMeant⟩
      obtain ⟨wrapped, isWrapped⟩ :=
        areThere _ (List.mem_map_of_mem (f := fun source => wrap source.toList) member)
      exact
        ⟨wrapped, ⟨_, ⟨source, member, rfl⟩, isWrapped⟩,
          (isMatch_iff source member wrapped isWrapped).mpr isMeant⟩
  case isFalse =>
    cases fits

/-- What several patterns match depends on the set of their texts alone. -/
theorem any_isMatch_congr
    {wrap : List Char → List Char}
    {first second : List String}
    {firstPatterns secondPatterns : List Pattern}
    (firstMakes :
      ofTexts (first.map fun source => wrap source.toList) = .ok firstPatterns)
    (secondMakes :
      ofTexts (second.map fun source => wrap source.toList) = .ok secondPatterns)
    (sameSources : ∀ source, source ∈ first ↔ source ∈ second)
    (text : List Char) :
    firstPatterns.any (·.isMatch text) = secondPatterns.any (·.isMatch text) := by
  let means (source : String) : Prop :=
    ∃ wrapped,
      read (wrap source.toList) = .ok wrapped ∧ (ofExpr wrapped).isMatch text = true
  have isMatch_iff (source : String) (wrapped : Expr)
      (isWrapped : read (wrap source.toList) = .ok wrapped) :
      (ofExpr wrapped).isMatch text = true ↔ means source := by
    simp [means, isWrapped]
  rw [Bool.eq_iff_iff,
    any_isMatch_iff firstMakes fun source _ => isMatch_iff source,
    any_isMatch_iff secondMakes fun source _ => isMatch_iff source]
  exact exists_congr fun source => and_congr_left' (sameSources source)

/-! ## Patterns by themselves -/

/-- The text is a pattern by itself. -/
def IsPattern (source : String) : Prop :=
  ∃ expr, read source.toList = .ok expr

instance (source : String) : Decidable (IsPattern source) :=
  decidable_of_iff ((read source.toList).isOk = true) <| by
    unfold IsPattern
    cases read source.toList with
    | ok expr =>
        exact ⟨fun _ => ⟨expr, rfl⟩, fun _ => rfl⟩
    | error fault =>
        exact ⟨nofun, nofun⟩

/-- The pattern, by itself, has a match that begins where the text does. -/
def Begins (source : String) (text : List Char) : Prop :=
  ∃ expr stop, read source.toList = .ok expr ∧ expr.Matches text 0 stop

/-- The pattern, by itself, matches the whole text. -/
def Covers (source : String) (text : List Char) : Prop :=
  ∃ expr, read source.toList = .ok expr ∧ expr.Matches text 0 text.length

/-- The first group of a match of the pattern, by itself, that begins where the text does. -/
def Captures (source : String) (text target : List Char) : Prop :=
  ∃ expr stop slots,
    read source.toList = .ok expr ∧
      expr.Reads text ⟨0, expr.blank⟩ ⟨stop, slots⟩ ∧
      Match.group? ⟨0, stop, slots⟩ text 1 = some target

/-- An anchored pattern matches where the pattern by itself begins. -/
theorem begins_iff
    {source : String}
    {wrapped : Expr}
    {text : List Char}
    (isPattern : IsPattern source)
    (isWrapped : read (anchoredText source.toList) = .ok wrapped) :
    (ofExpr wrapped).isMatch text = true ↔ Begins source text := by
  obtain ⟨expr, isRead⟩ := isPattern
  rw [isMatch_anchored_iff isRead isWrapped]
  constructor
  · rintro ⟨stop, isMatch⟩
    exact ⟨expr, stop, isRead, isMatch⟩
  · rintro ⟨other, stop, isOther, isMatch⟩
    obtain rfl := Except.ok.inj (isOther.symm.trans isRead)
    exact ⟨stop, isMatch⟩

/-- A pattern for whole texts matches what the pattern by itself covers. -/
theorem covers_iff
    {source : String}
    {wrapped : Expr}
    {text : List Char}
    (isPattern : IsPattern source)
    (isWrapped : read (wholeText source.toList) = .ok wrapped) :
    (ofExpr wrapped).isMatch text = true ↔ Covers source text := by
  obtain ⟨expr, isRead⟩ := isPattern
  rw [isMatch_whole_iff isRead isWrapped]
  constructor
  · intro isMatch
    exact ⟨expr, isRead, isMatch⟩
  · rintro ⟨other, isOther, isMatch⟩
    obtain rfl := Except.ok.inj (isOther.symm.trans isRead)
    exact isMatch

end Pattern

namespace Provider

variable {name address : String} {parameters redirections exceptions : List String}
variable {provider : Provider}

/-- Redirections that compile are anchored patterns. -/
theorem exists_of_mem_redirections
    {texts : List String}
    {patterns : List Pattern}
    (compiles : compileRedirections texts = .ok patterns)
    {pattern : Pattern}
    (member : pattern ∈ patterns) :
    ∃ text ∈ texts, Pattern.anchored text = .ok pattern := by
  induction texts generalizing patterns with
  | nil =>
      cases compiles
      cases member
  | cons text texts inductionHypothesis =>
      rw [compileRedirections] at compiles
      split at compiles
      case h_1 =>
        cases compiles
      case h_2 first isFirst =>
        split at compiles
        · cases compiles
        · obtain ⟨rest, isRest, rfl⟩ := Json.map_eq_ok_iff.mp compiles
          rcases List.mem_cons.mp member with rfl | isLater
          · exact ⟨text, List.mem_cons_self .., isFirst⟩
          · obtain ⟨other, isIn, isAnchored⟩ := inductionHypothesis isRest isLater
            exact ⟨other, List.mem_cons_of_mem _ isIn, isAnchored⟩

/-- What the patterns of a provider are made of. -/
structure Compiled
    (address : String)
    (parameters redirections exceptions : List String)
    (provider : Provider) :
    Prop where
  address : Pattern.anchored address = .ok provider.address
  exceptions :
    Pattern.ofTexts
        (exceptions.map fun text => Pattern.anchoredText text.toList) =
      .ok provider.exceptions
  parameters :
    Pattern.ofTexts (parameters.map fun text => Pattern.wholeText text.toList) =
      .ok provider.parameters
  redirections : compileRedirections redirections = .ok provider.redirections

/-- A provider that compiles is made of its patterns. -/
theorem compiled_of_compile
    (compiles :
      compile name address parameters redirections exceptions = .ok provider) :
    Compiled address parameters redirections exceptions provider := by
  obtain ⟨isAddress, makesAddress, compiles⟩ := Json.bind_eq_ok_iff.mp compiles
  obtain ⟨areExceptions, makeExceptions, compiles⟩ := Json.bind_eq_ok_iff.mp compiles
  obtain ⟨areParameters, makeParameters, compiles⟩ := Json.bind_eq_ok_iff.mp compiles
  obtain ⟨areRedirections, makeRedirections, compiles⟩ := Json.bind_eq_ok_iff.mp compiles
  cases compiles
  rw [Json.mapError_eq_ok_iff] at makesAddress makeExceptions makeParameters
  exact ⟨makesAddress, makeExceptions, makeParameters, makeRedirections⟩

/-- The patterns of a provider are patterns by themselves. -/
def ArePatterns
    (address : String)
    (parameters redirections exceptions : List String) :
    Prop :=
  ∀ text ∈ address :: (parameters ++ redirections ++ exceptions),
    Pattern.IsPattern text

instance
    (address : String)
    (parameters redirections exceptions : List String) :
    Decidable (ArePatterns address parameters redirections exceptions) :=
  inferInstanceAs (Decidable (∀ text ∈ _, _))

namespace Compiled

variable (compiled : Compiled address parameters redirections exceptions provider)
variable (arePatterns : ArePatterns address parameters redirections exceptions)
include compiled arePatterns

/-- A provider matches links that its address begins and that no exception does. -/
theorem isMatch_iff (link : List Char) :
    provider.isMatch link = true ↔
      Pattern.Begins address (Text.trimmed link) ∧
        ¬∃ text ∈ exceptions, Pattern.Begins text (Text.trimmed link) := by
  have isAddress := arePatterns address (List.mem_cons_self ..)
  obtain ⟨wrapped, isWrapped, isAnchored⟩ := Pattern.exists_of_ofText compiled.address
  have exceptionMatches :
      provider.exceptions.any (·.isMatch (Text.trimmed link)) = true ↔
        ∃ text ∈ exceptions, Pattern.Begins text (Text.trimmed link) := by
    refine Pattern.any_isMatch_iff compiled.exceptions fun text member _ isWrapped => ?_
    exact Pattern.begins_iff (arePatterns text (by simp [member])) isWrapped
  rw [Provider.isMatch, Bool.and_eq_true, Bool.not_eq_true',
    ← Bool.not_eq_true, exceptionMatches, isAnchored]
  exact and_congr_left fun _ => Pattern.begins_iff isAddress isWrapped

/-- A provider takes out the pairs whose name one of its rules covers. -/
theorem isTracking_iff (pair : List Char) :
    provider.isTracking pair = true ↔
      ∃ text ∈ parameters, Pattern.Covers text (Text.Form.readField pair).1 := by
  refine Pattern.any_isMatch_iff compiled.parameters fun text member _ isWrapped => ?_
  exact Pattern.covers_iff (arePatterns text (by simp [member])) isWrapped

/-- A provider follows what one of its redirections captures. -/
theorem exists_captures
    {link target : List Char}
    (leads : provider.target? link = some target) :
    ∃ text ∈ redirections, Pattern.Captures text link target := by
  obtain ⟨pattern, member, captures⟩ := List.exists_of_findSome?_eq_some leads
  obtain ⟨found, isFound, isGroup⟩ := Option.bind_eq_some_iff.mp captures
  obtain ⟨text, isText, isAnchored⟩ :=
    exists_of_mem_redirections compiled.redirections member
  obtain ⟨wrapped, isWrapped, rfl⟩ := Pattern.exists_of_ofText isAnchored
  obtain ⟨expr, isRead⟩ :=
    arePatterns text (List.mem_cons_of_mem _ (by simp [isText]))
  have reads := Pattern.reads_of_find_anchored isRead isWrapped isFound
  exact ⟨text, isText, expr, found.stop, found.slots, isRead, reads, isGroup⟩

end Compiled

/--
Where the patterns of a provider are patterns by themselves, they are anchored. A
link is the provider's if its address begins the trimmed link and no exception
does. Stripping takes out just those pairs of which a parameter rule covers the
whole name. And a link is redirected only to what a redirection captures that
begins to match where the link begins.
-/
theorem patterns_anchored
    (compiles :
      compile name address parameters redirections exceptions = .ok provider)
    (arePatterns : ArePatterns address parameters redirections exceptions) :
    (∀ link,
        provider.isMatch link = true ↔
          Pattern.Begins address (Text.trimmed link) ∧
            ¬∃ text ∈ exceptions, Pattern.Begins text (Text.trimmed link)) ∧
      (∀ link, ∀ pair ∈ Link.pairs link,
        pair ∉ Link.pairs (provider.strip link) ↔
          ∃ text ∈ parameters, Pattern.Covers text (Text.Form.readField pair).1) ∧
      ∀ link,
        provider.redirect link ≠ link →
        ∃ text ∈ redirections, ∃ target,
          Pattern.Captures text link target ∧
            provider.redirect link =
              (Link.absolute? (Text.Percent.decodeFully target) link).getD link := by
  have compiled := compiled_of_compile compiles
  refine ⟨compiled.isMatch_iff arePatterns, ?_, ?_⟩
  · intro link pair member
    rw [← compiled.isTracking_iff arePatterns, Provider.strip, Link.pairs_strip]
    simp [member]
  · intro link isElsewhere
    unfold redirect at isElsewhere ⊢
    cases leads : provider.target? link with
    | none =>
        rw [leads] at isElsewhere
        exact absurd rfl isElsewhere
    | some target =>
        obtain ⟨text, member, captures⟩ := compiled.exists_captures arePatterns leads
        exact ⟨text, member, target, captures, rfl⟩

/-- Alternatives are anchored together: none of them gets out on its own. -/
theorem patterns_anchored_of_alternatives :
    let address := "https?://a|https?://b"
    let rule := "x|y"
    let redirection := "https?://a/\\?to=(.*)|https?://b/(.*)"
    Pattern.Begins address (Text.trimmed " https://b/".toList) ∧
      ¬Pattern.Begins address (Text.trimmed "see https://b/".toList) ∧
      (∃ text ∈ [rule], Pattern.Covers text "x".toList) ∧
      ¬(∃ text ∈ [rule], Pattern.Covers text "xy".toList) ∧
      ∃ text ∈ [redirection], ∃ target,
        Pattern.Captures text "https://a/?to=c".toList target := by
  intro address rule redirection
  have facts :
      (compile "alternatives" address [rule] [redirection] []).toOption.map
        (fun provider =>
          (provider.isMatch " https://b/".toList,
            provider.isMatch "see https://b/".toList,
            Link.pairs (provider.strip "https://b/?x=1&xy=1".toList),
            provider.redirect "https://a/?to=c".toList)) =
        some (true, false, ["xy=1".toList], "https://c".toList) := by
    decide +kernel
  generalize isMade : compile "alternatives" _ _ _ _ = made at facts
  cases made with
  | error refusal =>
      cases facts
  | ok provider =>
      simp only [Except.toOption, Option.map_some, Option.some.injEq,
        Prod.mk.injEq] at facts
      obtain ⟨isIn, isOut, kept, isElsewhere⟩ := facts
      obtain ⟨isMatch, isRemoved, isCaptured⟩ :=
        patterns_anchored isMade (by decide +kernel)
      have isPair : Link.pairs "https://b/?x=1&xy=1".toList = ["x=1".toList, "xy=1".toList] := by
        decide +kernel
      refine ⟨((isMatch _).mp isIn).1, ?_, ?_, ?_, ?_⟩
      · intro begins
        have isThere := (isMatch "see https://b/".toList).mpr ⟨begins, by simp⟩
        rw [isOut] at isThere
        cases isThere
      · refine (isRemoved "https://b/?x=1&xy=1".toList "x=1".toList ?_).mp ?_
        · rw [isPair]
          decide +kernel
        · rw [kept]
          decide +kernel
      · intro covers
        refine (isRemoved "https://b/?x=1&xy=1".toList "xy=1".toList ?_).mpr covers ?_
        · rw [isPair]
          decide +kernel
        · rw [kept]
          decide +kernel
      · obtain ⟨text, member, target, captures, -⟩ :=
          isCaptured "https://a/?to=c".toList (by rw [isElsewhere]; decide +kernel)
        exact ⟨text, member, target, captures⟩

/-- A text that closes the group around it and opens another one. -/
def unbalanced : String :=
  "a)|(?:b"

/--
A text that is no pattern by itself is accepted as a rule, and matches where it
should not: in the middle of a link, and in the middle of a name.
-/
theorem unbalanced_compiles :
    ∃ provider,
      compile "unbalanced" unbalanced [unbalanced] [] [] = .ok provider ∧
        ¬Pattern.IsPattern unbalanced ∧
        provider.isMatch "xb".toList = true ∧
        provider.strip "x?xb=1".toList = "x".toList := by
  have facts :
      (compile "unbalanced" unbalanced [unbalanced] [] []).toOption.map
        (fun provider =>
          (provider.isMatch "xb".toList, provider.strip "x?xb=1".toList)) =
        some (true, "x".toList) := by
    decide +kernel
  generalize compile "unbalanced" _ _ _ _ = made at facts ⊢
  cases made with
  | error refusal =>
      cases facts
  | ok provider =>
      obtain ⟨isIn, isStripped⟩ := Prod.mk.inj (Option.some.inj facts)
      exact ⟨provider, rfl, by decide +kernel, isIn, isStripped⟩

end Provider

end Untrack
