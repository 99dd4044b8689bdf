import Untrack.Proofs.Link.Query
import Untrack.Proofs.Registry.Callers
import Mathlib.Data.List.Basic

namespace Untrack

/-!
# Cleaning a clean link

Away from redirections cleaning takes characters out of a link and adds none. What
it leaves has nothing in it that the same providers would take out, but it can end
with white space: white space is removed around the link that is given, not around
what is left when parameters at its end are gone. So cleaning again changes nothing
unless the clean link ends with white space, and then it always does.
-/

namespace Link

/-! ## What stripping leaves in place -/

/-- Fewer segments are joined to what is left of all of them joined. -/
theorem intercalate_sublist
    {kept pieces : List (List Char)}
    (fewer : kept.Sublist pieces) :
    (['&'].intercalate kept).Sublist (['&'].intercalate pieces) := by
  induction fewer with
  | slnil =>
      exact List.Sublist.refl _
  | @cons kept pieces piece fewer inductionHypothesis =>
      by_cases isLast : pieces = []
      · rw [isLast] at fewer
        rw [List.eq_nil_of_sublist_nil fewer]
        exact List.nil_sublist _
      · rw [List.intercalate_cons_of_ne_nil isLast]
        exact inductionHypothesis.trans (List.sublist_append_right _ _)
  | @cons_cons kept pieces piece fewer inductionHypothesis =>
      by_cases isLast : kept = []
      · rw [isLast, List.intercalate_singleton]
        by_cases isAlone : pieces = []
        · rw [isAlone, List.intercalate_singleton]
        · rw [List.intercalate_cons_of_ne_nil isAlone, List.append_assoc]
          exact List.sublist_append_left _ _
      · have isMore : pieces ≠ [] := by
          rintro rfl
          exact isLast (List.eq_nil_of_sublist_nil fewer)
        rw [List.intercalate_cons_of_ne_nil isLast, List.intercalate_cons_of_ne_nil isMore]
        exact inductionHypothesis.append_left _

/-- Stripping a link takes characters out of it and adds none. -/
theorem strip_sublist (isTracking : List Char → Bool) (link : List Char) :
    (strip isTracking link).Sublist link := by
  rw [strip_eq]
  split
  · rename_i tracks
    have whole := Parts.join_split link
    conv => rhs; rw [← whole]
    unfold keeping Parts.join
    refine List.Sublist.append_right (List.Sublist.append_left ?_ _) _
    cases query : (Parts.split link).query with
    | none =>
        simp [pairs, query] at tracks
    | some text =>
        have fewer :
            ((pairs link).filter fun segment => !isTracking segment).Sublist
              (text.splitOn '&') := by
          rw [pairs, query]
          exact List.filter_sublist.trans List.filter_sublist
        have shorter := intercalate_sublist fewer
        rw [List.intercalate_splitOn] at shorter
        unfold rejoined
        split
        · exact List.nil_sublist _
        · exact shorter.cons_cons _
  · exact List.Sublist.refl _

/-- A stripped link begins as the link did, or with a sign of its parts. -/
theorem beginsBlank_strip
    {link : List Char}
    (beginsPlain : Text.beginsBlank link = false)
    (isTracking : List Char → Bool) :
    Text.beginsBlank (strip isTracking link) = false := by
  rw [strip_eq_join]
  have whole := Parts.join_split link
  obtain ⟨-, -, -, opened⟩ := Parts.isCut_split link
  generalize (Parts.split (strip isTracking link)).query = query
  unfold Parts.join at whole ⊢
  cases base : (Parts.split link).base with
  | nil =>
      cases query with
      | some text =>
          exact show Text.isBlank '?' = false by decide
      | none =>
          rcases opened with isEmpty | ⟨rest, isFragment⟩
          · rw [isEmpty]
            rfl
          · rw [isFragment]
            exact show Text.isBlank '#' = false by decide
  | cons first rest =>
      rw [← whole, base] at beginsPlain
      exact beginsPlain

/-- A link with a fragment ends with it, stripped or not. -/
theorem endsBlank_strip
    {link : List Char}
    (hasFragment : (Parts.split link).fragment ≠ [])
    (isTracking : List Char → Bool) :
    Text.endsBlank (strip isTracking link) = Text.endsBlank link := by
  have whole := Parts.join_split link
  obtain ⟨last, isLast⟩ :=
    Option.ne_none_iff_exists'.mp (mt List.getLast?_eq_none_iff.mp hasFragment)
  rw [strip_eq_join]
  conv => rhs; rw [← whole]
  simp only [Text.endsBlank, Parts.join, List.getLast?_append, isLast, Option.some_or]

end Link

namespace Provider

/-- A provider without redirections leaves a link where it is. -/
theorem redirect_of_nil
    {provider : Provider}
    (noRedirections : provider.redirections = [])
    (link : List Char) :
    provider.redirect link = link := by
  rw [redirect, target?, noRedirections]
  rfl

/-- The pooled rules track what the rules of any of the providers track. -/
theorem isTracking_pooled_iff {providers : List Provider} {pair : List Char} :
    (pooled providers).isTracking pair = true ↔
      ∃ provider ∈ providers, provider.isTracking pair = true := by
  rw [← List.any_eq_true]
  exact Bool.eq_iff_iff.mp (marks_pooled providers (Text.Form.readField pair).1)

end Provider

namespace Cleaner

/-- Without redirections all that providers do is one pass with the rules of all. -/
theorem apply_of_noRedirections
    {providers : List Provider}
    (noRedirections : ∀ provider ∈ providers, provider.redirections = [])
    (link : List Char) :
    apply providers link = (Provider.pooled providers).strip link := by
  refine apply_of_no_moves fun place => ?_
  unfold movesAt
  cases isThere : providers[place]? with
  | none =>
      rfl
  | some provider =>
      have member := List.mem_of_getElem? isThere
      simp [Provider.redirect_of_nil (noRedirections provider member)]

/-- With providers in force a link is cleaned with them. -/
theorem result_strip
    {σ : Type}
    {fetcher : Rules.Fetcher σ}
    {registry : Rules.Registry}
    {now : Nat}
    {state : σ}
    {providers : List Provider}
    (inForce : (registry.ensureFresh fetcher now state).result = .ok providers)
    (hasProviders : providers ≠ [])
    (link : String) :
    (strip fetcher registry now link state).result =
      .ok (String.ofList (clean providers (Text.trimmed link.toList))) := by
  rw [strip_eq_cleanedWith, inForce, cleanedWith_of_ne_nil link hasProviders,
    Text.toList_trim]

/-- Without providers no link is cleaned. -/
theorem providers_ne_nil_of_result_strip
    {σ : Type}
    {fetcher : Rules.Fetcher σ}
    {registry : Rules.Registry}
    {now : Nat}
    {state : σ}
    {providers : List Provider}
    {link cleaned : String}
    (inForce : (registry.ensureFresh fetcher now state).result = .ok providers)
    (isCleaned : (strip fetcher registry now link state).result = .ok cleaned) :
    providers ≠ [] := by
  rintro rfl
  rw [strip_eq_cleanedWith, inForce] at isCleaned
  cases isCleaned

section Again

variable {providers : List Provider} {link : List Char}

/-- Away from redirections cleaning is one pass over the trimmed link. -/
theorem clean_of_noRedirections
    (noRedirections :
      ∀ provider ∈ matching providers link, provider.redirections = []) :
    clean providers (Text.trimmed link) =
      (Provider.pooled (matching providers link)).strip (Text.trimmed link) := by
  rw [clean, matching_trimmed, apply_of_noRedirections noRedirections]

/-- Away from redirections cleaning takes characters out and adds none. -/
theorem clean_sublist
    (noRedirections :
      ∀ provider ∈ matching providers link, provider.redirections = []) :
    (clean providers (Text.trimmed link)).Sublist (Text.trimmed link) := by
  rw [clean_of_noRedirections noRedirections]
  exact Link.strip_sublist _ _

/-- A clean link that is trimmed has nothing in it that is taken out again. -/
theorem clean_clean_of_endsPlain
    (noRedirections :
      ∀ provider ∈ matching providers link, provider.redirections = [])
    (noneNew :
      matching providers (clean providers (Text.trimmed link)) ⊆
        matching providers link)
    (endsPlain :
      Text.endsBlank (clean providers (Text.trimmed link)) = false) :
    clean providers (Text.trimmed (clean providers (Text.trimmed link))) =
      clean providers (Text.trimmed link) := by
  have isPass := clean_of_noRedirections noRedirections
  have beginsPlain :
      Text.beginsBlank (clean providers (Text.trimmed link)) = false := by
    rw [isPass]
    exact Link.beginsBlank_strip (Text.beginsBlank_trimmed link) _
  rw [clean_of_noRedirections fun provider member =>
      noRedirections provider (noneNew member),
    Text.trimmed_eq_self beginsPlain endsPlain]
  refine Link.strip_of_untracked fun pair member => ?_
  rw [isPass] at member
  refine Bool.eq_false_iff.mpr fun tracks => ?_
  -- The rules of the second pass are among those of the first.
  obtain ⟨provider, matchesAgain, tracksAgain⟩ :=
    Provider.isTracking_pooled_iff.mp tracks
  have untracked :=
    Provider.isTracking_of_mem_pairs_pooled (noneNew matchesAgain) member
  exact Bool.false_ne_true (untracked.symm.trans tracksAgain)

/-- Cleaning again changes nothing just if the clean link ends without blanks. -/
theorem clean_clean_eq_iff
    (noRedirections :
      ∀ provider ∈ matching providers link, provider.redirections = [])
    (noneNew :
      matching providers (clean providers (Text.trimmed link)) ⊆
        matching providers link) :
    clean providers (Text.trimmed (clean providers (Text.trimmed link))) =
        clean providers (Text.trimmed link) ↔
      Text.endsBlank (clean providers (Text.trimmed link)) = false := by
  constructor
  · intro same
    have shorter := clean_sublist fun provider member =>
      noRedirections provider (noneNew member)
    rw [same] at shorter
    -- Trimming took nothing, so it did not find anything to take.
    rw [shorter.antisymm (Text.trimmed_sublist _)]
    exact Text.endsBlank_trimmed _
  · exact clean_clean_of_endsPlain noRedirections noneNew

/-- A clean link ends with white space only where something was taken from its end. -/
theorem tracked_of_endsBlank
    (noRedirections :
      ∀ provider ∈ matching providers link, provider.redirections = [])
    (endsBlank :
      Text.endsBlank (clean providers (Text.trimmed link)) = true) :
    (Link.Parts.split (Text.trimmed link)).fragment = [] ∧
      ∃ pair ∈ Link.pairs (Text.trimmed link),
        ∃ provider ∈ matching providers link,
          provider.isTracking pair = true := by
  have endsPlain := Text.endsBlank_trimmed link
  rw [clean_of_noRedirections noRedirections] at endsBlank
  constructor
  · by_contra hasFragment
    rw [Provider.strip, Link.endsBlank_strip hasFragment, endsPlain] at endsBlank
    cases endsBlank
  · by_contra noneTracks
    have untracked :
        ∀ pair ∈ Link.pairs (Text.trimmed link),
          (Provider.pooled (matching providers link)).isTracking pair = false := by
      intro pair member
      refine Bool.eq_false_iff.mpr fun tracks => noneTracks ⟨pair, member, ?_⟩
      exact Provider.isTracking_pooled_iff.mp tracks
    rw [Provider.strip, Link.strip_of_untracked untracked, endsPlain] at endsBlank
    cases endsBlank

end Again

/--
A link is cleaned and what comes of it is cleaned again, with the same providers.
If none of those that the link belongs to redirects, and what comes of it belongs
to no others, then the second time nothing is added, and nothing is taken out
just if the clean link does not end with white space. It can only end so if it
has no fragment and some parameter was taken out of it. White space inside the
link is needed for that.
-/
theorem strip_twice
    {σ : Type}
    (fetcher : Rules.Fetcher σ)
    (registry registryAgain : Rules.Registry)
    (now later : Nat)
    (link : String)
    (state stateAgain : σ)
    {providers : List Provider}
    {cleaned : String}
    (inForce : (registry.ensureFresh fetcher now state).result = .ok providers)
    (inForceAgain :
      (registryAgain.ensureFresh fetcher later stateAgain).result = .ok providers)
    (isCleaned : (strip fetcher registry now link state).result = .ok cleaned)
    (noRedirections :
      ∀ provider ∈ providers,
        provider.isMatch link.toList = true → provider.redirections = [])
    (noneNew :
      ∀ provider ∈ providers,
        provider.isMatch cleaned.toList = true →
          provider.isMatch link.toList = true) :
    let given := Text.trimmed link.toList
    ∃ twice,
      (strip fetcher registryAgain later cleaned stateAgain).result = .ok twice ∧
        twice.toList.Sublist cleaned.toList ∧
        (twice = cleaned ↔ Text.endsBlank cleaned.toList = false) ∧
        (Text.endsBlank cleaned.toList = true →
          (Link.Parts.split given).fragment = [] ∧
            ∃ pair ∈ Link.pairs given,
              ∃ provider ∈ matching providers link.toList,
                provider.isTracking pair = true) ∧
        ((∀ character ∈ given, Text.isBlank character = false) →
          twice = cleaned) := by
  intro given
  have hasProviders := providers_ne_nil_of_result_strip inForce isCleaned
  have comesTo :
      cleaned = String.ofList (clean providers (Text.trimmed link.toList)) := by
    rw [result_strip inForce hasProviders] at isCleaned
    exact (Except.ok.inj isCleaned).symm
  subst comesTo
  simp only [String.toList_ofList] at noneNew ⊢
  have matchedPlain :
      ∀ provider ∈ matching providers link.toList, provider.redirections = [] := by
    intro provider member
    obtain ⟨known, isMatch⟩ := List.mem_filter.mp member
    exact noRedirections provider known isMatch
  have matchedBefore :
      matching providers (clean providers (Text.trimmed link.toList)) ⊆
        matching providers link.toList := by
    intro provider member
    obtain ⟨known, isMatch⟩ := List.mem_filter.mp member
    exact List.mem_filter.mpr ⟨known, noneNew provider known isMatch⟩
  have sameIff := clean_clean_eq_iff matchedPlain matchedBefore
  refine
    ⟨_, result_strip inForceAgain hasProviders _, ?_, ?_,
      tracked_of_endsBlank matchedPlain, ?_⟩
  · rw [String.toList_ofList, String.toList_ofList]
    exact
      (clean_sublist fun provider member =>
        matchedPlain provider (matchedBefore member)).trans
        (Text.trimmed_sublist _)
  · rw [String.ofList_inj, String.toList_ofList]
    exact sameIff
  · intro noBlank
    rw [String.ofList_inj, String.toList_ofList]
    refine sameIff.mpr ?_
    rw [Text.endsBlank]
    cases last : (clean providers (Text.trimmed link.toList)).getLast? with
    | none =>
        rfl
    | some character =>
        have inGiven :=
          (clean_sublist matchedPlain).subset (List.mem_of_getLast? last)
        exact noBlank character inGiven

/-- A link with a fragment is clean once it has been cleaned. -/
theorem strip_twice_of_fragment :
    let providers :=
      (Provider.compile "a" "https?://a\\.test" ["x"] [] []).toOption.toList ++
        (Provider.compile "b" "https?://b\\.test" [] ["(.*)"] []).toOption.toList
    let registry : Rules.Registry :=
      { source := Rules.Source.ofConfig Config.standard
        providers
        refreshedAt := some 0
        interval := 10 }
    let fetcher : Rules.Fetcher Unit :=
      fun _ state => (.error (.network .noAddress), state)
    let link := " https://a.test/ ?y=2&x=1#part "
    let cleaned := "https://a.test/ ?y=2#part"
    (strip fetcher registry 5 link ()).result = .ok cleaned ∧
      (strip fetcher registry 6 cleaned ()).result = .ok cleaned := by
  intro providers registry fetcher link cleaned
  have inForce : (registry.ensureFresh fetcher 5 ()).result = .ok providers :=
    rfl
  have inForceAgain : (registry.ensureFresh fetcher 6 ()).result = .ok providers :=
    rfl
  have isCleaned : (strip fetcher registry 5 link ()).result = .ok cleaned := by
    decide +kernel
  have noRedirections :
      ∀ provider ∈ providers,
        provider.isMatch link.toList = true → provider.redirections = [] := by
    decide +kernel
  have noneNew :
      ∀ provider ∈ providers,
        provider.isMatch cleaned.toList = true →
          provider.isMatch link.toList = true := by
    decide +kernel
  obtain ⟨twice, isTwice, -, sameIff, -⟩ :=
    strip_twice fetcher registry registry 5 6 link () () inForce inForceAgain
      isCleaned noRedirections noneNew
  have same : twice = cleaned := sameIff.mpr (by decide +kernel)
  rw [same] at isTwice
  exact ⟨isCleaned, isTwice⟩

/-- A blank before the query is at the end once the query is gone, and is lost then. -/
theorem strip_twice_loses_blank :
    let providers :=
      (Provider.compile "a" "https?://a\\.test" ["x"] [] []).toOption.toList
    let registry : Rules.Registry :=
      { source := Rules.Source.ofConfig Config.standard
        providers
        refreshedAt := some 0
        interval := 10 }
    let fetcher : Rules.Fetcher Unit :=
      fun _ state => (.error (.network .noAddress), state)
    let link := "https://a.test/ ?x=1"
    let cleaned := "https://a.test/ "
    (∀ provider ∈ providers,
        provider.isMatch link.toList = true ∧ provider.redirections = []) ∧
      (strip fetcher registry 5 link ()).result = .ok cleaned ∧
      (strip fetcher registry 5 cleaned ()).result = .ok "https://a.test/" := by
  decide +kernel

end Cleaner

end Untrack
