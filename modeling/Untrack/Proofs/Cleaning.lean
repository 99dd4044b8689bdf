import Untrack.Cleaner
import Untrack.Proofs.Link.Strip

namespace Untrack

/-!
# What cleaning a link comes to

Each provider that a link belongs to strips it and may then redirect it. As long
as no redirection leads anywhere else, all this stripping is one pass with the
rules of all of them. A redirection that does lead elsewhere gives a new link,
of which only the providers after it take anything out. So cleaning is one pass
over what the last such redirection gave.
-/

namespace Provider

/-- Some parameter rule matches a name. -/
def marks (provider : Provider) (name : List Char) : Bool :=
  provider.parameters.any (·.isMatch name)

/-- A provider with the parameter rules of some providers and nothing else. -/
def pooled (providers : List Provider) : Provider where
  name := ""
  address := Pattern.ofExpr .empty
  parameters := providers.flatMap (·.parameters)
  redirections := []
  exceptions := []

/-- The pooled rules match what the rules of any of the providers match. -/
theorem marks_pooled (providers : List Provider) (name : List Char) :
    (pooled providers).marks name = providers.any (·.marks name) :=
  List.any_flatMap

/-- White space around a link does not matter for whose it is. -/
theorem isMatch_trimmed (provider : Provider) (link : List Char) :
    provider.isMatch (Text.trimmed link) = provider.isMatch link := by
  rw [isMatch, isMatch, Text.trimmed_trimmed]

/-- No provider tracks anything in a link stripped with its rules among others. -/
theorem isTracking_of_mem_pairs_pooled
    {providers : List Provider}
    {provider : Provider}
    {link pair : List Char}
    (pooledIn : provider ∈ providers)
    (member : pair ∈ Link.pairs ((pooled providers).strip link)) :
    provider.isTracking pair = false := by
  rw [strip, Link.pairs_strip] at member
  have untracked : (pooled providers).isTracking pair = false := by
    simpa using (List.mem_filter.mp member).2
  have noneMarks :
      providers.any (·.marks (Text.Form.readField pair).1) = false := by
    rw [← marks_pooled]
    exact untracked
  have notMarked := List.any_eq_false.mp noneMarks provider pooledIn
  exact Bool.eq_false_iff.mpr notMarked

/-- Neither order nor repetition of the providers matters to their pooled rules. -/
theorem strip_pooled_congr
    {first second : List Provider}
    (sameMembers : ∀ provider, provider ∈ first ↔ provider ∈ second)
    (link : List Char) :
    (pooled first).strip link = (pooled second).strip link := by
  refine Link.strip_congr fun segment _ => ?_
  change (pooled first).marks _ = (pooled second).marks _
  rw [marks_pooled, marks_pooled, Bool.eq_iff_iff, List.any_eq_true,
    List.any_eq_true]
  exact exists_congr fun provider => and_congr_left' (sameMembers provider)

end Provider

namespace Cleaner

/-! ## Where redirections lead elsewhere -/

/-- The link as the providers before a place leave it. -/
def reaching
    (providers : List Provider)
    (link : List Char)
    (place : Nat) :
    List Char :=
  apply (providers.take place) link

/-- The provider at a place redirects its link to another one. -/
def movesAt
    (providers : List Provider)
    (link : List Char)
    (place : Nat) :
    Bool :=
  match providers[place]? with
  | none => false
  | some provider =>
      let stripped := provider.strip (reaching providers link place)
      provider.redirect stripped != stripped

/-- The last place before another at which the link is redirected elsewhere. -/
def lastMoveBefore?
    (providers : List Provider)
    (link : List Char) :
    Nat → Option Nat
  | 0 => none
  | place + 1 =>
      if movesAt providers link place then
        some place
      else
        lastMoveBefore? providers link place

/-- The last place at which the link is redirected elsewhere. -/
def lastMove? (providers : List Provider) (link : List Char) : Option Nat :=
  lastMoveBefore? providers link providers.length

/-- The link that the last redirection elsewhere gave, or else the link itself. -/
def landing (providers : List Provider) (link : List Char) : List Char :=
  match lastMove? providers link with
  | none => link
  | some place => reaching providers link (place + 1)

/-- The providers after the last redirection elsewhere, or else all of them. -/
def remaining (providers : List Provider) (link : List Char) : List Provider :=
  match lastMove? providers link with
  | none => providers
  | some place => providers.drop (place + 1)

/-- Past the last provider nothing is redirected. -/
theorem movesAt_of_length_le
    {providers : List Provider}
    {place : Nat}
    (past : providers.length ≤ place)
    (link : List Char) :
    movesAt providers link place = false := by
  simp [movesAt, List.getElem?_eq_none past]

/-- The place that is found is the last one there is. -/
theorem lastMoveBefore?_eq_some_iff
    {providers : List Provider}
    {link : List Char}
    {count last : Nat} :
    lastMoveBefore? providers link count = some last ↔
      last < count ∧ movesAt providers link last = true ∧
        ∀ place, last < place → place < count →
          movesAt providers link place = false := by
  induction count with
  | zero =>
      simp [lastMoveBefore?]
  | succ count inductionHypothesis =>
      rw [lastMoveBefore?]
      cases moved : movesAt providers link count with
      | true =>
          constructor
          · rintro ⟨⟩
            exact ⟨by omega, moved, fun place _ _ => by omega⟩
          · rintro ⟨before, -, noneLater⟩
            by_cases isLast : last = count
            · rw [isLast]
              rfl
            · have stays := noneLater count (by omega) (by omega)
              rw [moved] at stays
              cases stays
      | false =>
          rw [if_neg Bool.false_ne_true, inductionHypothesis]
          constructor
          · rintro ⟨before, moves, noneLater⟩
            refine ⟨by omega, moves, fun place afterLast within => ?_⟩
            by_cases isEnd : place = count
            · rw [isEnd, moved]
            · exact noneLater place afterLast (by omega)
          · rintro ⟨before, moves, noneLater⟩
            have notEnd : last ≠ count := by
              rintro rfl
              rw [moved] at moves
              cases moves
            exact
              ⟨by omega, moves, fun place afterLast within =>
                noneLater place afterLast (by omega)⟩

/-- No place is found just if there is none. -/
theorem lastMoveBefore?_eq_none_iff
    {providers : List Provider}
    {link : List Char}
    {count : Nat} :
    lastMoveBefore? providers link count = none ↔
      ∀ place < count, movesAt providers link place = false := by
  induction count with
  | zero =>
      simp [lastMoveBefore?]
  | succ count inductionHypothesis =>
      rw [lastMoveBefore?, Nat.forall_lt_succ_right]
      cases moved : movesAt providers link count with
      | true =>
          simp
      | false =>
          simpa using inductionHypothesis

/-- The last redirection elsewhere is one, and there is none at any later place. -/
theorem lastMove?_eq_some_iff
    {providers : List Provider}
    {link : List Char}
    {last : Nat} :
    lastMove? providers link = some last ↔
      movesAt providers link last = true ∧
        ∀ place, last < place → movesAt providers link place = false := by
  rw [lastMove?, lastMoveBefore?_eq_some_iff]
  constructor
  · rintro ⟨-, moves, noneLater⟩
    refine ⟨moves, fun place afterLast => ?_⟩
    by_cases within : place < providers.length
    · exact noneLater place afterLast within
    · exact movesAt_of_length_le (by omega) link
  · rintro ⟨moves, noneLater⟩
    refine ⟨?_, moves, fun place afterLast _ => noneLater place afterLast⟩
    by_contra past
    rw [movesAt_of_length_le (by omega) link] at moves
    cases moves

/-- Without a last redirection elsewhere there is none at all. -/
theorem lastMove?_eq_none_iff
    {providers : List Provider}
    {link : List Char} :
    lastMove? providers link = none ↔
      ∀ place, movesAt providers link place = false := by
  rw [lastMove?, lastMoveBefore?_eq_none_iff]
  constructor
  · intro noMove place
    by_cases within : place < providers.length
    · exact noMove place within
    · exact movesAt_of_length_le (by omega) link
  · intro noMove place _
    exact noMove place

/-- Places after some providers are places of the providers that are left. -/
theorem movesAt_drop
    (providers : List Provider)
    (link : List Char)
    (count place : Nat) :
    movesAt (providers.drop count) (reaching providers link count) place =
      movesAt providers link (count + place) := by
  have sameLink :
      reaching (providers.drop count) (reaching providers link count) place =
        reaching providers link (count + place) := by
    simp only [reaching, apply, List.take_add, List.foldl_append]
  simp only [movesAt, sameLink, List.getElem?_drop]

/-! ## One pass -/

/-- Where nothing is redirected elsewhere all stripping is one pass. -/
theorem apply_of_no_moves
    {providers : List Provider}
    {link : List Char}
    (noMoves : ∀ place, movesAt providers link place = false) :
    apply providers link = (Provider.pooled providers).strip link := by
  induction providers generalizing link with
  | nil =>
      exact (Link.strip_of_untracked fun _ _ => rfl).symm
  | cons provider rest inductionHypothesis =>
      -- What the first provider hands on is only stripped, so two passes meet.
      have stays : provider.clean link = provider.strip link := by
        rw [Provider.clean]
        simpa [movesAt, reaching, apply] using noMoves 0
      have laterStay (place : Nat) :
          movesAt rest (provider.clean link) place = false := by
        have moved := movesAt_drop (provider :: rest) link 1 place
        rw [noMoves] at moved
        exact moved
      have later := inductionHypothesis laterStay
      calc
        apply (provider :: rest) link = apply rest (provider.clean link) := rfl
        _ = (Provider.pooled rest).strip (provider.strip link) := by
          rw [later, stays]
        _ = Link.strip
              (fun segment =>
                provider.isTracking segment ||
                  (Provider.pooled rest).isTracking segment) link :=
          Link.strip_strip _ _ _
        _ = (Provider.pooled (provider :: rest)).strip link := by
          refine Link.strip_congr fun segment _ => ?_
          simp [Provider.isTracking, Provider.pooled]

/-- Applying providers is one pass over the link of the last redirection. -/
theorem apply_eq_strip (providers : List Provider) (link : List Char) :
    apply providers link =
      (Provider.pooled (remaining providers link)).strip
        (landing providers link) := by
  unfold remaining landing
  cases lastMove : lastMove? providers link with
  | none =>
      exact apply_of_no_moves (lastMove?_eq_none_iff.mp lastMove)
  | some last =>
      have noneLater := (lastMove?_eq_some_iff.mp lastMove).2
      have whole :
          apply providers link =
            apply (providers.drop (last + 1))
              (reaching providers link (last + 1)) := by
        simp only [reaching, apply, ← List.foldl_append,
          List.take_append_drop]
      rw [whole]
      refine apply_of_no_moves fun place => ?_
      rw [movesAt_drop]
      exact noneLater _ (by omega)

/-- White space around a link does not matter for the providers it belongs to. -/
theorem matching_trimmed (providers : List Provider) (link : List Char) :
    matching providers (Text.trimmed link) = matching providers link := by
  simp only [matching, Provider.isMatch_trimmed]

/--
Cleaning a link is one pass over what the last redirection elsewhere gave, with
the rules of the providers after it. None of these tracks anything that is left,
and without such a redirection only the set of the providers matters.
-/
theorem strip_one_pass
    {σ : Type}
    (fetcher : Rules.Fetcher σ)
    (registry : Rules.Registry)
    (now : Nat)
    (link : String)
    (state : σ)
    {providers : List Provider}
    (inForce : (registry.ensureFresh fetcher now state).result = .ok providers)
    (hasProviders : providers ≠ []) :
    let given := Text.trimmed link.toList
    let matched := matching providers link.toList
    let cleaned := clean providers given
    (strip fetcher registry now link state).result =
        .ok (String.ofList cleaned) ∧
      (∃ pass : Provider,
        (∀ name,
          pass.marks name = true ↔
            ∃ provider ∈ remaining matched given, provider.marks name = true) ∧
          cleaned = pass.strip (landing matched given)) ∧
      (∀ pair ∈ Link.pairs cleaned,
        ∀ provider ∈ remaining matched given,
          provider.isTracking pair = false) ∧
      ∀ others,
        (∀ provider,
          provider ∈ matching others link.toList ↔ provider ∈ matched) →
        lastMove? (matching others link.toList) given = none →
        lastMove? matched given = none →
        clean others given = cleaned := by
  intro given matched cleaned
  have asApplied : cleaned = apply matched given := by
    simp only [cleaned, clean, matched, given, matching_trimmed]
  have onePass :
      cleaned =
        (Provider.pooled (remaining matched given)).strip
          (landing matched given) := by
    rw [asApplied]
    exact apply_eq_strip matched given
  refine ⟨?_, ⟨_, ?_, onePass⟩, ?_, ?_⟩
  · rcases providers with _ | ⟨first, rest⟩
    · exact (hasProviders rfl).elim
    · simp only [strip, inForce, Text.toList_trim, cleaned, given]
  · intro name
    rw [Provider.marks_pooled, List.any_eq_true]
  · intro pair member provider remains
    rw [onePass] at member
    exact Provider.isTracking_of_mem_pairs_pooled remains member
  · intro others sameMembers othersStay stays
    rw [asApplied, clean, matching_trimmed,
      apply_of_no_moves (lastMove?_eq_none_iff.mp othersStay),
      apply_of_no_moves (lastMove?_eq_none_iff.mp stays)]
    exact Provider.strip_pooled_congr sameMembers given

/-- Only the provider after a redirection takes anything out of where it leads. -/
theorem strip_one_pass_after_redirection :
    let providers :=
      (Provider.compile "leading" "https://a" ["x"]
          ["https://a.test/\\?to=(.*)"] []).toOption.toList ++
        (Provider.compile "any" "" ["y"] [] []).toOption.toList
    let registry : Rules.Registry :=
      { source := Rules.Source.ofConfig Config.standard
        providers
        refreshedAt := some 0
        interval := 10 }
    let fetcher : Rules.Fetcher Unit :=
      fun _ state => (.error (.network .noAddress), state)
    let link := " https://a.test/?to=b.test/?x=1%26y=2&x=3 "
    lastMove? providers (Text.trimmed link.toList) = some 0 ∧
      (strip fetcher registry 5 link ()).result = .ok "https://b.test/?x=1" := by
  intro providers registry fetcher link
  have hasProviders : providers ≠ [] := by
    have isTwo : providers.length = 2 := by
      decide +kernel
    intro nothing
    rw [nothing] at isTwo
    cases isTwo
  have inForce : (registry.ensureFresh fetcher 5 ()).result = .ok providers :=
    rfl
  have onePass := strip_one_pass fetcher registry 5 link () inForce hasProviders
  have comesTo :
      String.ofList (clean providers (Text.trimmed link.toList)) =
        "https://b.test/?x=1" := by
    decide +kernel
  refine ⟨by decide +kernel, ?_⟩
  rw [onePass.1, comesTo]

end Cleaner

end Untrack
