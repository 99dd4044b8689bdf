import Untrack.Proofs.Builtin
import Untrack.Rules.Registry

namespace Untrack.Rules

/-!
# What one refresh can do

A refresh downloads a text, compares its checksum with the recorded one,
compiles it if it is new, and puts its providers in force. `Outcome` lists
everything that can come of this; each later fact about a refresh is a case
split on it.

The checksum is recorded before the text is known to compile. `Sound` says what
it means between two refreshes: it names a text that was downloaded and whose
providers are the ones in force.
-/

/-! ## Counting fetches -/

/-- How many times rules were fetched in the course of some events. -/
def fetchesIn (events : List Event) : Nat :=
  events.count (.notice .downloadStarted)

/-- Fetches are counted event by event. -/
theorem fetchesIn_append (first second : List Event) :
    fetchesIn (first ++ second) = fetchesIn first + fetchesIn second :=
  List.count_append

/-- Notices of anything else tell of no fetch. -/
theorem fetchesIn_notices
    {notices : List Notice}
    (absent : Notice.downloadStarted ∉ notices) :
    fetchesIn (notices.map .notice) = 0 := by
  refine List.count_eq_zero.mpr fun member => ?_
  obtain ⟨notice, inNotices, same⟩ := List.mem_map.mp member
  cases same
  exact absent inNotices

/-! ## What is told on the way -/

/-- The notices that asking addresses makes. -/
def isOfRequest : Notice → Bool
  | .tryingAddress _ => true
  | .retrying _ _ => true
  | .addressFailed _ _ => true
  | _ => false

/-- The notices that compiling a manifest makes. -/
def isOfCompilation : Notice → Bool
  | .compilationStarted => true
  | .builtinOverrides _ => true
  | .entrySkipped _ _ => true
  | .compiled _ => true
  | _ => false

/--
The notices that a refresh makes of what was found. A list without providers is
not among them, for there is always a built-in provider.
-/
def isOfSettling : Notice → Bool
  | .loaded _ => true
  | .keepingOld _ _ => true
  | entry => isOfCompilation entry

/-- Asking one address makes no notices of another kind. -/
theorem notice_not_mem_askAgain
    {σ : Type}
    {entry : Notice}
    (isOther : isOfRequest entry = false)
    (fetcher : Fetcher σ)
    (patience : Patience)
    (address : String)
    (left : Nat)
    (state : σ) :
    .notice entry ∉ (askAgain fetcher patience address left state).events := by
  induction left generalizing state with
  | zero =>
      simp [askAgain]
  | succ left inductionHypothesis =>
      rw [askAgain]
      split
      · simp
      · simp only [List.mem_cons, reduceCtorEq, false_or, Event.notice.injEq]
        rintro (rfl | later)
        · cases isOther
        · exact inductionHypothesis _ later

/-- Asking addresses makes no notices of another kind. -/
theorem notice_not_mem_askEach
    {σ : Type}
    {entry : Notice}
    (isOther : isOfRequest entry = false)
    (fetcher : Fetcher σ)
    (patience : Patience)
    (failure : Failure)
    (addresses : List String)
    (state : σ) :
    .notice entry ∉
      (askEach fetcher patience failure addresses state).events := by
  induction addresses generalizing failure state with
  | nil =>
      simp [askEach]
  | cons address rest inductionHypothesis =>
      have notAsked :=
        notice_not_mem_askAgain isOther fetcher patience address
          patience.retries state
      have notTrying : entry ≠ .tryingAddress address := by
        rintro rfl
        cases isOther
      simp only [askEach, ask]
      split
      · simp [notAsked, notTrying]
      · rename_i failed _
        have notFailed : entry ≠ .addressFailed address failed := by
          rintro rfl
          cases isOther
        simp [notAsked, notTrying, notFailed, inductionHypothesis]

/-- Compiling a manifest makes no notices of another kind. -/
theorem notice_not_mem_compile
    {entry : Notice}
    (isOther : isOfCompilation entry = false)
    (text : String) :
    entry ∉ (Manifest.compile text).notices := by
  have notStarted : entry ≠ .compilationStarted := by
    rintro rfl
    cases isOther
  unfold Manifest.compile
  split
  · simpa using notStarted
  · have notOverridden (entries : Entries Json.Value) :
        entry ∉ Manifest.overrides entries := by
      intro member
      obtain ⟨name, -, rfl⟩ := List.mem_map.mp member
      cases isOther
    have notSkipped (compiled : List (String × Except Failure Provider)) :
        entry ∉ Manifest.skippedIn compiled := by
      intro member
      obtain ⟨⟨name, result⟩, -, told⟩ := List.mem_filterMap.mp member
      cases result <;> cases told
      cases isOther
    have notCompiled (tally : Tally) : entry ≠ .compiled tally := by
      rintro rfl
      cases isOther
    simp [notStarted, notOverridden, notSkipped, notCompiled]

/-- What a source has to say of a text tells of no fetch. -/
private theorem noticeOf_ne (body : String) (found : Found) :
    Source.noticeOf body found ≠ .downloadStarted := by
  cases found <;> nofun

namespace Registry

/-- Settling what was found makes no notices of another kind. -/
theorem notice_not_mem_settle
    {entry : Notice}
    (isOther : isOfSettling entry = false)
    (registry : Registry)
    (now : Nat)
    (found : Except Failure Found) :
    entry ∉ (registry.settle now found).2.2 := by
  have notKept (registry : Registry) (failure : Failure) :
      entry ∉ (registry.keep now failure).2.2 := by
    unfold keep
    split
    · simp
    · rw [List.mem_singleton]
      rintro rfl
      cases isOther
  cases found with
  | error failure =>
      exact notKept registry failure
  | ok found =>
      cases found with
      | empty =>
          simp [settle]
      | unchanged =>
          simp [settle]
      | updated text =>
          have isNoCompilation : isOfCompilation entry = false := by
            revert isOther
            cases entry <;> simp [isOfSettling, isOfCompilation]
          have notCompiled := notice_not_mem_compile isNoCompilation text
          simp only [settle]
          split
          · rename_i providers compiled
            have someProvider := Manifest.providers_ne_nil_of_compile compiled
            have notLoaded : entry ≠ .loaded providers.length := by
              rintro rfl
              cases isOther
            simp [install, notCompiled, someProvider, notLoaded]
          · simp [notCompiled, notKept]

/-- A refresh fetches once. -/
theorem fetchesIn_refresh
    {σ : Type}
    (fetcher : Fetcher σ)
    (registry : Registry)
    (now : Nat)
    (state : σ) :
    fetchesIn (registry.refresh fetcher now state).events = 1 := by
  have fetched :
      fetchesIn (registry.source.fetch fetcher state).events = 1 := by
    have asked :=
      List.count_eq_zero.mpr
        (notice_not_mem_askEach
          (rfl : isOfRequest .downloadStarted = false) fetcher
          registry.source.patience (.network .noAddress)
          registry.source.addresses state)
    simp only [Source.fetch, download]
    split <;> simp [fetchesIn, asked, noticeOf_ne]
  have settled :=
    fetchesIn_notices
      (notice_not_mem_settle (rfl : isOfSettling .downloadStarted = false)
        { registry with
          source := (registry.source.fetch fetcher state).source }
        now (registry.source.fetch fetcher state).result)
  simp only [fetchesIn] at fetched settled
  simp [refresh, fetchesIn, fetched, settled]

/-- A refresh never comes to a new list without providers. -/
theorem nothingLoaded_not_mem_refresh
    {σ : Type}
    (fetcher : Fetcher σ)
    (registry : Registry)
    (now : Nat)
    (state : σ) :
    .notice .nothingLoaded ∉ (registry.refresh fetcher now state).events := by
  have notFetched :
      .notice .nothingLoaded ∉ (registry.source.fetch fetcher state).events := by
    have notAsked :=
      notice_not_mem_askEach (rfl : isOfRequest .nothingLoaded = false) fetcher
        registry.source.patience (.network .noAddress)
        registry.source.addresses state
    have notNoted (body : String) (found : Found) :
        Notice.nothingLoaded ≠ Source.noticeOf body found := by
      cases found <;> nofun
    simp only [Source.fetch, download]
    split <;> simp [notAsked, notNoted]
  have notSettled (registry : Registry) (found : Except Failure Found) :
      .nothingLoaded ∉ (registry.settle now found).2.2 :=
    notice_not_mem_settle rfl registry now found
  simp [refresh, notFetched, notSettled]

/-! ## Outcomes -/

/-- The download that a refresh makes. -/
def fetched
    {σ : Type}
    (fetcher : Fetcher σ)
    (registry : Registry)
    (state : σ) :
    Download σ :=
  download fetcher registry.source.patience registry.source.addresses state

/-- The text of a download, without the white space around it, if there was one. -/
def textsOf : Except Failure String → List String
  | .ok body => [Text.trim body]
  | .error _ => []

/-- The registry with no checksum on record. -/
def forgetting (registry : Registry) : Registry :=
  { registry with source := registry.source.reset }

/-- The registry with the checksum of a text on record. -/
def noting (registry : Registry) (text : String) : Registry :=
  { registry with
    source :=
      { registry.source with checksum := some (Digest.Sha256.checksum text) } }

/-- The registry with the providers of a text in force and its checksum on record. -/
def loading
    (registry : Registry)
    (text : String)
    (providers : List Provider) :
    Registry :=
  { registry.noting text with providers }

/-- A failure is passed on only where there are no providers to go on with. -/
def verdict (registry : Registry) (failure : Failure) : Except Failure Unit :=
  if registry.providers = [] then .error failure else .ok ()

/--
What a refresh can give and leave behind, by what was downloaded. Whatever the
outcome, the time is recorded wherever providers are in force afterwards.
-/
inductive Outcome (registry : Registry) (now : Nat) :
    Except Failure String → Except Failure Unit → Registry → Prop where
  | failed
      (failure : Failure) :
      Outcome registry now (.error failure)
        (registry.verdict failure) (registry.refreshed now)
  | empty
      {body : String}
      (isEmpty : (Text.trim body).isEmpty = true) :
      Outcome registry now (.ok body) (.ok ()) (registry.refreshed now)
  | unchanged
      {body : String}
      (isText : (Text.trim body).isEmpty = false)
      (known :
        registry.source.checksum =
          some (Digest.Sha256.checksum (Text.trim body))) :
      Outcome registry now (.ok body) (.ok ()) (registry.refreshed now)
  | broken
      {body : String}
      {failure : Failure}
      (isText : (Text.trim body).isEmpty = false)
      (refused : (Manifest.compile (Text.trim body)).result = .error failure) :
      Outcome registry now (.ok body)
        (registry.verdict failure) (registry.forgetting.refreshed now)
  | loaded
      {body : String}
      {providers : List Provider}
      (isText : (Text.trim body).isEmpty = false)
      (compiled : (Manifest.compile (Text.trim body)).result = .ok providers) :
      Outcome registry now (.ok body) (.ok ())
        ((registry.loading (Text.trim body) providers).refreshed now)

@[simp] theorem providers_refreshed (registry : Registry) (now : Nat) :
    (registry.refreshed now).providers = registry.providers := by
  unfold refreshed
  split <;> rfl

@[simp] theorem source_refreshed (registry : Registry) (now : Nat) :
    (registry.refreshed now).source = registry.source := by
  unfold refreshed
  split <;> rfl

@[simp] theorem interval_refreshed (registry : Registry) (now : Nat) :
    (registry.refreshed now).interval = registry.interval := by
  unfold refreshed
  split <;> rfl

/-- Without providers no time is recorded. -/
theorem refreshed_of_nil
    {registry : Registry}
    (noProviders : registry.providers = [])
    (now : Nat) :
    registry.refreshed now = registry := by
  simp [refreshed, noProviders]

/-- Without a checksum on record there is nothing to forget. -/
theorem forgetting_of_none
    {registry : Registry}
    (noChecksum : registry.source.checksum = none) :
    registry.forgetting = registry := by
  rcases registry with ⟨⟨addresses, patience, checksum⟩, providers, at?, interval⟩
  cases noChecksum
  rfl

/-- With providers in force a refresh records its time. -/
theorem refreshedAt_refreshed
    {registry : Registry}
    (hasProviders : registry.providers ≠ [])
    (now : Nat) :
    (registry.refreshed now).refreshedAt = some now := by
  simp [refreshed, hasProviders]

/-- Keeping the old providers gives the verdict on the failure and notes the time. -/
private theorem keep_eq
    {registry after : Registry}
    {now : Nat}
    {failure : Failure}
    {result : Except Failure Unit}
    {told : List Notice}
    (kept : registry.keep now failure = (result, after, told)) :
    result = registry.verdict failure ∧ after = registry.refreshed now := by
  unfold keep at kept
  unfold verdict
  by_cases noProviders : registry.providers = []
  · simp only [noProviders, List.isEmpty_nil, ↓reduceIte, Prod.mk.injEq] at kept ⊢
    exact ⟨kept.1.symm, by rw [refreshed_of_nil noProviders, kept.2.1]⟩
  · simp only [noProviders, List.isEmpty_iff, ↓reduceIte, Prod.mk.injEq] at kept ⊢
    exact ⟨kept.1.symm, kept.2.1.symm⟩

/-- What is made of a text that is new, once its checksum is on record. -/
private theorem settle_updated_outcome
    {registry after : Registry}
    {now : Nat}
    {body : String}
    {result : Except Failure Unit}
    {told : List Notice}
    (isText : (Text.trim body).isEmpty = false)
    (settled :
      (registry.noting (Text.trim body)).settle now
        (.ok (.updated (Text.trim body))) = (result, after, told)) :
    Outcome registry now (.ok body) result after := by
  cases compilation : (Manifest.compile (Text.trim body)).result with
  | error failure =>
      rcases kept :
          (registry.noting (Text.trim body)).forgetting.keep now failure with
        ⟨keptResult, keptAfter, keptTold⟩
      obtain ⟨rfl, rfl⟩ := keep_eq kept
      rw [forgetting] at kept
      simp only [settle, compilation, kept, Prod.mk.injEq] at settled
      obtain ⟨rfl, rfl, -⟩ := settled
      exact .broken isText compilation
  | ok providers =>
      have hasProviders := Manifest.providers_ne_nil_of_compile compilation
      simp only [settle, compilation, install, List.isEmpty_iff, hasProviders,
        ↓reduceIte, Prod.mk.injEq] at settled
      obtain ⟨rfl, rfl, -⟩ := settled
      exact .loaded isText compilation

/-- A refresh has one of the listed outcomes. -/
theorem refresh_outcome
    {σ : Type}
    (fetcher : Fetcher σ)
    (registry : Registry)
    (now : Nat)
    (state : σ) :
    Outcome registry now (registry.fetched fetcher state).result
      (registry.refresh fetcher now state).result
      (registry.refresh fetcher now state).registry := by
  cases downloaded : (registry.fetched fetcher state).result with
  | error failure =>
      rw [fetched] at downloaded
      rcases kept : registry.keep now failure with ⟨result, after, told⟩
      obtain ⟨rfl, rfl⟩ := keep_eq kept
      simp only [refresh, Source.fetch, downloaded, settle, kept]
      exact .failed failure
  | ok body =>
      rw [fetched] at downloaded
      simp only [refresh, Source.fetch, downloaded, Source.receive]
      cases isText : (Text.trim body).isEmpty with
      | true =>
          simp only [settle, ↓reduceIte]
          exact .empty isText
      | false =>
          by_cases known :
              registry.source.checksum =
                some (Digest.Sha256.checksum (Text.trim body))
          · simp only [known, settle, Bool.false_eq_true, ↓reduceIte]
            exact .unchanged isText known
          · simp only [known, Bool.false_eq_true, ↓reduceIte]
            rcases settled :
                (registry.noting (Text.trim body)).settle now
                  (.ok (.updated (Text.trim body))) with
              ⟨result, after, told⟩
            have outcome := settle_updated_outcome isText settled
            simp only [noting] at settled
            rw [settled]
            exact outcome

/-- A refresh leaves the fetcher as its download does. -/
theorem state_refresh
    {σ : Type}
    (fetcher : Fetcher σ)
    (registry : Registry)
    (now : Nat)
    (state : σ) :
    (registry.refresh fetcher now state).state =
      (registry.fetched fetcher state).state := by
  simp only [refresh, Source.fetch, fetched]
  split <;> rfl

namespace Outcome

variable {registry after : Registry} {now : Nat}
  {downloaded : Except Failure String} {result : Except Failure Unit}

/-- With providers in force a refresh succeeds, and there are some afterwards. -/
theorem goes_on
    (outcome : Outcome registry now downloaded result after)
    (hasProviders : registry.providers ≠ []) :
    result = .ok () ∧ after.providers ≠ [] := by
  cases outcome with
  | failed failure =>
      simp [verdict, hasProviders]
  | empty isEmpty =>
      simp [hasProviders]
  | unchanged isText known =>
      simp [hasProviders]
  | broken isText refused =>
      simp [verdict, forgetting, hasProviders]
  | loaded isText compiled =>
      simp [loading, Manifest.providers_ne_nil_of_compile compiled]

/-- If there are providers after it, a refresh has recorded its time. -/
theorem refreshedAt_of_ne_nil
    (outcome : Outcome registry now downloaded result after)
    (hasProviders : after.providers ≠ []) :
    after.refreshedAt = some now := by
  cases outcome with
  | _ =>
      rw [providers_refreshed] at hasProviders
      exact refreshedAt_refreshed hasProviders now

/-- No refresh changes the interval. -/
theorem interval_eq
    (outcome : Outcome registry now downloaded result after) :
    after.interval = registry.interval := by
  cases outcome with
  | _ =>
      exact interval_refreshed _ now

/-- Where a refresh fails there are no providers afterwards. -/
theorem of_error
    {failure : Failure}
    (outcome : Outcome registry now downloaded (.error failure) after) :
    after.providers = [] := by
  have noProviders : registry.providers = [] := by
    rcases hasProviders : registry.providers with _ | ⟨first, rest⟩
    · rfl
    · have succeeded := (outcome.goes_on (by simp [hasProviders])).1
      cases succeeded
  generalize gave : Except.error failure = result at outcome
  cases outcome with
  | failed failure =>
      rw [providers_refreshed]
      exact noProviders
  | broken isText refused =>
      rw [providers_refreshed]
      exact noProviders
  | _ =>
      cases gave

/-- A refresh that leaves no providers at most forgets a checksum. -/
theorem of_nil
    (outcome : Outcome registry now downloaded result after)
    (noneLeft : after.providers = []) :
    registry.providers = [] ∧ (after = registry ∨ after = registry.forgetting) := by
  cases outcome with
  | broken isText refused =>
      rw [providers_refreshed] at noneLeft
      exact ⟨noneLeft, .inr (refreshed_of_nil noneLeft now)⟩
  | loaded isText compiled =>
      rw [providers_refreshed] at noneLeft
      exact (Manifest.providers_ne_nil_of_compile compiled noneLeft).elim
  | _ =>
      rw [providers_refreshed] at noneLeft
      exact ⟨noneLeft, .inl (refreshed_of_nil noneLeft now)⟩

end Outcome

/-! ## What the checksum means -/

/--
The checksum on record is that of a text that was downloaded and whose providers
are the ones in force. A time is on record only where there are providers.
-/
structure Sound (texts : List String) (registry : Registry) : Prop where
  named :
    ∀ {checksum : String},
      registry.source.checksum = some checksum →
      ∃ text ∈ texts,
        text.isEmpty = false ∧
          Digest.Sha256.checksum text = checksum ∧
          (Manifest.compile text).result = .ok registry.providers
  timed :
    registry.refreshedAt ≠ none → registry.providers ≠ []

namespace Sound

/-- Without providers no checksum is on record. -/
theorem checksum_of_nil
    {texts : List String}
    {registry : Registry}
    (sound : Sound texts registry)
    (noProviders : registry.providers = []) :
    registry.source.checksum = none := by
  cases recorded : registry.source.checksum with
  | none =>
      rfl
  | some checksum =>
      obtain ⟨text, _, _, _, compiled⟩ := sound.named recorded
      exact (Manifest.providers_ne_nil_of_compile compiled noProviders).elim

/-- Without providers no time is on record. -/
theorem refreshedAt_of_nil
    {texts : List String}
    {registry : Registry}
    (sound : Sound texts registry)
    (noProviders : registry.providers = []) :
    registry.refreshedAt = none := by
  cases timed : registry.refreshedAt with
  | none =>
      rfl
  | some last =>
      exact (sound.timed (by simp [timed]) noProviders).elim

/-- Without providers a registry is stale, whatever the clock shows. -/
theorem isStale_of_nil
    {texts : List String}
    {registry : Registry}
    (sound : Sound texts registry)
    (noProviders : registry.providers = [])
    (now : Nat) :
    registry.isStale now = true := by
  simp [isStale, sound.refreshedAt_of_nil noProviders]

/-- A registry stays sound when more texts are downloaded. -/
theorem append
    {texts : List String}
    {registry : Registry}
    (sound : Sound texts registry)
    (later : List String) :
    Sound (texts ++ later) registry where
  named recorded := by
    obtain ⟨text, member, rest⟩ := sound.named recorded
    exact ⟨text, List.mem_append_left later member, rest⟩
  timed :=
    sound.timed

/-- Recording a time keeps a registry sound. -/
theorem refreshed
    {texts : List String}
    {registry : Registry}
    (sound : Sound texts registry)
    (now : Nat) :
    Sound texts (registry.refreshed now) where
  named recorded := by
    rw [source_refreshed] at recorded
    rw [providers_refreshed]
    exact sound.named recorded
  timed isTimed := by
    rw [providers_refreshed]
    intro noProviders
    rw [refreshed_of_nil noProviders] at isTimed
    exact sound.timed isTimed noProviders

/-- Forgetting the checksum keeps a registry sound. -/
theorem forgetting
    {texts : List String}
    {registry : Registry}
    (sound : Sound texts registry) :
    Sound texts registry.forgetting where
  named recorded := by
    cases recorded
  timed :=
    sound.timed

/-- Loading a downloaded text makes a registry sound, whatever it was before. -/
theorem loading
    {texts : List String}
    {registry : Registry}
    {text : String}
    {providers : List Provider}
    (member : text ∈ texts)
    (isText : text.isEmpty = false)
    (compiled : (Manifest.compile text).result = .ok providers) :
    Sound texts (registry.loading text providers) where
  named recorded :=
    ⟨text, member, isText, Option.some.inj recorded, compiled⟩
  timed _ :=
    Manifest.providers_ne_nil_of_compile compiled

end Sound

/-- A refresh of a sound registry leaves a sound one. -/
theorem Outcome.sound
    {registry after : Registry}
    {now : Nat}
    {downloaded : Except Failure String}
    {result : Except Failure Unit}
    {texts : List String}
    (outcome : Outcome registry now downloaded result after)
    (sound : Sound texts registry) :
    Sound (texts ++ textsOf downloaded) after := by
  cases outcome with
  | failed failure =>
      exact (sound.append _).refreshed now
  | empty isEmpty =>
      exact (sound.append _).refreshed now
  | unchanged isText known =>
      exact (sound.append _).refreshed now
  | broken isText refused =>
      exact (sound.append _).forgetting.refreshed now
  | loaded isText compiled =>
      exact (Sound.loading (by simp [textsOf]) isText compiled).refreshed now

/-- A refresh of a sound registry that leaves no providers leaves all as it was. -/
theorem Outcome.eq_of_nil
    {registry after : Registry}
    {now : Nat}
    {downloaded : Except Failure String}
    {result : Except Failure Unit}
    {texts : List String}
    (outcome : Outcome registry now downloaded result after)
    (sound : Sound texts registry)
    (noneLeft : after.providers = []) :
    after = registry := by
  obtain ⟨noProviders, unchanged | forgetful⟩ := outcome.of_nil noneLeft
  · exact unchanged
  · have noChecksum := sound.checksum_of_nil noProviders
    rw [forgetful, forgetting_of_none noChecksum]

end Registry

end Untrack.Rules
