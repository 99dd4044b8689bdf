import Untrack.Proofs.Registry.Turn

namespace Untrack.Cleaner

open Untrack.Rules (Fetcher Registry fetchesIn)

/-!
# What failures do to a registry

With providers in force no call fails, whatever the addresses send. Without any
a call can fail, and then it leaves the registry as it found it, ready to fetch
again. The second of these is no property of one call: a text that does not
compile has its checksum forgotten, and that restores the old state only since a
registry without providers has no checksum on record.
-/

/-- Cleaning a link fails only for want of providers, and says so. -/
theorem Call.conclude_strip_eq_error_iff
    {link : String}
    {attempt : Except Failure Unit}
    {providers : List Provider}
    (noneLeft : ∀ failure, attempt = .error failure → providers = []) :
    ((∃ failure, (Call.strip link).conclude attempt providers = .error failure) ↔
        providers = []) ∧
      ∀ failure,
        (Call.strip link).conclude attempt providers = .error failure →
        failure.kind = .noProviders := by
  cases attempt with
  | error failure =>
      have noProviders := noneLeft failure rfl
      subst noProviders
      refine ⟨⟨fun _ => rfl, fun _ => ⟨_, rfl⟩⟩, ?_⟩
      intro given same
      cases same
      rfl
  | ok done =>
      cases providers with
      | nil =>
          refine ⟨⟨fun _ => rfl, fun _ => ⟨_, rfl⟩⟩, ?_⟩
          intro given same
          cases same
          rfl
      | cons provider rest =>
          refine ⟨⟨?_, nofun⟩, nofun⟩
          rintro ⟨failure, same⟩
          cases same

/-- With providers a call that was refreshed gives something back. -/
theorem Call.exists_conclude_eq_ok
    (call : Call)
    {providers : List Provider}
    (hasProviders : providers ≠ []) :
    ∃ reply, call.conclude (.ok ()) providers = .ok reply := by
  cases call with
  | ensureFresh =>
      exact ⟨_, rfl⟩
  | refresh =>
      exact ⟨_, rfl⟩
  | strip link =>
      cases providers with
      | nil =>
          exact (hasProviders rfl).elim
      | cons provider rest =>
          exact ⟨_, rfl⟩

/-- A call that fails ends without providers. -/
theorem Call.providers_of_conclude_eq_error
    (call : Call)
    {attempt : Except Failure Unit}
    {providers : List Provider}
    {failure : Failure}
    (noneLeft : ∀ failure, attempt = .error failure → providers = [])
    (failed : call.conclude attempt providers = .error failure) :
    providers = [] := by
  cases attempt with
  | error cause =>
      exact noneLeft cause rfl
  | ok done =>
      rcases providers with _ | ⟨provider, rest⟩
      · rfl
      · obtain ⟨reply, replied⟩ :=
          call.exists_conclude_eq_ok (List.cons_ne_nil provider rest)
        cases failed.symm.trans replied

/--
Once a registry has providers in force it has some after any further calls, and
each of these succeeds. Cleaning a link fails exactly if there are no providers
afterwards, and only ever with the failure that says so.
-/
theorem providers_never_lost :
    (∀ {registry later : Registry} {texts : List String},
      registry.providers ≠ [] →
      LeadsTo registry texts later →
      later.providers ≠ [] ∧
        ∀ {σ : Type} (fetcher : Fetcher σ) (turn : Turn) (state : σ),
          ∃ reply, (turn.answer fetcher later state).result = .ok reply) ∧
      ∀ {σ : Type} (fetcher : Fetcher σ) (registry : Registry) (now : Nat)
        (link : String) (state : σ),
        ((∃ failure,
            (strip fetcher registry now link state).result = .error failure) ↔
          (strip fetcher registry now link state).registry.providers = []) ∧
          ∀ failure,
            (strip fetcher registry now link state).result = .error failure →
            failure.kind = .noProviders := by
  refine ⟨?_, ?_⟩
  · intro registry later texts hasProviders leads
    have laterProviders := leads.providers_ne_nil hasProviders
    refine ⟨laterProviders, ?_⟩
    intro σ fetcher turn state
    have concludes := turn.answer_concludes fetcher later state
    obtain ⟨succeeds, some⟩ := turn.attempt_goes_on fetcher later state laterProviders
    rw [concludes.result, succeeds]
    exact turn.call.exists_conclude_eq_ok some
  · intro σ fetcher registry now link state
    have concludes :=
      Turn.answer_concludes fetcher ⟨.strip link, now⟩ registry state
    have noneLeft (failure : Failure) :=
      @Turn.attempt_of_error _ fetcher ⟨.strip link, now⟩ registry state failure
    generalize Turn.attempt fetcher _ registry state = attempt at *
    have fails (failure : Failure) :
        (strip fetcher registry now link state).result = .error failure ↔
          (Call.strip link).conclude attempt.result attempt.registry.providers =
            .error failure := by
      rw [← concludes.result]
      simp only [Turn.answer]
      cases (strip fetcher registry now link state).result <;> simp [Except.map]
    have after :
        (strip fetcher registry now link state).registry = attempt.registry :=
      concludes.registry
    simp only [fails, after]
    exact Call.conclude_strip_eq_error_iff noneLeft

/-- A registry given a provider outlives a failed refresh and cleans a link. -/
theorem providers_never_lost_after_failure :
    let provider : Provider :=
      { name := "any"
        address := Pattern.ofExpr .empty
        parameters := []
        redirections := []
        exceptions := [] }
    let seeded := initial Config.standard 0 [provider]
    let later := ((Turn.mk .refresh 5).answer scripted seeded []).registry
    later.providers ≠ [] ∧
      ∃ reply,
        ((Turn.mk (.strip "http://a.test/") 9).answer scripted later
          []).result = .ok reply := by
  intro provider seeded later
  have seededProviders : seeded.providers ≠ [] := by
    simp [seeded, initial, Registry.withProviders]
  have leads : LeadsTo seeded _ later :=
    .call scripted ⟨.refresh, 5⟩ [] .refl
  obtain ⟨laterProviders, succeeds⟩ := providers_never_lost.1 seededProviders leads
  exact ⟨laterProviders, succeeds scripted ⟨.strip "http://a.test/", 9⟩ []⟩

/--
A call that fails leaves the registry as it was: without providers, without a
checksum or a time on record, and so stale at any time. Every further call
fetches again.
-/
theorem error_leaves_registry
    {config : Config}
    {interval : Nat}
    {seed : List Provider}
    {texts : List String}
    {registry : Registry}
    (leads : LeadsTo (initial config interval seed) texts registry)
    {σ : Type}
    (fetcher : Fetcher σ)
    (turn : Turn)
    (state : σ)
    {failure : Failure}
    (failed : (turn.answer fetcher registry state).result = .error failure) :
    (turn.answer fetcher registry state).registry = registry ∧
      registry.providers = [] ∧
      registry.source.checksum = none ∧
      registry.refreshedAt = none ∧
      (∀ now, registry.isStale now = true) ∧
      ∀ {τ : Type} (nextFetcher : Fetcher τ) (next : Turn) (nextState : τ),
        fetchesIn (next.answer nextFetcher registry nextState).events = 1 := by
  have sound := leads.sound (sound_initial config interval seed)
  have concludes := turn.answer_concludes fetcher registry state
  have noneLeft :
      (turn.attempt fetcher registry state).registry.providers = [] := by
    rw [concludes.result] at failed
    exact
      turn.call.providers_of_conclude_eq_error
        (fun _ => turn.attempt_of_error fetcher registry state) failed
  have unchanged := turn.attempt_of_nil fetcher registry state sound noneLeft
  have noProviders : registry.providers = [] := by
    rw [← unchanged]
    exact noneLeft
  have stale := sound.isStale_of_nil noProviders
  refine
    ⟨concludes.registry.trans unchanged, noProviders,
      sound.checksum_of_nil noProviders, sound.refreshedAt_of_nil noProviders,
      stale, ?_⟩
  intro τ nextFetcher next nextState
  have begins : next.fetches registry = true := by
    unfold Turn.fetches
    cases next.call <;> simp [stale]
  rw [next.fetchesIn_answer, begins, if_pos rfl]

/-- A first text that does not compile leaves a new registry as it was. -/
theorem error_leaves_registry_of_broken_text :
    let fresh := initial Config.standard 0 []
    let answer := (Turn.mk .ensureFresh 5).answer scripted fresh [.ok "broken"]
    (∃ failure, answer.result = .error failure) ∧ answer.registry = fresh := by
  intro fresh answer
  have refused : answer.result.isOk = false := by
    decide +kernel
  cases gave : answer.result with
  | error failure =>
      have leads : LeadsTo fresh [] fresh := .refl
      exact ⟨⟨failure, rfl⟩, (error_leaves_registry leads _ _ _ gave).1⟩
  | ok reply =>
      simp [gave, Except.isOk, Except.toBool] at refused

end Untrack.Cleaner
