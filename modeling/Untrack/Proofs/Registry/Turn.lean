import Untrack.Cleaner
import Untrack.Proofs.Registry.Refresh

namespace Untrack.Cleaner

open Untrack.Rules (Answer Fetcher Registry fetchesIn fetchesIn_notices)

/-!
# Calls and what they lead to

Callers reach a registry by three calls, each at some reading of the clock. A
call refreshes the registry or leaves it alone, and only then concludes what to
give back; `answer_registry` and `answer_result` say so for all calls at once.

`LeadsTo` follows a registry through any calls. Every call has a fetcher of its
own there, so that nothing is assumed about what the addresses send.
-/

/-- What a caller can ask for. -/
inductive Call where
  | ensureFresh
  | refresh
  | strip (link : String)
  deriving Repr, DecidableEq

/-- A call, and what the clock shows when it is made. -/
structure Turn where
  call : Call
  now : Nat
  deriving Repr, DecidableEq

/-- What a call gives back when it succeeds. -/
inductive Reply where
  | providers (inForce : List Provider)
  | refreshed
  | cleaned (link : String)
  deriving Repr

/-- The answer to a call at some reading of the clock. -/
def Turn.answer
    {σ : Type}
    (fetcher : Fetcher σ)
    (turn : Turn)
    (registry : Registry)
    (state : σ) :
    Answer σ (Except Failure Reply) :=
  match turn.call with
  | .ensureFresh =>
      let answer := registry.ensureFresh fetcher turn.now state
      { answer with result := answer.result.map .providers }
  | .refresh =>
      let answer := registry.refresh fetcher turn.now state
      { answer with result := answer.result.map fun _ => .refreshed }
  | .strip link =>
      let answer := strip fetcher registry turn.now link state
      { answer with result := answer.result.map .cleaned }

/-- A fetcher whose replies are written out, and which fails once it has no more. -/
def scripted : Fetcher (List (Except Failure String))
  | _, [] => (.error (.network .noAddress), [])
  | _, reply :: rest => (reply, rest)

/-- The answers to some calls, one after another. -/
def run
    {σ : Type}
    (fetcher : Fetcher σ) :
    (registry : Registry) → List Turn → σ →
      List (Answer σ (Except Failure Reply))
  | _, [], _ => []
  | registry, turn :: rest, state =>
      let answer := turn.answer fetcher registry state
      answer :: run fetcher answer.registry rest answer.state

/-- A registry before its first call, with the providers that it was given. -/
def initial
    (config : Config)
    (interval : Nat)
    (seed : List Provider) :
    Registry :=
  (Registry.new (Rules.Source.ofConfig config) interval).withProviders seed

/-! ## One call -/

namespace Turn

/-- The call starts a fetch: a refresh always, any other call if the rules are stale. -/
def fetches (turn : Turn) (registry : Registry) : Bool :=
  match turn.call with
  | .refresh => true
  | _ => registry.isStale turn.now

/-- The refresh that a call makes first, or nothing at all. -/
def attempt
    {σ : Type}
    (fetcher : Fetcher σ)
    (turn : Turn)
    (registry : Registry)
    (state : σ) :
    Answer σ (Except Failure Unit) :=
  if turn.fetches registry then
    registry.refresh fetcher turn.now state
  else
    { result := .ok (), registry, state, events := [] }

/-- The texts that a call downloads. -/
def texts
    {σ : Type}
    (fetcher : Fetcher σ)
    (turn : Turn)
    (registry : Registry)
    (state : σ) :
    List String :=
  if turn.fetches registry then
    Registry.textsOf (registry.fetched fetcher state).result
  else
    []

end Turn

/-- What a call gives back after its refresh, with the providers then in force. -/
def Call.conclude :
    Call → Except Failure Unit → List Provider → Except Failure Reply
  | .ensureFresh, .ok (), providers => .ok (.providers providers)
  | .ensureFresh, .error failure, _ => .error failure
  | .refresh, .ok (), _ => .ok .refreshed
  | .refresh, .error failure, _ => .error failure
  | .strip link, .ok (), [] => .error (.nothingLoaded (Text.trim link))
  | .strip link, .ok (), provider :: rest =>
      .ok (.cleaned
        (String.ofList (clean (provider :: rest) (Text.trim link).toList)))
  | .strip link, .error failure, _ =>
      .error (.notLoaded (Text.trim link) failure)

/-- The answer to a call follows from what its refresh gave and left behind. -/
structure Concludes
    {σ : Type}
    (call : Call)
    (attempt : Answer σ (Except Failure Unit))
    (answer : Answer σ (Except Failure Reply)) : Prop where
  result :
    answer.result = call.conclude attempt.result attempt.registry.providers
  registry :
    answer.registry = attempt.registry
  state :
    answer.state = attempt.state
  fetches :
    fetchesIn answer.events = fetchesIn attempt.events

/-- No notice that a link is being cleaned tells of a fetch. -/
theorem fetchesIn_applied
    (providers : List Provider)
    (link : List Char) :
    fetchesIn ((applied providers link).map .notice) = 0 := by
  apply fetchesIn_notices
  induction providers generalizing link with
  | nil =>
      simp [applied]
  | cons provider rest inductionHypothesis =>
      simp only [applied, undecoded, List.cons_append, List.mem_cons,
        List.mem_append, inductionHypothesis, reduceCtorEq, or_false, false_or]
      split
      · simp
      · split <;> simp

/-- Making sure that rules are fresh is a refresh if they are stale. -/
private theorem ensureFresh_attempt
    {σ : Type}
    (fetcher : Fetcher σ)
    (turn : Turn)
    (registry : Registry)
    (state : σ)
    (whenStale : turn.fetches registry = registry.isStale turn.now) :
    let attempt := turn.attempt fetcher registry state
    let answer := registry.ensureFresh fetcher turn.now state
    answer.result = attempt.result.map (fun _ => attempt.registry.providers) ∧
      answer.registry = attempt.registry ∧
      answer.state = attempt.state ∧
      fetchesIn answer.events = fetchesIn attempt.events := by
  simp only [Turn.attempt, whenStale, Registry.ensureFresh]
  by_cases stale : registry.isStale turn.now = true
  · simp [stale, fetchesIn]
  · simp [stale, Except.map]

/-- The answer to any call follows from its refresh. -/
theorem Turn.answer_concludes
    {σ : Type}
    (fetcher : Fetcher σ)
    (turn : Turn)
    (registry : Registry)
    (state : σ) :
    Concludes turn.call (turn.attempt fetcher registry state)
      (turn.answer fetcher registry state) := by
  rcases turn with ⟨call, now⟩
  cases call with
  | refresh =>
      have always : (Turn.mk .refresh now).fetches registry = true := rfl
      simp only [answer, attempt, always, ↓reduceIte]
      refine ⟨?_, rfl, rfl, rfl⟩
      cases (registry.refresh fetcher now state).result <;> rfl
  | ensureFresh =>
      obtain ⟨result, after, later, fetched⟩ :=
        ensureFresh_attempt fetcher ⟨.ensureFresh, now⟩ registry state rfl
      refine ⟨?_, after, later, fetched⟩
      simp only [answer, result]
      cases (Turn.attempt fetcher _ registry state).result <;> rfl
  | strip link =>
      obtain ⟨result, after, later, fetched⟩ :=
        ensureFresh_attempt fetcher ⟨.strip link, now⟩ registry state rfl
      simp only [answer, strip]
      generalize Turn.attempt fetcher _ registry state = attempt at *
      generalize registry.ensureFresh fetcher now state = fresh at *
      rcases attempt with ⟨tried, settled, _, _⟩
      cases tried with
      | error failure =>
          simp only [result, Except.map]
          exact ⟨rfl, after, later, fetched⟩
      | ok done =>
          cases inForce : settled.providers with
          | nil =>
              simp only [result, Except.map, inForce]
              exact ⟨by simp [Call.conclude, inForce], after, later, fetched⟩
          | cons provider rest =>
              simp only [result, Except.map, inForce]
              refine ⟨by simp [Call.conclude, inForce], after, later, ?_⟩
              have quiet :=
                fetchesIn_applied
                  (matching (provider :: rest) (Text.trim link).toList)
                  (Text.trim link).toList
              rw [← fetched, Rules.fetchesIn_append, quiet, Nat.add_zero]

namespace Turn

variable {σ : Type} (fetcher : Fetcher σ) (turn : Turn) (registry : Registry)
  (state : σ)

/-- A call fetches once or not at all. -/
theorem fetchesIn_answer :
    fetchesIn (turn.answer fetcher registry state).events =
      if turn.fetches registry then 1 else 0 := by
  rw [(turn.answer_concludes fetcher registry state).fetches, attempt]
  split
  · exact Registry.fetchesIn_refresh fetcher registry turn.now state
  · rfl

/-- A call that is no refresh fetches if the rules are stale. -/
theorem fetches_of_ne_refresh
    (unforced : turn.call ≠ .refresh) :
    turn.fetches registry = registry.isStale turn.now := by
  rcases turn with ⟨call, now⟩
  cases call with
  | refresh =>
      exact (unforced rfl).elim
  | _ =>
      rfl

/-- No call changes the interval. -/
theorem interval_answer :
    (turn.answer fetcher registry state).registry.interval =
      registry.interval := by
  rw [(turn.answer_concludes fetcher registry state).registry, attempt]
  split
  · exact
      (Registry.refresh_outcome fetcher registry turn.now state).interval_eq
  · rfl

/-- A call downloads texts only by its refresh, and leaves a sound registry sound. -/
theorem sound_answer
    {texts : List String}
    (sound : registry.Sound texts) :
    (turn.answer fetcher registry state).registry.Sound
      (texts ++ turn.texts fetcher registry state) := by
  rw [(turn.answer_concludes fetcher registry state).registry, attempt,
    Turn.texts]
  split
  · exact
      (Registry.refresh_outcome fetcher registry turn.now state).sound sound
  · exact sound.append []

/-- With providers in force the refresh of a call succeeds and leaves some in force. -/
theorem attempt_goes_on
    (hasProviders : registry.providers ≠ []) :
    (turn.attempt fetcher registry state).result = .ok () ∧
      (turn.attempt fetcher registry state).registry.providers ≠ [] := by
  rw [attempt]
  split
  · exact
      (Registry.refresh_outcome fetcher registry turn.now state).goes_on
        hasProviders
  · exact ⟨rfl, hasProviders⟩

/-- If the refresh of a call fails, there are no providers in force. -/
theorem attempt_of_error
    {failure : Failure}
    (failed : (turn.attempt fetcher registry state).result = .error failure) :
    (turn.attempt fetcher registry state).registry.providers = [] := by
  by_cases begins : turn.fetches registry = true
  · simp only [attempt, begins, ↓reduceIte] at failed ⊢
    have outcome := Registry.refresh_outcome fetcher registry turn.now state
    rw [failed] at outcome
    exact outcome.of_error
  · simp [attempt, begins] at failed

/-- If no providers are in force after its refresh, a call leaves all as it was. -/
theorem attempt_of_nil
    {texts : List String}
    (sound : registry.Sound texts)
    (noneLeft : (turn.attempt fetcher registry state).registry.providers = []) :
    (turn.attempt fetcher registry state).registry = registry := by
  by_cases begins : turn.fetches registry = true
  · simp only [attempt, begins, ↓reduceIte] at noneLeft ⊢
    exact
      (Registry.refresh_outcome fetcher registry turn.now state).eq_of_nil sound
        noneLeft
  · simp [attempt, begins]

end Turn

/-! ## Many calls -/

/--
Some calls lead from one registry to another. The texts are those that the calls
downloaded, in order and without white space around them.
-/
inductive LeadsTo (start : Registry) : List String → Registry → Prop where
  | refl :
      LeadsTo start [] start
  | call
      {σ : Type}
      (fetcher : Fetcher σ)
      (turn : Turn)
      (state : σ)
      {texts : List String}
      {registry : Registry} :
      LeadsTo start texts registry →
      LeadsTo start (texts ++ turn.texts fetcher registry state)
        (turn.answer fetcher registry state).registry

/-- A registry is sound before its first call. -/
theorem sound_initial
    (config : Config)
    (interval : Nat)
    (seed : List Provider) :
    (initial config interval seed).Sound [] where
  named recorded := by
    cases recorded
  timed isTimed :=
    (isTimed rfl).elim

namespace LeadsTo

variable {start registry : Registry} {texts : List String}

/-- Calls lead from a sound registry to sound ones. -/
theorem sound
    {before : List String}
    (leads : LeadsTo start texts registry)
    (startSound : start.Sound before) :
    registry.Sound (before ++ texts) := by
  induction leads with
  | refl =>
      exact startSound.append []
  | call fetcher turn state leads inductionHypothesis =>
      rw [← List.append_assoc]
      exact turn.sound_answer fetcher _ state inductionHypothesis

/-- No calls change the interval. -/
theorem interval_eq
    (leads : LeadsTo start texts registry) :
    registry.interval = start.interval := by
  induction leads with
  | refl =>
      rfl
  | call fetcher turn state leads inductionHypothesis =>
      rw [turn.interval_answer, inductionHypothesis]

/-- Once there are providers in force there always are. -/
theorem providers_ne_nil
    (leads : LeadsTo start texts registry)
    (hasProviders : start.providers ≠ []) :
    registry.providers ≠ [] := by
  induction leads with
  | refl =>
      exact hasProviders
  | call fetcher turn state leads inductionHypothesis =>
      rw [(turn.answer_concludes fetcher _ state).registry]
      exact (turn.attempt_goes_on fetcher _ state inductionHypothesis).2

end LeadsTo

end Untrack.Cleaner
