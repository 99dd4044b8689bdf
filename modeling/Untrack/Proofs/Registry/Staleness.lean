import Untrack.Proofs.Registry.Turn

namespace Untrack.Cleaner

open Untrack.Rules (Answer Fetcher Registry fetchesIn)

/-!
# When a registry is stale

Whether a registry is stale follows from the fetches that its calls have started.
An `Attempt` keeps what a caller can see of one: which call it was, what the
clock showed, and whether providers were in force once the call was over. The
time on record is that of the last attempt after which there were some, however
it ended and whatever the clock has done since.
-/

/-- A fetch that a call started, and whether providers were in force after it. -/
structure Attempt where
  turn : Turn
  populated : Bool
  deriving Repr, DecidableEq

namespace Attempt

/-- What the clock showed. -/
def now (attempt : Attempt) : Nat :=
  attempt.turn.now

/-- Nobody asked for the fetch: it was started for the rules were stale. -/
def unforced (attempt : Attempt) : Bool :=
  attempt.turn.call != .refresh

end Attempt

/-- The fetches that the events of an answered call tell of. -/
def attemptsOf
    {σ : Type}
    (turn : Turn)
    (answer : Answer σ (Except Failure Reply)) :
    List Attempt :=
  List.replicate (fetchesIn answer.events)
    { turn, populated := !answer.registry.providers.isEmpty }

/-- When the last of some attempts was made after which there were providers. -/
def lastPopulated? (log : List Attempt) : Option Nat :=
  ((log.filter (·.populated)).map (·.now)).getLast?

/--
Some calls lead from one registry to another. The log holds the fetches that they
started, in order. As in `LeadsTo`, every call has a fetcher of its own.
-/
inductive Recounts (start : Registry) : List Attempt → Registry → Prop where
  | refl :
      Recounts start [] start
  | call
      {σ : Type}
      (fetcher : Fetcher σ)
      (turn : Turn)
      (state : σ)
      {log : List Attempt}
      {registry : Registry} :
      Recounts start log registry →
      Recounts start
        (log ++ attemptsOf turn (turn.answer fetcher registry state))
        (turn.answer fetcher registry state).registry

/-! ## The last attempt -/

/-- The last attempt of two logs is the last one of the second, if it has one. -/
theorem lastPopulated?_append (first second : List Attempt) :
    lastPopulated? (first ++ second) =
      (lastPopulated? second).or (lastPopulated? first) := by
  simp only [lastPopulated?, List.filter_append, List.map_append,
    List.getLast?_append]

/-- There is no last attempt that left providers if no attempt did. -/
theorem lastPopulated?_eq_none_iff {log : List Attempt} :
    lastPopulated? log = none ↔ ∀ attempt ∈ log, attempt.populated = false := by
  simp [lastPopulated?]

/-- An attempt that left providers is not later than the last one that did. -/
theorem exists_lastPopulated?_ge
    {log : List Attempt}
    {attempt : Attempt}
    (forward : log.Pairwise fun first second => first.now ≤ second.now)
    (member : attempt ∈ log)
    (populated : attempt.populated = true) :
    ∃ last, lastPopulated? log = some last ∧ attempt.now ≤ last := by
  have inTimes :
      attempt.now ∈ (log.filter (·.populated)).map (·.now) :=
    List.mem_map.mpr
      ⟨attempt, List.mem_filter.mpr ⟨member, populated⟩, rfl⟩
  have ordered :
      ((log.filter (·.populated)).map (·.now)).Pairwise (· ≤ ·) :=
    List.pairwise_map.mpr (forward.sublist List.filter_sublist)
  rw [lastPopulated?]
  generalize (log.filter (·.populated)).map (·.now) = times at inTimes ordered ⊢
  cases found : times.getLast? with
  | none =>
      rw [List.getLast?_eq_none_iff.mp found] at inTimes
      cases inTimes
  | some last =>
      obtain ⟨earlier, rfl⟩ := List.getLast?_eq_some_iff.mp found
      refine ⟨last, rfl, ?_⟩
      rcases List.mem_append.mp inTimes with isEarlier | isLast
      · exact (List.pairwise_append.mp ordered).2.2 _ isEarlier last (by simp)
      · exact Nat.le_of_eq (List.mem_singleton.mp isLast)

/-! ## One call -/

namespace Turn

variable {σ : Type} (fetcher : Fetcher σ) (turn : Turn) (registry : Registry)
  (state : σ)

/-- A call that fetches is one attempt, and any other call is none. -/
theorem attemptsOf_answer :
    attemptsOf turn (turn.answer fetcher registry state) =
      if turn.fetches registry then
        [{ turn
           populated :=
             !(turn.answer fetcher registry state).registry.providers.isEmpty }]
      else
        [] := by
  rw [attemptsOf, turn.fetchesIn_answer fetcher registry state]
  split <;> rfl

/-- The time on record after a call is that of its attempt, or else the old one. -/
theorem refreshedAt_answer :
    let answer := turn.answer fetcher registry state
    answer.registry.refreshedAt =
      (lastPopulated? (attemptsOf turn answer)).or registry.refreshedAt := by
  intro answer
  have after : answer.registry = (turn.attempt fetcher registry state).registry :=
    (turn.answer_concludes fetcher registry state).registry
  rw [turn.attemptsOf_answer fetcher registry state, after, attempt]
  by_cases begins : turn.fetches registry = true
  · simp only [begins, ↓reduceIte]
    have outcome := Registry.refresh_outcome fetcher registry turn.now state
    generalize (registry.refresh fetcher turn.now state).registry = refreshed
      at outcome
    cases noneLeft : refreshed.providers with
    | nil =>
        -- At most a checksum was forgotten, and the time stays what it was.
        rcases (outcome.of_nil noneLeft).2 with unchanged | forgetful
        · simp [unchanged, lastPopulated?]
        · simp [forgetful, Registry.forgetting, lastPopulated?]
    | cons provider rest =>
        have isTimed := outcome.refreshedAt_of_ne_nil (by simp [noneLeft])
        simp [lastPopulated?, isTimed, Attempt.now]
  · simp [begins, lastPopulated?]

end Turn

/-! ## Many calls -/

namespace Recounts

variable {start registry : Registry} {log : List Attempt}

/-- No call changes the interval. -/
theorem interval_eq
    (recounts : Recounts start log registry) :
    registry.interval = start.interval := by
  induction recounts with
  | refl =>
      rfl
  | call fetcher turn state recounts inductionHypothesis =>
      rw [turn.interval_answer, inductionHypothesis]

/-- The time on record is that of the last attempt that left providers. -/
theorem refreshedAt_eq
    (recounts : Recounts start log registry) :
    registry.refreshedAt = (lastPopulated? log).or start.refreshedAt := by
  induction recounts with
  | refl =>
      rfl
  | call fetcher turn state recounts inductionHypothesis =>
      rw [turn.refreshedAt_answer, inductionHypothesis, lastPopulated?_append,
        Option.or_assoc]

/-- A call that nobody forced fetches only an interval after the time on record. -/
private theorem interval_le_of_fetches
    {turn : Turn}
    {last : Nat}
    (recorded : registry.refreshedAt = some last)
    (begins : turn.fetches registry = true)
    (unforced : turn.call ≠ .refresh) :
    registry.interval ≤ turn.now - last := by
  rw [turn.fetches_of_ne_refresh registry unforced, Registry.isStale, recorded]
    at begins
  exact of_decide_eq_true begins

/-- An attempt that nobody forced is an interval later than any that left providers. -/
theorem pairwise_apart
    (recounts : Recounts start log registry)
    (forward : log.Pairwise fun first second => first.now ≤ second.now) :
    log.Pairwise fun first second =>
      first.populated = true →
      second.unforced = true →
      first.now + start.interval ≤ second.now := by
  induction recounts with
  | refl =>
      exact .nil
  | call fetcher turn state recounts inductionHypothesis =>
      rename_i log registry
      obtain ⟨forwardBefore, -, across⟩ := List.pairwise_append.mp forward
      refine List.pairwise_append.mpr
        ⟨inductionHypothesis forwardBefore, ?_, ?_⟩
      · rw [turn.attemptsOf_answer fetcher registry state]
        split <;> simp
      · intro first inLog second isNew populated unforced
        have notBefore := across first inLog second isNew
        rw [turn.attemptsOf_answer fetcher registry state] at isNew
        split at isNew
        · rename_i begins
          rw [List.mem_singleton] at isNew
          subst isNew
          obtain ⟨last, isLast, notLater⟩ :=
            exists_lastPopulated?_ge forwardBefore inLog populated
          have recorded : registry.refreshedAt = some last := by
            rw [recounts.refreshedAt_eq, isLast, Option.some_or]
          have apart :=
            interval_le_of_fetches recorded begins
              (by simpa [Attempt.unforced] using unforced)
          rw [recounts.interval_eq] at apart
          simp only [Attempt.now] at notBefore notLater ⊢
          omega
        · cases isNew

end Recounts

/--
A registry is stale if no attempt has left providers so far, or if the last one
that did was made an interval ago. Calls that are no refresh fetch exactly if the
registry is stale, and then once. So, as long as the clock never goes back, they
fetch no sooner than an interval after an attempt that left providers.
-/
theorem staleness_of_log
    {config : Config}
    {interval : Nat}
    {seed : List Provider}
    {log : List Attempt}
    {registry : Registry}
    (recounts : Recounts (initial config interval seed) log registry) :
    (∀ now,
      registry.isStale now = true ↔
        (∀ attempt ∈ log, attempt.populated = false) ∨
          ∃ last, lastPopulated? log = some last ∧ interval ≤ now - last) ∧
      (∀ {σ : Type} (fetcher : Fetcher σ) (turn : Turn) (state : σ),
        turn.call ≠ .refresh →
        fetchesIn (turn.answer fetcher registry state).events =
          if registry.isStale turn.now then 1 else 0) ∧
      ((log.Pairwise fun first second => first.now ≤ second.now) →
        log.Pairwise fun first second =>
          first.populated = true →
          second.unforced = true →
          first.now + interval ≤ second.now) := by
  refine ⟨?_, ?_, recounts.pairwise_apart⟩
  · intro now
    have recorded : registry.refreshedAt = lastPopulated? log := by
      rw [recounts.refreshedAt_eq]
      exact Option.or_none
    have sameInterval : registry.interval = interval := recounts.interval_eq
    rw [← lastPopulated?_eq_none_iff, Registry.isStale, recorded, sameInterval]
    cases lastPopulated? log <;> simp
  · intro σ fetcher turn state unforced
    rw [turn.fetchesIn_answer, turn.fetches_of_ne_refresh registry unforced]

/-- A refresh that fails while there are providers puts off the next one. -/
theorem staleness_of_log_after_failed_refresh :
    let fresh := initial { Config.standard with retry := .never } 10 []
    let text := "\x7b\"providers\":\x7b\"a\":\x7b\"urlPattern\":\"a\"\x7d\x7d\x7d"
    let first := (Turn.mk .ensureFresh 6).answer scripted fresh [.ok text]
    let second := (Turn.mk .refresh 12).answer scripted first.registry []
    ∀ now, second.registry.isStale now = true ↔ 22 ≤ now := by
  intro fresh text first second now
  have recounts : Recounts fresh _ second.registry :=
    .call scripted ⟨.refresh, 12⟩ [] (.call scripted ⟨.ensureFresh, 6⟩ _ .refl)
  have log :
      [] ++ attemptsOf ⟨.ensureFresh, 6⟩ first ++
          attemptsOf ⟨.refresh, 12⟩ second =
        [⟨⟨.ensureFresh, 6⟩, true⟩, ⟨⟨.refresh, 12⟩, true⟩] := by
    decide +kernel
  rw [(staleness_of_log recounts).1 now, log]
  simp [lastPopulated?, Attempt.now]
  omega

end Untrack.Cleaner
