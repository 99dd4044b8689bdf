import Untrack.Rules.Download

namespace Untrack.Rules

/-!
# The calls of one download

A download is known from the outside by its calls and the pauses between them. The
replies to these calls are the fetcher's own: `repliesTo` makes the recorded calls
once more, from the state that the fetcher was in before.

Asking one address is some failed calls and one call whose reply is the result. A
download puts such runs one after another until an address answers, and so there is
a pause before each repeated call and nowhere else.
-/

variable {σ : Type}

/-- What a fetcher replies to some calls, made one after another. -/
def repliesTo
    (fetcher : Fetcher σ) :
    (addresses : List String) → σ → List (Except Failure String)
  | [], _ => []
  | address :: rest, state =>
      let (reply, state) := fetcher address state
      reply :: repliesTo fetcher rest state

/-- The state in which some calls leave a fetcher. -/
def stateAfter (fetcher : Fetcher σ) (addresses : List String) (state : σ) : σ :=
  addresses.foldl (fun state address => (fetcher address state).2) state

/-- The calls and pauses among some events, without the notices. -/
def outside (events : List Event) : List Event :=
  events.filter (·.notice?.isNone)

/-- A call of an address, and some more of them with a pause before each. -/
def attempts (delay again : Nat) (address : String) : List Event :=
  .call address :: (List.replicate again [.pause delay, .call address]).flatten

/--
A download makes some calls and pauses and no others, the fetcher replies to the
calls, and it is left in the state in which they leave it.
-/
structure Makes
    (fetcher : Fetcher σ)
    (state : σ)
    (asked : Download σ)
    (trace : List Event)
    (replies : List (Except Failure String)) : Prop where
  outside_eq :
    outside asked.events = trace
  replies_eq :
    repliesTo fetcher (calls asked.events) state = replies
  state_eq :
    asked.state = stateAfter fetcher (calls asked.events) state

/-! ## Events -/

/-- The calls and pauses of events are found one part after another. -/
theorem outside_append (first second : List Event) :
    outside (first ++ second) = outside first ++ outside second :=
  List.filter_append first second

/-- The calls of events are found one part after another. -/
theorem calls_append (first second : List Event) :
    calls (first ++ second) = calls first ++ calls second :=
  List.filterMap_append

/-- The pause of an event comes to those of the events after it. -/
theorem pausedIn_cons (event : Event) (rest : List Event) :
    pausedIn (event :: rest) = event.paused + pausedIn rest := by
  rw [pausedIn, List.map_cons, List.foldl_cons, Nat.add_comm 0,
    List.foldl_assoc]
  rfl

/-- The pauses of events add up part by part. -/
theorem pausedIn_append (first second : List Event) :
    pausedIn (first ++ second) = pausedIn first + pausedIn second := by
  induction first with
  | nil =>
      simp [pausedIn]
  | cons event rest inductionHypothesis =>
      rw [List.cons_append, pausedIn_cons, pausedIn_cons, inductionHypothesis,
        Nat.add_assoc]

/-- Notices are no calls. -/
theorem calls_outside (events : List Event) :
    calls (outside events) = calls events := by
  rw [calls, outside, List.filterMap_filter, calls]
  congr 1
  funext event
  cases event <;> rfl

/-- Notices are no pauses. -/
theorem pausedIn_outside (events : List Event) :
    pausedIn (outside events) = pausedIn events := by
  induction events with
  | nil =>
      rfl
  | cons event rest inductionHypothesis =>
      cases event with
      | notice entry =>
          have isNoPause :
              pausedIn (.notice entry :: rest) = pausedIn rest := by
            rw [pausedIn_cons]
            exact Nat.zero_add _
          rw [isNoPause, ← inductionHypothesis]
          rfl
      | call _ | pause _ =>
          exact
            (pausedIn_cons _ _).trans
              (by rw [← outside, inductionHypothesis, ← pausedIn_cons])

/-! ## Attempts at one address -/

/-- One more attempt is a call and a pause before the others. -/
theorem attempts_succ (delay again : Nat) (address : String) :
    attempts delay (again + 1) address =
      .call address :: .pause delay :: attempts delay again address := by
  simp only [attempts, List.replicate_succ, List.flatten_cons, List.cons_append,
    List.nil_append]

/-- All attempts call the address. -/
theorem calls_attempts (delay again : Nat) (address : String) :
    calls (attempts delay again address) = List.replicate (again + 1) address := by
  induction again with
  | zero =>
      rfl
  | succ again inductionHypothesis =>
      rw [attempts_succ, List.replicate_succ, ← inductionHypothesis]
      rfl

/-- There is a pause before each attempt but the first. -/
theorem pausedIn_attempts (delay again : Nat) (address : String) :
    pausedIn (attempts delay again address) = delay * again := by
  induction again with
  | zero =>
      rfl
  | succ again inductionHypothesis =>
      rw [attempts_succ, pausedIn_cons, pausedIn_cons, inductionHypothesis,
        Nat.mul_succ]
      simp only [Event.paused]
      omega

/-- All attempts at some addresses call them in order, each as often. -/
theorem calls_flatMap_attempts (delay again : Nat) (addresses : List String) :
    calls (addresses.flatMap (attempts delay again)) =
      addresses.flatMap (List.replicate (again + 1)) := by
  induction addresses with
  | nil =>
      rfl
  | cons address rest inductionHypothesis =>
      rw [List.flatMap_cons, List.flatMap_cons, calls_append, calls_attempts,
        inductionHypothesis]

/-- The pauses of all attempts at some addresses. -/
theorem pausedIn_flatMap_attempts (delay again : Nat) (addresses : List String) :
    pausedIn (addresses.flatMap (attempts delay again)) =
      delay * (addresses.length * again) := by
  induction addresses with
  | nil =>
      simp [pausedIn]
  | cons address rest inductionHypothesis =>
      rw [List.flatMap_cons, pausedIn_append, pausedIn_attempts,
        inductionHypothesis, List.length_cons, Nat.succ_mul, Nat.mul_add,
        Nat.add_comm]

/-- How many calls it takes to call some addresses so many times each. -/
theorem length_flatMap_replicate (count : Nat) (addresses : List String) :
    (addresses.flatMap (List.replicate count)).length = addresses.length * count := by
  induction addresses with
  | nil =>
      simp
  | cons address rest inductionHypothesis =>
      rw [List.flatMap_cons, List.length_append, inductionHypothesis,
        List.length_replicate, List.length_cons, Nat.succ_mul, Nat.add_comm]

/-! ## Replies -/

/-- Every call has a reply. -/
theorem length_repliesTo
    (fetcher : Fetcher σ)
    (addresses : List String)
    (state : σ) :
    (repliesTo fetcher addresses state).length = addresses.length := by
  induction addresses generalizing state with
  | nil =>
      rfl
  | cons address rest inductionHypothesis =>
      rw [repliesTo, List.length_cons, List.length_cons, inductionHypothesis]

/-- The replies to later calls come from the state that the earlier ones left. -/
theorem repliesTo_append
    (fetcher : Fetcher σ)
    (first second : List String)
    (state : σ) :
    repliesTo fetcher (first ++ second) state =
      repliesTo fetcher first state ++
        repliesTo fetcher second (stateAfter fetcher first state) := by
  induction first generalizing state with
  | nil =>
      rfl
  | cons address rest inductionHypothesis =>
      simp only [List.cons_append, repliesTo, inductionHypothesis]
      rfl

namespace Makes

variable {fetcher : Fetcher σ} {state : σ}
variable {trace laterTrace : List Event}
variable {replies laterReplies : List (Except Failure String)}

/-- One download after another makes the calls of both. -/
theorem append
    {asked later whole : Download σ}
    (makes : Makes fetcher state asked trace replies)
    (makesLater : Makes fetcher asked.state later laterTrace laterReplies)
    (isWhole : outside whole.events = outside asked.events ++ outside later.events)
    (sameState : whole.state = later.state) :
    Makes fetcher state whole (trace ++ laterTrace) (replies ++ laterReplies) := by
  have callsWhole :
      calls whole.events = calls asked.events ++ calls later.events := by
    rw [← calls_outside, isWhole, calls_append, calls_outside, calls_outside]
  constructor
  · rw [isWhole, makes.outside_eq, makesLater.outside_eq]
  · rw [callsWhole, repliesTo_append, makes.replies_eq, ← makes.state_eq,
      makesLater.replies_eq]
  · rw [sameState, makesLater.state_eq, callsWhole, makes.state_eq]
    simp only [stateAfter, List.foldl_append]

/-- Notices do not matter for what a download makes. -/
theorem congr
    {asked other : Download σ}
    (makes : Makes fetcher state asked trace replies)
    (sameEvents : outside other.events = outside asked.events)
    (sameState : other.state = asked.state) :
    Makes fetcher state other trace replies := by
  have sameCalls : calls other.events = calls asked.events := by
    rw [← calls_outside, sameEvents, calls_outside]
  constructor
  · rw [sameEvents, makes.outside_eq]
  · rw [sameCalls, makes.replies_eq]
  · rw [sameState, sameCalls, makes.state_eq]

end Makes

/-! ## One address -/

/--
Asking one address makes some calls that fail and one whose reply is the result. If
that one fails too, there was no call left.
-/
theorem exists_makes_askAgain
    (fetcher : Fetcher σ)
    (patience : Patience)
    (address : String)
    (left : Nat)
    (state : σ) :
    ∃ failures : List Failure,
      Makes fetcher state (askAgain fetcher patience address left state)
          (attempts patience.delay failures.length address)
          (failures.map .error ++
            [(askAgain fetcher patience address left state).result]) ∧
        failures.length ≤ left ∧
        ∀ failure,
          (askAgain fetcher patience address left state).result = .error failure →
          failures.length = left := by
  induction left generalizing state with
  | zero =>
      exact ⟨[], ⟨rfl, rfl, rfl⟩, Nat.le_refl 0, fun _ _ => rfl⟩
  | succ left inductionHypothesis =>
      rw [askAgain]
      split
      case h_1 text next replied =>
        refine ⟨[], ⟨rfl, ?_, ?_⟩, Nat.zero_le _, nofun⟩
        · simp [calls, Event.call?, repliesTo, replied]
        · simp [calls, Event.call?, stateAfter, replied]
      case h_2 failure next replied =>
        obtain ⟨failures, makes, within, whenFailed⟩ := inductionHypothesis next
        have oneMore (entry : Notice) (rest : List Event) :
            calls (.call address :: .notice entry :: .pause patience.delay :: rest) =
              address :: calls rest :=
          rfl
        refine
          ⟨failure :: failures, ⟨?_, ?_, ?_⟩, Nat.succ_le_succ within,
            fun other failed => congrArg Nat.succ (whenFailed other failed)⟩
        · rw [List.length_cons, attempts_succ, ← makes.outside_eq]
          rfl
        · rw [oneMore, repliesTo, replied, List.map_cons, List.cons_append,
            ← makes.replies_eq]
        · rw [oneMore, stateAfter, List.foldl_cons, replied]
          exact makes.state_eq

/-! ## Several addresses -/

/--
An address answered with a text: those before it were given up on, and it was called
a few times again until it did.
-/
structure Answered
    (fetcher : Fetcher σ)
    (patience : Patience)
    (addresses : List String)
    (state : σ)
    (asked : Download σ)
    (passed : List String)
    (address : String)
    (again : Nat)
    (failures : List Failure)
    (text : String) : Prop where
  isFirst :
    ∃ later, addresses = passed ++ address :: later
  again_le :
    again ≤ patience.retries
  result_eq :
    asked.result = .ok text
  makes :
    Makes fetcher state asked
      (passed.flatMap (attempts patience.delay patience.retries) ++
        attempts patience.delay again address)
      (failures.map .error ++ [.ok text])

/-- All addresses were given up on, and the last failure is the result, if there is one. -/
structure GivenUp
    (fetcher : Fetcher σ)
    (patience : Patience)
    (otherwise : Failure)
    (addresses : List String)
    (state : σ)
    (asked : Download σ)
    (failures : List Failure) : Prop where
  result_eq :
    asked.result = .error (failures.getLast?.getD otherwise)
  makes :
    Makes fetcher state asked
      (addresses.flatMap (attempts patience.delay patience.retries))
      (failures.map .error)

/-- Failures come first, then the one that an address was given up on, then others. -/
private theorem map_error_append_cons
    (failures later : List Failure)
    (failure : Failure) :
    (failures ++ failure :: later).map (Except.error (α := String)) =
      (failures.map .error ++ [.error failure]) ++ later.map .error := by
  simp

section Behind

variable {fetcher : Fetcher σ} {patience : Patience} {otherwise failure : Failure}
variable {address : String} {rest : List String} {state : σ}
variable {first later whole : Download σ} {failures laterFailures : List Failure}
variable
  (makes :
    Makes fetcher state first (attempts patience.delay patience.retries address)
      (failures.map .error ++ [.error failure]))
variable (isWhole : outside whole.events = outside first.events ++ outside later.events)
variable (sameResult : whole.result = later.result)
variable (sameState : whole.state = later.state)
include makes isWhole sameResult sameState

/-- An address that was given up on stands before the one that answers. -/
theorem Answered.behind
    {passed : List String}
    {answering text : String}
    {again : Nat}
    (answered :
      Answered fetcher patience rest first.state later passed answering again
        laterFailures text) :
    Answered fetcher patience (address :: rest) state whole (address :: passed)
      answering again (failures ++ failure :: laterFailures) text where
  isFirst := by
    obtain ⟨behind, isRest⟩ := answered.isFirst
    exact ⟨behind, by rw [isRest]; rfl⟩
  again_le :=
    answered.again_le
  result_eq :=
    sameResult.trans answered.result_eq
  makes := by
    rw [map_error_append_cons, List.append_assoc, List.flatMap_cons, List.append_assoc]
    exact makes.append answered.makes isWhole sameState

/-- An address that was given up on stands before others that are. -/
theorem GivenUp.behind
    (givenUp : GivenUp fetcher patience failure rest first.state later laterFailures) :
    GivenUp fetcher patience otherwise (address :: rest) state whole
      (failures ++ failure :: laterFailures) where
  result_eq := by
    simp only [sameResult, givenUp.result_eq, List.getLast?_append, List.getLast?_cons,
      Option.some_or, Option.getD_some]
  makes := by
    rw [map_error_append_cons, List.flatMap_cons]
    exact makes.append givenUp.makes isWhole sameState

end Behind

/-- Asking addresses ends with an answer or gives all of them up. -/
theorem askEach_ends
    (fetcher : Fetcher σ)
    (patience : Patience)
    (otherwise : Failure)
    (addresses : List String)
    (state : σ) :
    let asked := askEach fetcher patience otherwise addresses state
    (∃ passed address again failures text,
        Answered fetcher patience addresses state asked passed address again
          failures text) ∨
      ∃ failures,
        GivenUp fetcher patience otherwise addresses state asked failures := by
  induction addresses generalizing otherwise state with
  | nil =>
      exact .inr ⟨[], rfl, ⟨rfl, rfl, rfl⟩⟩
  | cons address rest inductionHypothesis =>
      obtain ⟨failures, makes, within, whenFailed⟩ :=
        exists_makes_askAgain fetcher patience address patience.retries state
      rw [← ask] at makes whenFailed
      rw [askEach]
      cases result : (ask fetcher patience address state).result with
      | ok text =>
          rw [result] at makes
          refine .inl ⟨[], address, failures.length, failures, text, ?_⟩
          exact ⟨⟨rest, rfl⟩, within, rfl, makes.congr rfl rfl⟩
      | error failure =>
          rw [result] at makes
          rw [whenFailed failure result] at makes
          -- The notice between the two parts is neither a call nor a pause.
          have isWhole :=
            (outside_append (ask fetcher patience address state).events
              (.notice (.addressFailed address failure) ::
                (askEach fetcher patience failure rest
                  (ask fetcher patience address state).state).events))
          rcases inductionHypothesis failure
              (ask fetcher patience address state).state with
            ⟨passed, answering, again, later, text, answered⟩ | ⟨later, givenUp⟩
          · refine
              .inl ⟨address :: passed, answering, again,
                failures ++ failure :: later, text, ?_⟩
            refine answered.behind makes ?_ ?_ ?_
            · exact isWhole
            · rfl
            · rfl
          · refine .inr ⟨failures ++ failure :: later, ?_⟩
            refine givenUp.behind makes ?_ ?_ ?_
            · exact isWhole
            · rfl
            · rfl

namespace Answered

variable {fetcher : Fetcher σ} {patience : Patience} {addresses : List String}
variable {state : σ} {asked : Download σ} {passed : List String} {address text : String}
variable {again : Nat} {failures : List Failure}
variable
  (answered :
    Answered fetcher patience addresses state asked passed address again failures text)
include answered

/-- The addresses that failed are called as often as allowed, and one more is. -/
theorem calls_eq :
    calls asked.events =
      passed.flatMap (List.replicate (patience.retries + 1)) ++
        List.replicate (again + 1) address := by
  rw [← calls_outside, answered.makes.outside_eq, calls_append,
    calls_flatMap_attempts, calls_attempts]

/-- All calls but the last one fail. -/
theorem length_failures :
    failures.length = passed.length * (patience.retries + 1) + again := by
  have eachReplied := length_repliesTo fetcher (calls asked.events) state
  rw [answered.makes.replies_eq, answered.calls_eq, List.length_append,
    List.length_append, length_flatMap_replicate, List.length_map,
    List.length_replicate] at eachReplied
  exact Nat.succ.inj eachReplied

/-- There is a pause after each failure but the last ones of addresses given up on. -/
theorem pausedIn_eq :
    pausedIn asked.events =
      patience.delay * (failures.length - passed.length) := by
  have waits :
      passed.length * patience.retries + again =
        failures.length - passed.length := by
    rw [answered.length_failures, Nat.mul_succ]
    omega
  rw [← pausedIn_outside, answered.makes.outside_eq, pausedIn_append,
    pausedIn_flatMap_attempts, pausedIn_attempts, ← Nat.mul_add, waits]

end Answered

namespace GivenUp

variable {fetcher : Fetcher σ} {patience : Patience} {otherwise : Failure}
variable {addresses : List String} {state : σ} {asked : Download σ}
variable {failures : List Failure}
variable (givenUp : GivenUp fetcher patience otherwise addresses state asked failures)
include givenUp

/-- All addresses are called as often as allowed. -/
theorem calls_eq :
    calls asked.events =
      addresses.flatMap (List.replicate (patience.retries + 1)) := by
  rw [← calls_outside, givenUp.makes.outside_eq, calls_flatMap_attempts]

/-- All calls fail. -/
theorem length_failures :
    failures.length = addresses.length * (patience.retries + 1) := by
  have eachReplied := length_repliesTo fetcher (calls asked.events) state
  rwa [givenUp.makes.replies_eq, givenUp.calls_eq, length_flatMap_replicate,
    List.length_map] at eachReplied

/-- There is a pause after each failure but the last one of each address. -/
theorem pausedIn_eq :
    pausedIn asked.events =
      patience.delay * (failures.length - addresses.length) := by
  have waits :
      addresses.length * patience.retries = failures.length - addresses.length := by
    rw [givenUp.length_failures, Nat.mul_succ]
    omega
  rw [← pausedIn_outside, givenUp.makes.outside_eq, pausedIn_flatMap_attempts, waits]

end GivenUp

/--
A download calls its addresses in order. Each address before the one that answers is
called once and then as often again as the policy says, the one that answers until it
does, and none after it. The result is the first text, or else the failure of the last
call. Pauses stand before repeated calls alone: the time paused is one delay for each
call that failed, less one for each address that was given up on.
-/
theorem download_calls_in_order
    (fetcher : Fetcher σ)
    (policy : RetryPolicy)
    (delay : Nat)
    (addresses : List String)
    (state : σ) :
    let retries := policy.retries
    let asked := download fetcher { retries, delay } addresses state
    let replies := repliesTo fetcher (calls asked.events) state
    asked.state = stateAfter fetcher (calls asked.events) state ∧
      ((∃ (passed later : List String) (address text : String) (again : Nat)
          (failures : List Failure),
          addresses = passed ++ address :: later ∧
            again ≤ retries ∧
            outside asked.events =
              passed.flatMap (attempts delay retries) ++
                attempts delay again address ∧
            calls asked.events =
              passed.flatMap (List.replicate (retries + 1)) ++
                List.replicate (again + 1) address ∧
            replies = failures.map .error ++ [.ok text] ∧
            failures.length = passed.length * (retries + 1) + again ∧
            asked.result = .ok text ∧
            pausedIn asked.events = delay * (failures.length - passed.length)) ∨
        ∃ failures : List Failure,
          outside asked.events = addresses.flatMap (attempts delay retries) ∧
            calls asked.events =
              addresses.flatMap (List.replicate (retries + 1)) ∧
            replies = failures.map .error ∧
            failures.length = addresses.length * (retries + 1) ∧
            asked.result =
              .error (failures.getLast?.getD (.network .noAddress)) ∧
            pausedIn asked.events =
              delay * (failures.length - addresses.length)) := by
  intro retries asked replies
  have ends :=
    askEach_ends fetcher { retries, delay } (.network .noAddress) addresses state
  rcases ends with
    ⟨passed, address, again, failures, text, answered⟩ | ⟨failures, givenUp⟩
  · obtain ⟨later, isFirst⟩ := answered.isFirst
    exact
      ⟨answered.makes.state_eq,
        .inl ⟨passed, later, address, text, again, failures, isFirst,
          answered.again_le, answered.makes.outside_eq, answered.calls_eq,
          answered.makes.replies_eq, answered.length_failures, answered.result_eq,
          answered.pausedIn_eq⟩⟩
  · exact
      ⟨givenUp.makes.state_eq,
        .inr ⟨failures, givenUp.makes.outside_eq, givenUp.calls_eq,
          givenUp.makes.replies_eq, givenUp.length_failures, givenUp.result_eq,
          givenUp.pausedIn_eq⟩⟩

end Untrack.Rules
