import Untrack.Command.Run
import Untrack.Proofs.Registry.Failures

namespace Untrack

open Untrack.Cleaner (Call Turn)

/-!
# What a run of the command prints

A run takes up its arguments one after another. It passes over those without a
link, and the first link that cannot be cleaned ends it. This can only be the
first link of all: once one has been cleaned there are providers in force, and
then every later link is cleaned too, whatever the servers send meanwhile. So a
run prints a line for each link that it was given, or none at all.
-/

namespace Service

variable {σ : Type} (transport : Http.Transport σ) (service : Service) (now : Nat)
  (link : String) (state : σ)

/-- What a service answers follows from the refresh that its registry makes first. -/
private theorem strip_concludes :
    let attempt :=
      Turn.attempt (service.client.fetcher transport) ⟨.strip link, now⟩
        service.registry state
    let answer := service.strip transport now link state
    answer.result.map .cleaned =
        (Call.strip link).conclude attempt.result attempt.registry.providers ∧
      answer.service.registry = attempt.registry := by
  have concludes :=
    Turn.answer_concludes (service.client.fetcher transport) ⟨.strip link, now⟩
      service.registry state
  exact ⟨concludes.result, concludes.registry⟩

/-- A link is cleaned just if there are providers in force afterwards. -/
theorem exists_strip_eq_ok_iff :
    (∃ cleaned,
        (service.strip transport now link state).result = .ok cleaned) ↔
      (service.strip transport now link state).service.registry.providers ≠ [] := by
  obtain ⟨result, registry⟩ := strip_concludes transport service now link state
  have noneLeft (failure : Failure) :=
    @Turn.attempt_of_error _ (service.client.fetcher transport)
      ⟨.strip link, now⟩ service.registry state failure
  have fails :
      (∃ failure, (Call.strip link).conclude _ _ = .error failure) ↔ _ :=
    (Cleaner.Call.conclude_strip_eq_error_iff noneLeft).1
  rw [← result] at fails
  rw [registry, Ne, ← fails]
  cases (service.strip transport now link state).result <;> simp [Except.map]

/-- With providers in force a link is cleaned. -/
theorem exists_strip_eq_ok
    (hasProviders : service.registry.providers ≠ []) :
    ∃ cleaned, (service.strip transport now link state).result = .ok cleaned := by
  rw [exists_strip_eq_ok_iff, (strip_concludes transport service now link state).2]
  exact (Turn.attempt_goes_on _ _ _ state hasProviders).2

end Service

namespace Command

/-- The argument is a link that can be cleaned, or has one in it. -/
def isResolvable (argument : String) : Bool :=
  (Link.resolve argument.toList).toOption.isSome

/-- The line for a link that was cleaned. -/
def cleanedLine (cleaned : String) : String :=
  "Link without trackers: " ++ cleaned

/-- The line for an argument without a link. -/
def invalidLine (argument : String) : String :=
  "Invalid link: " ++ argument

/-- The lines for a link that could not be cleaned. -/
def stopLines (failure : Failure) : List String :=
  errorLines ("Cannot strip trackers right now: " ++ failure.message) none

/--
What a service answers to the links of some arguments, each with the argument,
if it is asked for all of them whatever it answers.
-/
def answers
    {σ : Type}
    (transport : Http.Transport σ)
    (clock : Nat → Nat) :
    (arguments : List String) → (number : Nat) → Service → σ →
      List (String × Except Failure String)
  | [], _, _, _ => []
  | argument :: rest, number, service, state =>
      match Link.resolve argument.toList with
      | .error _ => answers transport clock rest (number + 1) service state
      | .ok link =>
          let answer :=
            service.strip transport (clock number) (String.ofList link) state
          (argument, answer.result) ::
            answers transport clock rest (number + 1) answer.service answer.state

/-- The run has had a turn for every argument, and cleaned the link of each that has one. -/
structure Report.CleansAll
    (report : Report)
    (arguments : List String)
    (hasInvalid : Bool)
    (results : List (Except Failure String)) : Prop where
  printed :
    ∃ cleaned : List String,
      results = cleaned.map .ok ∧ report.printed = cleaned.map cleanedLine
  complaints :
    report.complaints =
      (arguments.filter (!isResolvable ·)).map invalidLine ++
        (Report.finished (hasInvalid || !arguments.all isResolvable)).complaints
  exitCode :
    report.exitCode =
      (Report.finished (hasInvalid || !arguments.all isResolvable)).exitCode

/-- The run has printed nothing, and ended at the first argument with a link. -/
structure Report.StopsAtFirst
    (report : Report)
    (arguments : List String)
    (results : List (String × Except Failure String)) : Prop where
  stop :
    ∃ skipped argument rest failure,
      arguments = skipped ++ argument :: rest ∧
        (∀ other ∈ skipped, isResolvable other = false) ∧
        isResolvable argument = true ∧
        results.head? = some (argument, .error failure) ∧
        report.complaints = skipped.map invalidLine ++ stopLines failure
  printed :
    report.printed = []
  exitCode :
    report.exitCode = 1

/-- Whether an argument is resolvable, by what resolving it gave. -/
private theorem isResolvable_eq
    {argument : String}
    {resolved : Except Link.Unresolved (List Char)}
    (same : Link.resolve argument.toList = resolved) :
    isResolvable argument = resolved.toOption.isSome := by
  rw [isResolvable, same]

/-! ## One argument -/

section

variable {report : Report} {argument : String} {rest : List String}
  {hasInvalid : Bool} {results : List (Except Failure String)}

/-- An argument without a link comes before a run that cleans all others. -/
theorem Report.CleansAll.skip
    (later : report.CleansAll rest true results)
    (notResolvable : isResolvable argument = false)
    (notices : List Notice) :
    Report.CleansAll
      { report with
        complaints := invalidLine argument :: report.complaints
        notices }
      (argument :: rest) hasInvalid results where
  printed :=
    later.printed
  complaints := by
    simp [later.complaints, notResolvable]
  exitCode := by
    simp [later.exitCode, notResolvable]

/-- A link that is cleaned comes before a run that cleans all others. -/
theorem Report.CleansAll.clean
    (later : report.CleansAll rest hasInvalid results)
    (resolvable : isResolvable argument = true)
    (cleaned : String)
    (notices : List Notice) :
    Report.CleansAll
      { report with
        printed := cleanedLine cleaned :: report.printed
        notices }
      (argument :: rest) hasInvalid (.ok cleaned :: results) where
  printed := by
    obtain ⟨others, same, printed⟩ := later.printed
    exact ⟨cleaned :: others, by rw [same]; rfl, by rw [printed]; rfl⟩
  complaints := by
    simp [later.complaints, resolvable]
  exitCode := by
    simp [later.exitCode, resolvable]

/-- An argument without a link comes before a run that stops at the first one. -/
theorem Report.StopsAtFirst.skip
    {results : List (String × Except Failure String)}
    (later : report.StopsAtFirst rest results)
    (notResolvable : isResolvable argument = false)
    (notices : List Notice) :
    Report.StopsAtFirst
      { report with
        complaints := invalidLine argument :: report.complaints
        notices }
      (argument :: rest) results where
  stop := by
    obtain ⟨skipped, first, others, failure, shape, noneBefore, isFirst,
      answered, complaints⟩ := later.stop
    refine
      ⟨argument :: skipped, first, others, failure, by rw [shape]; rfl, ?_,
        isFirst, answered, by rw [complaints]; rfl⟩
    simpa [notResolvable] using noneBefore
  printed :=
    later.printed
  exitCode :=
    later.exitCode

end

/-! ## All arguments -/

section

variable {σ : Type} (transport : Http.Transport σ) (clock : Nat → Nat)

/-- The answers are those to the arguments with a link, in their order. -/
theorem map_fst_answers
    (arguments : List String)
    (number : Nat)
    (service : Service)
    (state : σ) :
    (answers transport clock arguments number service state).map Prod.fst =
      arguments.filter isResolvable := by
  induction arguments generalizing number service state with
  | nil =>
      rfl
  | cons argument rest inductionHypothesis =>
      rw [answers]
      cases resolved : Link.resolve argument.toList with
      | error unresolved =>
          rw [List.filter_cons_of_neg (by simp [isResolvable_eq resolved, Except.toOption])]
          exact inductionHypothesis _ _ _
      | ok link =>
          rw [List.filter_cons_of_pos (by simp [isResolvable_eq resolved, Except.toOption]),
            List.map_cons, inductionHypothesis]

/-- With providers in force every link is cleaned. -/
theorem cleansAll_of_providers
    (arguments : List String)
    (hasInvalid : Bool)
    (number : Nat)
    {service : Service}
    (state : σ)
    (hasProviders : service.registry.providers ≠ []) :
    (cleanLinks transport clock arguments hasInvalid number service
        state).report.CleansAll arguments hasInvalid
      ((answers transport clock arguments number service state).map Prod.snd) := by
  induction arguments generalizing hasInvalid number service state with
  | nil =>
      cases hasInvalid <;> exact ⟨⟨[], rfl, rfl⟩, rfl, rfl⟩
  | cons argument rest inductionHypothesis =>
      rw [cleanLinks, answers]
      cases resolved : Link.resolve argument.toList with
      | error unresolved =>
          have later := inductionHypothesis true (number + 1) state hasProviders
          exact later.skip (isResolvable_eq resolved) _
      | ok link =>
          obtain ⟨cleaned, succeeds⟩ :=
            service.exists_strip_eq_ok transport (clock number)
              (String.ofList link) state hasProviders
          have stillProviders :=
            (service.exists_strip_eq_ok_iff transport (clock number)
              (String.ofList link) state).mp ⟨cleaned, succeeds⟩
          have later :=
            inductionHypothesis hasInvalid (number + 1)
              (service.strip transport (clock number) (String.ofList link)
                state).state
              stillProviders
          simp only [succeeds, List.map_cons]
          exact later.clean (isResolvable_eq resolved) cleaned _

/-- Every link is cleaned, or the first one is not and ends the run. -/
theorem cleansAll_or_stopsAtFirst
    (arguments : List String)
    (hasInvalid : Bool)
    (number : Nat)
    (service : Service)
    (state : σ) :
    let report :=
      (cleanLinks transport clock arguments hasInvalid number service state).report
    let results := answers transport clock arguments number service state
    report.CleansAll arguments hasInvalid (results.map Prod.snd) ∨
      report.StopsAtFirst arguments results := by
  induction arguments generalizing hasInvalid number with
  | nil =>
      left
      cases hasInvalid <;> exact ⟨⟨[], rfl, rfl⟩, rfl, rfl⟩
  | cons argument rest inductionHypothesis =>
      rw [cleanLinks, answers]
      cases resolved : Link.resolve argument.toList with
      | error unresolved =>
          rcases inductionHypothesis true (number + 1) with later | later
          · exact .inl (later.skip (isResolvable_eq resolved) _)
          · exact .inr (later.skip (isResolvable_eq resolved) _)
      | ok link =>
          cases result :
              (service.strip transport (clock number) (String.ofList link)
                state).result with
          | error failure =>
              right
              simp only [result]
              exact
                ⟨⟨[], argument, rest, failure, rfl, nofun,
                  isResolvable_eq resolved, rfl, rfl⟩, rfl, rfl⟩
          | ok cleaned =>
              left
              -- From here on there are providers in force, so nothing fails.
              have hasProviders :=
                (service.exists_strip_eq_ok_iff transport (clock number)
                  (String.ofList link) state).mp ⟨cleaned, result⟩
              have later :=
                cleansAll_of_providers transport clock rest hasInvalid
                  (number + 1)
                  (service.strip transport (clock number) (String.ofList link)
                    state).state
                  hasProviders
              simp only [result, List.map_cons]
              exact later.clean (isResolvable_eq resolved) cleaned _

end

/-- Whatever the options of the command, there is a service of their configuration. -/
theorem Options.exists_service (options : Options) :
    ∃ service, Service.ofConfig options.config = .ok service := by
  have isAgent : Http.Client.isAgent options.config.userAgent = true := by
    have standardAgent : Http.Client.isAgent Config.standard.userAgent = true := by
      decide +kernel
    exact standardAgent
  rw [Service.ofConfig, Http.Client.ofConfig, if_pos isAgent]
  exact ⟨_, rfl⟩

/--
A run prints a line for every argument with a link, in their order, or it prints
nothing and ends at the first of them. Either way it complains once about every
argument without a link that it comes to. It succeeds just if every argument has
a link and the first of them is cleaned.
-/
theorem output_all_or_nothing
    {σ : Type}
    (fault? : String → Option String)
    (transport : Http.Transport σ)
    (clock : Nat → Nat)
    (options : Options)
    (state : σ)
    {service : Service}
    (logOpens :
      isStream options.logLocation = true ∨ fault? options.logLocation = none)
    (built : Service.ofConfig options.config = .ok service)
    (hasLinks : options.links ≠ []) :
    let report := (run fault? transport clock options state).report
    let results := answers transport clock options.links 0 service state
    results.map Prod.fst = options.links.filter isResolvable ∧
      (report.CleansAll options.links false (results.map Prod.snd) ∨
        report.StopsAtFirst options.links results) ∧
      (report.exitCode = 0 ↔
        (∀ argument ∈ options.links, isResolvable argument = true) ∧
          ∃ cleaned, (results.map Prod.snd).head? = some (.ok cleaned)) := by
  intro report results
  have arguments : results.map Prod.fst = options.links.filter isResolvable :=
    map_fst_answers transport clock options.links 0 service state
  have outcome :
      report.CleansAll options.links false (results.map Prod.snd) ∨
        report.StopsAtFirst options.links results := by
    have noFault :
        (if isStream options.logLocation then none
          else fault? options.logLocation) = none := by
      rcases logOpens with isStandard | opens
      · rw [if_pos isStandard]
      · rw [opens, ite_self]
    simp only [report, run, noFault, cleanAll, built]
    rcases cleansAll_or_stopsAtFirst transport clock options.links false 0
        service state with all | stops
    · exact .inl ⟨all.printed, all.complaints, all.exitCode⟩
    · exact .inr ⟨stops.stop, stops.printed, stops.exitCode⟩
  refine ⟨arguments, outcome, ?_⟩
  rcases outcome with all | stops
  · rw [all.exitCode, Bool.false_or]
    obtain ⟨cleaned, same, -⟩ := all.printed
    by_cases resolvable : options.links.all isResolvable = true
    · have everyResolvable := List.all_eq_true.mp resolvable
      rw [List.filter_eq_self.mpr everyResolvable] at arguments
      -- There is a first argument, so there is a first answer.
      have someCleaned : cleaned ≠ [] := by
        rintro rfl
        rw [List.map_nil, List.map_eq_nil_iff] at same
        rw [same, List.map_nil] at arguments
        exact hasLinks arguments.symm
      obtain ⟨first, others, rfl⟩ := List.exists_cons_of_ne_nil someCleaned
      rw [same, resolvable]
      exact ⟨fun _ => ⟨everyResolvable, first, rfl⟩, fun _ => rfl⟩
    · have notEvery : ¬ ∀ argument ∈ options.links, isResolvable argument = true := by
        simpa using resolvable
      simp [resolvable, notEvery, Report.finished]
  · obtain ⟨skipped, argument, rest, failure, -, -, -, answered, -⟩ := stops.stop
    simp [stops.exitCode, List.head?_map, answered]

/-- A server that answers once, with rules for one site, and then no more. -/
def answersOnce : Http.Transport Bool
  | _, true =>
      (some
          { status := 200
            location := none
            body := some <|
              Text.Utf8.encode
                "\x7b\"providers\":\x7b\"a\":\x7b\"urlPattern\":\"\",\"rules\":[\"x\"]\x7d\x7d\x7d".toList },
        false)
  | _, false => (none, false)

/--
With rules that are stale at once, a server that answers no more does not stop a
run that has cleaned a link.
-/
theorem output_all_or_nothing_after_one_answer :
    let options : Options :=
      { Options.standard with
        links := ["no link", "http://a/?x=1&y=2", "(http://b?x=3)"]
        addresses := ["http://r"]
        refreshHours := 0
        retries := 0 }
    let report := (run (fun _ => none) answersOnce id options true).report
    (∃ results : List (Except Failure String),
        report.CleansAll options.links false results) ∧
      report.exitCode = 1 ∧
      report.printed =
        ["Link without trackers: http://a/?y=2",
          "Link without trackers: http://b"] := by
  intro options report
  have output :
      report.exitCode = 1 ∧
        report.printed =
          ["Link without trackers: http://a/?y=2",
            "Link without trackers: http://b"] := by
    decide +kernel
  refine ⟨?_, output⟩
  obtain ⟨service, built⟩ := options.exists_service
  have hasLinks : options.links ≠ [] := by
    simp [options]
  obtain ⟨-, all | stops, -⟩ :=
    output_all_or_nothing (fun _ => none) answersOnce id options true (.inr rfl)
      built hasLinks
  · exact ⟨_, all⟩
  · cases output.2.symm.trans stops.printed

end Command

end Untrack
