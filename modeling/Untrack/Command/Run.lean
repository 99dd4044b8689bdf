import Untrack.Command.Arguments
import Untrack.Link.Extract
import Untrack.Service

namespace Untrack.Command

/-!
# Running the command

The command cleans the links it is given, one after another. An argument without
a usable link is passed over with a complaint; a link that cannot be cleaned for
want of rules ends the run. The exit code tells whether all went well.
-/

/-- What a run wrote, where, and how it ended. -/
structure Report where
  exitCode : Nat
  printed : List String
  complaints : List String
  notices : List Notice
  deriving Repr, DecidableEq

/-- The lines for a failure that ends a run, with what caused it. -/
def errorLines (text : String) (cause : Option String) : List String :=
  ("Error: " ++ text) ::
    (cause.map fun cause => ["", "Caused by:", "    " ++ cause]).getD []

/-- A run that fails before any link is looked at. -/
def Report.failed (text cause : String) (notices : List Notice) : Report where
  exitCode := 1
  printed := []
  complaints := errorLines text (some cause)
  notices

/-- The configuration that some options describe. -/
def Options.config (options : Options) : Config :=
  { Config.standard with
    addresses :=
      if options.addresses.isEmpty then Config.standard.addresses
      else options.addresses
    refreshInterval := Config.hours options.refreshHours
    timeout := options.timeout
    retry := RetryPolicy.ofRetries options.retries }

/-- The level from which on notices go into the log. -/
def Options.threshold (options : Options) : Level :=
  if options.isVerbose then .debug else options.level

/-- What links come to: the code and the output, and the transport's state. -/
structure Progress (σ : Type) where
  report : Report
  state : σ

/-- The report of a run that has come to the end of its links. -/
def Report.finished (hasInvalid : Bool) : Report :=
  if hasInvalid then
    { exitCode := 1
      printed := []
      complaints :=
        errorLines "some inputs did not contain a valid link" none
      notices := [] }
  else
    { exitCode := 0, printed := [], complaints := [], notices := [] }

/--
Clean links one after another. `clock` gives the time at which each link is
taken up, by its number, and `hasInvalid` tells whether one before was invalid.
-/
def cleanLinks
    {σ : Type}
    (transport : Http.Transport σ)
    (clock : Nat → Nat) :
    (links : List String) → (hasInvalid : Bool) → (number : Nat) → Service → σ →
      Progress σ
  | [], hasInvalid, _, _, state => { report := .finished hasInvalid, state }
  | argument :: rest, hasInvalid, number, service, state =>
      match Link.resolve argument.toList with
      | .error unresolved =>
          let later := cleanLinks transport clock rest true (number + 1) service state
          { later with
            report :=
              { later.report with
                complaints :=
                  ("Invalid link: " ++ argument) :: later.report.complaints
                notices := .reported unresolved.message :: later.report.notices } }
      | .ok link =>
          let answer :=
            service.strip transport (clock number) (String.ofList link) state
          match answer.result with
          | .error failure =>
              { report :=
                  { exitCode := 1
                    printed := []
                    complaints :=
                      errorLines
                        ("Cannot strip trackers right now: " ++ failure.message)
                        none
                    notices :=
                      notices answer.events ++ [.reported failure.message] }
                state := answer.state }
          | .ok cleaned =>
              let later :=
                cleanLinks transport clock rest hasInvalid (number + 1)
                  answer.service answer.state
              { later with
                report :=
                  { later.report with
                    printed :=
                      ("Link without trackers: " ++ cleaned) ::
                        later.report.printed
                    notices := notices answer.events ++ later.report.notices } }

/-- Clean the links of some options with a service of their configuration. -/
def cleanAll
    {σ : Type}
    (transport : Http.Transport σ)
    (clock : Nat → Nat)
    (options : Options)
    (state : σ) :
    Progress σ :=
  let configured := Notice.configured options.config.text
  match Service.ofConfig options.config with
  | .error failure =>
      { report :=
          .failed "failed to build cleaner" failure.message [configured]
        state }
  | .ok service =>
      let progress :=
        cleanLinks transport clock options.links false 0 service state
      { progress with
        report :=
          { progress.report with
            notices := configured :: progress.report.notices } }

/-- The log goes to one of the two standard streams. -/
def isStream (location : String) : Bool :=
  location = "stdout" || location = "stderr"

/--
Run the command. `fault?` tells why a file cannot be opened for the log, if it
cannot; the notices of the report are those that reach the log.
-/
def run
    {σ : Type}
    (fault? : String → Option String)
    (transport : Http.Transport σ)
    (clock : Nat → Nat)
    (options : Options)
    (state : σ) :
    Progress σ :=
  let fault :=
    if isStream options.logLocation then none else fault? options.logLocation
  match fault with
  | some cause =>
      { report :=
          .failed ("failed to open log file " ++ options.logLocation) cause []
        state }
  | none =>
      let progress := cleanAll transport clock options state
      { progress with
        report :=
          { progress.report with
            notices :=
              progress.report.notices.filter fun notice =>
                options.threshold.rank ≤ notice.level.rank } }

/-- The line that names the program and its version. -/
def versionLine : String :=
  Config.programName ++ " " ++ Config.version

/-- The lines that explain the command. -/
def helpLines : List String :=
  ["Remove tracking metadata from links using ClearURLs rules",
    "",
    "Usage: " ++ Config.programName ++ " [OPTIONS] <LINKS>...",
    "",
    "Options:"] ++
    Setting.all.map (fun setting => "      --" ++ setting.name ++ " <VALUE>") ++
    ["  -v, --verbose", "  -h, --help", "  -V, --version"]

/-- What is written where the arguments are not followed. -/
def Stop.report : Stop → Report
  | .misuse => { exitCode := 2, printed := [], complaints := [], notices := [] }
  | .version =>
      { exitCode := 0, printed := [versionLine], complaints := [], notices := [] }
  | .help =>
      { exitCode := 0, printed := helpLines, complaints := [], notices := [] }

end Untrack.Command
