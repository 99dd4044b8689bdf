import Untrack.Text.Quoted

namespace Untrack

/-!
# Configuration

What can be set: where the rules come from, how long they stay fresh, and how
patiently they are asked for. Times are whole milliseconds, apart from the
timeout of a request, which is in seconds.
-/

/-- How often an address that fails is asked again. -/
inductive RetryPolicy where
  | never
  | times (count : Nat)
  deriving Repr, DecidableEq

namespace RetryPolicy

/-- The number of calls after the first one. -/
def retries : RetryPolicy → Nat
  | .never => 0
  | .times count => count

/-- The policy that asks again so often, named in the plainest way. -/
def ofRetries : Nat → RetryPolicy
  | 0 => .never
  | count => .times count

/-- The policy as it is shown in a log. -/
def text : RetryPolicy → String
  | .never => "Never"
  | .times count => "Times(" ++ toString count ++ ")"

end RetryPolicy

/-- What can be set. -/
structure Config where
  addresses : List String
  refreshInterval : Nat
  timeout : Nat
  retry : RetryPolicy
  retryDelay : Nat
  userAgent : String
  deriving Repr, DecidableEq

namespace Config

/-- The greatest number of seconds that an interval can have. -/
def maxSeconds : Nat := 0xFFFFFFFFFFFFFFFF

/-- The milliseconds in some hours, or the most there can be. -/
def hours (count : Nat) : Nat :=
  min (count * 3600) maxSeconds * 1000

/-- The address at which the rules are published. -/
def publishedAddress : String :=
  "https://rules2.clearurls.xyz/data.minify.json"

/-- The address of a second copy, for when the first cannot be reached. -/
def secondAddress : String :=
  "https://gitlab.com/ClearURLs/rules/-/raw/master/data.min.json"

/-- The version of this program. -/
def version : String := "0.1.0"

/-- The name under which this program makes itself known. -/
def programName : String := "rsclearurls"

/-- What holds where nothing is set. -/
def standard : Config where
  addresses := [publishedAddress, secondAddress]
  refreshInterval := hours 24
  timeout := 30
  retry := .times 1
  retryDelay := 1000
  userAgent := programName ++ "/" ++ version

/-- A length of time in the largest of seconds and milliseconds that fits. -/
def durationText (millis : Nat) : String :=
  if millis = 0 then
    "0ns"
  else if millis < 1000 then
    toString millis ++ "ms"
  else
    let digits := (Nat.toDigits 10 (millis % 1000 + 1000)).drop 1
    let fraction := (digits.reverse.dropWhile (· = '0')).reverse
    toString (millis / 1000) ++
      (if fraction.isEmpty then "" else "." ++ String.ofList fraction) ++ "s"

/-- A configuration as it is shown in a log. -/
def text (config : Config) : String :=
  "CleanerConfig \x7b rules_urls: [" ++
    ", ".intercalate (config.addresses.map Text.Quoted.quote) ++
    "], refresh_interval: " ++ durationText config.refreshInterval ++
    ", http_timeout: " ++ toString config.timeout ++
    ", retry: " ++ config.retry.text ++
    ", retry_delay: " ++ durationText config.retryDelay ++
    ", user_agent: " ++ Text.Quoted.quote config.userAgent ++ " \x7d"

end Config

end Untrack
