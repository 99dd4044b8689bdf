import Untrack.Rules.Registry

namespace Untrack

/-!
# The cleaner

A link is cleaned by every provider that it belongs to, in their order. Which
ones those are is settled by the link as it was given; each provider then works
on what the one before it left.
-/

namespace Cleaner

/-- The text of a redirection that is still encoded when decoding gives up. -/
def undecoded (provider : Provider) (link : List Char) : List Notice :=
  match provider.target? (provider.strip link) with
  | none => []
  | some target =>
      let decoded := Text.Percent.decodeFully target
      if Text.Percent.isEncoded decoded then
        [.stillEncoded (String.ofList decoded)]
      else
        []

/-- Clean a link with some providers in order. -/
def apply (providers : List Provider) (link : List Char) : List Char :=
  providers.foldl (fun link provider => provider.clean link) link

/-- What a log is told while some providers clean a link. -/
def applied : List Provider → List Char → List Notice
  | [], _ => []
  | provider :: rest, link =>
      .applying provider.name :: undecoded provider link ++
        applied rest (provider.clean link)

/-- The providers that a link belongs to. -/
def matching (providers : List Provider) (link : List Char) : List Provider :=
  providers.filter (·.isMatch link)

/-- Clean a link with those of some providers that it belongs to. -/
def clean (providers : List Provider) (link : List Char) : List Char :=
  apply (matching providers link) link

/-- Clean a link with the providers in force, refreshed first if they are stale. -/
def strip
    {σ : Type}
    (fetcher : Rules.Fetcher σ)
    (registry : Rules.Registry)
    (now : Nat)
    (link : String)
    (state : σ) :
    Rules.Answer σ (Except Failure String) :=
  let link := Text.trim link
  let answer := registry.ensureFresh fetcher now state
  match answer.result with
  | .error failure =>
      { answer with result := .error (.notLoaded link failure) }
  | .ok [] =>
      { answer with result := .error (.nothingLoaded link) }
  | .ok providers =>
      { answer with
        result := .ok (String.ofList (clean providers link.toList))
        events :=
          answer.events ++
            (applied (matching providers link.toList) link.toList).map .notice }

/-- Clean some links one after another, at one time. -/
def stripAll
    {σ : Type}
    (fetcher : Rules.Fetcher σ)
    (registry : Rules.Registry)
    (now : Nat) :
    (links : List String) → σ → Rules.Answer σ (List (Except Failure String))
  | [], state => { result := [], registry, state, events := [] }
  | link :: rest, state =>
      let first := strip fetcher registry now link state
      let later := stripAll fetcher first.registry now rest first.state
      { later with
        result := first.result :: later.result
        events := first.events ++ later.events }

end Cleaner

end Untrack
