import Untrack.Manifest.Catalog
import Untrack.Rules.Source

namespace Untrack.Rules

/-!
# The registry of providers

The registry holds the providers in force and when they were last refreshed. They
go stale after an interval. A refresh that fails, or that brings nothing new,
leaves the providers in force, and so once there are some there always are. As
long as there are none, no refresh counts, and the next call tries again.
-/

/-- The providers in force, and where new ones come from. -/
structure Registry where
  source : Source
  providers : List Provider
  refreshedAt : Option Nat
  interval : Nat
  deriving Repr

/-- What a call gave, the registry and the fetcher's state after it, and events. -/
structure Answer (σ α : Type) where
  result : α
  registry : Registry
  state : σ
  events : List Event

namespace Registry

/-- A registry that has loaded nothing yet. -/
def new (source : Source) (interval : Nat) : Registry where
  source
  providers := []
  refreshedAt := none
  interval

/-- The registry that a configuration describes. -/
def ofConfig (config : Config) : Registry :=
  new (Source.ofConfig config) config.refreshInterval

/-- The registry with some providers in force from the start. -/
def withProviders (registry : Registry) (providers : List Provider) : Registry :=
  { registry with providers }

/--
The providers were never refreshed, or not for as long as the interval. A clock
that has gone back since then counts as standing still.
-/
def isStale (registry : Registry) (now : Nat) : Bool :=
  match registry.refreshedAt with
  | none => true
  | some last => registry.interval ≤ now - last

/-- Record the time of a refresh, unless there are no providers. -/
def refreshed (registry : Registry) (now : Nat) : Registry :=
  if registry.providers.isEmpty then registry
  else { registry with refreshedAt := some now }

/-- What a refresh makes of a failure: it is fatal only without providers. -/
def keep
    (registry : Registry)
    (now : Nat)
    (failure : Failure) :
    Except Failure Unit × Registry × List Notice :=
  if registry.providers.isEmpty then
    (.error failure, registry, [])
  else
    (.ok (), registry.refreshed now,
      [.keepingOld registry.providers.length failure])

/-- What a refresh makes of the providers of a new text. -/
def install
    (registry : Registry)
    (now : Nat)
    (providers : List Provider) :
    Except Failure Unit × Registry × List Notice :=
  if providers.isEmpty then
    (.ok (), registry.refreshed now, [.nothingLoaded])
  else
    (.ok (), (registry.withProviders providers).refreshed now,
      [.loaded providers.length])

/--
What a refresh makes of what was found at the source. A text that does not
compile is forgotten, so that it is new again the next time.
-/
def settle
    (registry : Registry)
    (now : Nat) :
    Except Failure Found → Except Failure Unit × Registry × List Notice
  | .error failure => registry.keep now failure
  | .ok .empty => (.ok (), registry.refreshed now, [])
  | .ok .unchanged => (.ok (), registry.refreshed now, [])
  | .ok (.updated text) =>
      let compilation := Manifest.compile text
      let (result, registry, told) :=
        match compilation.result with
        | .ok providers => registry.install now providers
        | .error failure =>
            { registry with source := registry.source.reset }.keep now failure
      (result, registry, compilation.notices ++ told)

/-- Fetch the rules and put their providers in force. -/
def refresh
    {σ : Type}
    (fetcher : Fetcher σ)
    (registry : Registry)
    (now : Nat)
    (state : σ) :
    Answer σ (Except Failure Unit) :=
  let fetched := registry.source.fetch fetcher state
  let (result, registry, told) :=
    { registry with source := fetched.source }.settle now fetched.result
  { result
    registry
    state := fetched.state
    events := fetched.events ++ told.map .notice }

/-- The providers in force, refreshed first if they are stale. -/
def ensureFresh
    {σ : Type}
    (fetcher : Fetcher σ)
    (registry : Registry)
    (now : Nat)
    (state : σ) :
    Answer σ (Except Failure (List Provider)) :=
  if registry.isStale now then
    let answer := registry.refresh fetcher now state
    { result := answer.result.map fun _ => answer.registry.providers
      registry := answer.registry
      state := answer.state
      events := .notice .outdated :: answer.events }
  else
    { result := .ok registry.providers, registry, state, events := [] }

end Registry

end Untrack.Rules
