import Untrack.Cleaner
import Untrack.Http.Client

namespace Untrack

/-!
# The cleaning service

A service is a registry together with the client that asks for its rules. A
program can share one service between all its parts: the first configuration that
makes one is in force from then on.
-/

/-- A registry and the client that asks for its rules. -/
structure Service where
  client : Http.Client
  registry : Rules.Registry
  deriving Repr

/-- What a call gave, the service and the transport's state after it, and events. -/
structure Service.Answer (κ σ α : Type) where
  result : α
  service : κ
  state : σ
  events : List Event

namespace Service

/-- The service that a configuration describes; nothing is asked for yet. -/
def ofConfig (config : Config) : Except Failure Service :=
  (Http.Client.ofConfig config).map fun client =>
    { client, registry := Rules.Registry.ofConfig config }

/-- Clean a link. -/
def strip
    {σ : Type}
    (transport : Http.Transport σ)
    (service : Service)
    (now : Nat)
    (link : String)
    (state : σ) :
    Answer Service σ (Except Failure String) :=
  let answer :=
    Cleaner.strip (service.client.fetcher transport) service.registry now link
      state
  { result := answer.result
    service := { service with registry := answer.registry }
    state := answer.state
    events := answer.events }

end Service

/-- The service that the parts of a program share, once there is one. -/
abbrev Shared := Option Service

namespace Shared

/-- Make the shared service, unless there is one. -/
def start (shared : Shared) (config : Config) :
    Except Failure Unit × Shared × List Notice :=
  match shared with
  | some service => (.ok (), some service, [.alreadyShared])
  | none =>
      match Service.ofConfig config with
      | .ok service => (.ok (), some service, [])
      | .error failure => (.error failure, none, [])

/-- Clean a link with the shared service, made with the standard settings if need be. -/
def strip
    {σ : Type}
    (transport : Http.Transport σ)
    (shared : Shared)
    (now : Nat)
    (link : String)
    (state : σ) :
    Service.Answer Shared σ (Except Failure String) :=
  match shared.getDM (Service.ofConfig Config.standard) with
  | .error failure =>
      { result := .error failure, service := shared, state, events := [] }
  | .ok service =>
      let answer := service.strip transport now link state
      { result := answer.result
        service := some answer.service
        state := answer.state
        events := answer.events }

end Shared

end Untrack
