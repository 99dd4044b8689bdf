import Untrack.Config
import Untrack.Notice

namespace Untrack.Rules

/-!
# Downloading rules

A fetcher asks one address for its text and may change with every call. An
address that fails is asked again as often as the policy says, with a pause
before each further call, and then the next address has its turn. The first text
is the result; if there is none, the failure of the last call is.
-/

/-- Something that asks an address for its text, with a state of its own. -/
abbrev Fetcher (σ : Type) := String → σ → Except Failure String × σ

/-- What a download gave, the state it left, and what happened on the way. -/
structure Download (σ : Type) where
  result : Except Failure String
  state : σ
  events : List Event

/-- How patiently addresses are asked. -/
structure Patience where
  retries : Nat
  delay : Nat
  deriving Repr, DecidableEq

/-- Ask one address, and `left` more times while it fails. -/
def askAgain
    {σ : Type}
    (fetcher : Fetcher σ)
    (patience : Patience)
    (address : String) :
    (left : Nat) → σ → Download σ
  | 0, state =>
      let (result, state) := fetcher address state
      { result, state, events := [.call address] }
  | left + 1, state =>
      match fetcher address state with
      | (.ok text, state) =>
          { result := .ok text, state, events := [.call address] }
      | (.error _, state) =>
          let rest := askAgain fetcher patience address left state
          { rest with
            events :=
              .call address ::
                .notice (.retrying (patience.retries - left) patience.retries) ::
                .pause patience.delay :: rest.events }

/-- Ask one address as often as patience allows. -/
def ask
    {σ : Type}
    (fetcher : Fetcher σ)
    (patience : Patience)
    (address : String)
    (state : σ) :
    Download σ :=
  askAgain fetcher patience address patience.retries state

/-- Ask some addresses in order, after a failure that stands if all of them fail. -/
def askEach
    {σ : Type}
    (fetcher : Fetcher σ)
    (patience : Patience) :
    (failure : Failure) → (addresses : List String) → σ → Download σ
  | failure, [], state => { result := .error failure, state, events := [] }
  | _, address :: rest, state =>
      let asked := ask fetcher patience address state
      match asked.result with
      | .ok text =>
          { result := .ok text
            state := asked.state
            events := .notice (.tryingAddress address) :: asked.events }
      | .error failure =>
          let later := askEach fetcher patience failure rest asked.state
          { later with
            events :=
              .notice (.tryingAddress address) :: asked.events ++
                .notice (.addressFailed address failure) :: later.events }

/-- Ask some addresses in order until one of them answers. -/
def download
    {σ : Type}
    (fetcher : Fetcher σ)
    (patience : Patience)
    (addresses : List String)
    (state : σ) :
    Download σ :=
  askEach fetcher patience (.network .noAddress) addresses state

end Untrack.Rules
