import Untrack.Digest.Sha256
import Untrack.Rules.Download
import Untrack.Text.Blank

namespace Untrack.Rules

/-!
# Where rules come from

A source remembers the checksum of the text it last downloaded, and so tells a
text that is new from one that it has seen. White space around a text does not
count, and a text of nothing else is no text.
-/

/-- Where rules come from, and the checksum of those it gave last. -/
structure Source where
  addresses : List String
  patience : Patience
  checksum : Option String
  deriving Repr, DecidableEq

/-- What there was at the source. -/
inductive Found where
  | updated (text : String)
  | unchanged
  | empty
  deriving Repr, DecidableEq

namespace Source

/-- A source that has given nothing yet. -/
def ofConfig (config : Config) : Source where
  addresses := config.addresses
  patience := { retries := config.retry.retries, delay := config.retryDelay }
  checksum := none

/-- Forget what was given last, so that any text is new. -/
def reset (source : Source) : Source :=
  { source with checksum := none }

/-- Compare a downloaded text with the last one, and remember it. -/
def receive (source : Source) (body : String) : Found × Source :=
  let text := Text.trim body
  let checksum := Digest.Sha256.checksum text
  if text.isEmpty then
    (.empty, source)
  else if source.checksum = some checksum then
    (.unchanged, source)
  else
    (.updated text, { source with checksum := some checksum })

/-- What a log is told about a text that was downloaded. -/
def noticeOf (body : String) : Found → Notice
  | .empty => .emptyDownload
  | .unchanged => .unchanged (Digest.Sha256.checksum (Text.trim body))
  | .updated text => .updated (Digest.Sha256.checksum text)

end Source

/-- What fetching gave, the source and the fetcher's state after it, and events. -/
structure Fetch (σ : Type) where
  result : Except Failure Found
  source : Source
  state : σ
  events : List Event

/-- Download the rules of a source; a failure leaves it as it was. -/
def Source.fetch
    {σ : Type}
    (fetcher : Fetcher σ)
    (source : Source)
    (state : σ) :
    Fetch σ :=
  let asked := download fetcher source.patience source.addresses state
  match asked.result with
  | .error failure =>
      { result := .error failure
        source
        state := asked.state
        events := .notice .downloadStarted :: asked.events }
  | .ok body =>
      let (found, source) := source.receive body
      { result := .ok found
        source
        state := asked.state
        events :=
          .notice .downloadStarted :: asked.events ++
            [.notice (Source.noticeOf body found)] }

end Untrack.Rules
