import Untrack.Http.Status
import Untrack.Rules.Download
import Untrack.Text.Utf8
import Untrack.Url.Reader

namespace Untrack.Http

/-!
# Fetching over HTTP

A transport takes a request to its server and brings back the reply, if the
server can be reached at all. On top of one, a client asks an address for its
text: it follows redirections, takes any other reply as final, and reads the body
of one that succeeded. A body can break off, and then there is nothing to read.
-/

/-- A request for the page at an address. -/
structure Request where
  address : Url
  agent : String
  deriving Repr, DecidableEq

/-- What a server replied. -/
structure Reply where
  status : Nat
  location : Option String
  /-- The octets of the body, if all of them arrive. -/
  body : Option (List Nat)
  deriving Repr, DecidableEq

/-- Something that takes requests to servers, with a state of its own. -/
abbrev Transport (σ : Type) := Request → σ → Option Reply × σ

/-- A transport that reaches no server. -/
def unreachable {σ : Type} : Transport σ :=
  fun _ state => (none, state)

/-- A client, which makes itself known by the name of its agent. -/
structure Client where
  agent : String
  deriving Repr, DecidableEq

namespace Client

/-- A character that the name of an agent cannot hold. -/
def isControl (character : Char) : Bool :=
  (character.toNat < 0x20 && character != '\t') || character.toNat == 0x7F

/-- The name of an agent, which may be empty, has no control. -/
def isAgent (name : String) : Bool :=
  !name.toList.any isControl

/-- A client with the agent that a configuration names. -/
def ofConfig (config : Config) : Except Failure Client :=
  if isAgent config.userAgent then
    .ok { agent := config.userAgent }
  else
    .error (.request .build none)

/-- The redirections that are followed before a request is given up. -/
def maxRedirections : Nat := 10

/-- The address that a reply sends its request on to. -/
def next? (address : Url) (reply : Reply) : Option Url :=
  if isRedirect reply.status then
    reply.location.bind fun location => address.join? location.toList
  else
    none

/-- The text of a reply that is final. -/
def read (address : String) (reply : Reply) : Except Failure String :=
  if isSuccess reply.status then
    match reply.body with
    | some octets => .ok (String.ofList (Text.Utf8.decode octets))
    | none => .error (.request .body none)
  else
    .error (.network (.status address (statusLine reply.status)))

/-- Ask for a page and follow at most so many redirections. -/
def follow
    {σ : Type}
    (transport : Transport σ)
    (client : Client)
    (address : String) :
    (redirections : Nat) → Url → σ → Except Failure String × σ
  | redirections, url, state =>
      match transport { address := url, agent := client.agent } state with
      | (none, state) =>
          (.error (.request .send (some (String.ofList url.text))), state)
      | (some reply, state) =>
          match next? url reply, redirections with
          | none, _ => (read address reply, state)
          | some _, 0 =>
              (.error (.request .redirect (some (String.ofList url.text))), state)
          | some next, redirections + 1 =>
              if next.isWeb then
                follow transport client address redirections next state
              else
                (.error (.request .build (some (String.ofList next.text))), state)

/-- Ask an address for its text. -/
def fetcher
    {σ : Type}
    (transport : Transport σ)
    (client : Client) :
    Rules.Fetcher σ :=
  fun address state =>
    match Url.parse? address.toList with
    | none => (.error (.request .build none), state)
    | some url =>
        if url.isWeb && url.host.isSome then
          follow transport client address maxRedirections url state
        else
          (.error (.request .build (some (String.ofList url.text))), state)

end Client

end Untrack.Http
