import Untrack.Link.Parts
import Untrack.Link.Scheme
import Untrack.Pattern.Compiled
import Untrack.Text.Blank

namespace Untrack

/-!
# Rule providers

A provider says for one site which links are its own, which parameters of them
only track, and which links merely lead to another address. `clean` takes out
the tracking parameters of a link and then follows its redirection.
-/

/-- A provider with its patterns compiled. -/
structure Provider where
  name : String
  address : Pattern
  parameters : List Pattern
  redirections : List Pattern
  exceptions : List Pattern
  deriving Repr

/-- Why the patterns of a provider do not make one. -/
inductive Provider.Refusal where
  | pattern (fault : Pattern.Fault)
  | redirectionWithoutGroup (text : String)
  deriving Repr, DecidableEq

namespace Provider

/-- Compile redirections in order; each needs a group for its target. -/
def compileRedirections : List String → Except Refusal (List Pattern)
  | [] => .ok []
  | text :: texts =>
      match Pattern.anchored text with
      | .error fault => .error (.pattern fault)
      | .ok pattern =>
          if pattern.groups = 0 then
            .error (.redirectionWithoutGroup text)
          else
            (compileRedirections texts).map (pattern :: ·)

/--
Compile the patterns of a provider: its address, its exceptions, its parameter
rules and then its redirections. The first fault decides.
-/
def compile
    (name address : String)
    (parameters redirections exceptions : List String) :
    Except Refusal Provider := do
  let address ← (Pattern.anchored address).mapError .pattern
  let exceptions ←
    (Pattern.ofTexts
      (exceptions.map fun text => Pattern.anchoredText text.toList)).mapError
        .pattern
  let parameters ←
    (Pattern.ofTexts
      (parameters.map fun text => Pattern.wholeText text.toList)).mapError
        .pattern
  let redirections ← compileRedirections redirections
  .ok { name, address, parameters, redirections, exceptions }

/-- The link is one of the provider's and none of its exceptions. -/
def isMatch (provider : Provider) (link : List Char) : Bool :=
  let link := Text.trimmed link
  provider.address.isMatch link &&
    !provider.exceptions.any (·.isMatch link)

/-- Some parameter rule matches the decoded name of a segment. -/
def isTracking (provider : Provider) (segment : List Char) : Bool :=
  provider.parameters.any
    (·.isMatch (Text.Form.readField segment).1)

/-- Take the tracking parameters out of a link. -/
def strip (provider : Provider) (link : List Char) : List Char :=
  Link.strip provider.isTracking link

/-- What the first group of a redirection took part with, if it matches. -/
def capture? (redirection : Pattern) (link : List Char) :
    Option (List Char) :=
  (redirection.find link).bind (·.group? link 1)

/-- The target of the first redirection whose group takes part, still encoded. -/
def target? (provider : Provider) (link : List Char) : Option (List Char) :=
  provider.redirections.findSome? (capture? · link)

/-- Follow the redirection of a link; without one the link stays as it is. -/
def redirect (provider : Provider) (link : List Char) : List Char :=
  match provider.target? link with
  | some target =>
      (Link.absolute? (Text.Percent.decodeFully target) link).getD link
  | none => link

/-- Take out tracking parameters and then follow a redirection. -/
def clean (provider : Provider) (link : List Char) : List Char :=
  provider.redirect (provider.strip link)

end Provider

end Untrack
