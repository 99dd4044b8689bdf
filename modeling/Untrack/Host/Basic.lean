import Untrack.Host.Domain
import Untrack.Host.Ipv4
import Untrack.Host.Ipv6
import Untrack.Text.Percent

namespace Untrack

/-!
# Hosts

The host of an address is a name, a number of one of two kinds, or, where the
scheme of the address is not a known one, just some text.
-/

/-- A host. -/
inductive Host where
  | name (ascii : List Char)
  | ipv4 (address : Nat)
  | ipv6 (pieces : List Nat)
  | opaqueText (text : List Char)
  deriving Repr, DecidableEq

namespace Host

/-- The text between brackets, if the whole text is in them. -/
def bracketed? : List Char → Option (Option (List Char))
  | '[' :: rest =>
      if rest.getLast? = some ']' then some (some rest.dropLast) else some none
  | _ => none

/-- The host that a name without brackets stands for. -/
def ofName? (text : List Char) : Option Host :=
  (ascii? (Text.Percent.decodeOnce text)).bind fun ascii =>
    if ascii.isEmpty then
      none
    else if Ipv4.endsInNumber ascii then
      (Ipv4.parse? ascii).map .ipv4
    else
      some (.name ascii)

/-- The host that a text stands for under a known scheme. -/
def parse? (text : List Char) : Option Host :=
  match bracketed? text with
  | some (some inside) => (Ipv6.parse? inside).map .ipv6
  | some none => none
  | none => ofName? text

/-- An ASCII character that ends every host. -/
def isDelimiter (character : Char) : Bool :=
  "\x00\t\n\r #/:<>?@[\\]^|".toList.contains character

/-- An octet that is not shown. -/
def isControl (octet : Nat) : Bool :=
  octet < 0x20 || octet == 0x7F

/-- The host that a text stands for under any other scheme. -/
def parseOpaque? (text : List Char) : Option Host :=
  match bracketed? text with
  | some (some inside) => (Ipv6.parse? inside).map .ipv6
  | some none => none
  | none =>
      if text.any isDelimiter then
        none
      else
        some (.opaqueText (Text.Percent.encode .upper isControl text))

/-- The text of a host. -/
def text : Host → List Char
  | .name ascii => ascii
  | .ipv4 address => Ipv4.text address
  | .ipv6 pieces => ['['] ++ Ipv6.text pieces ++ [']']
  | .opaqueText text => text

end Host

end Untrack
