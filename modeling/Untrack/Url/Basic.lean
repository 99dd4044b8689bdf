import Untrack.Host.Basic
import Untrack.Link.Parts

namespace Untrack

/-!
# Addresses

An address that has been read: its scheme, its host with a port that is not the
usual one, and its path, query and fragment in percent coding. A user is not
kept, unless the user's name cannot be read: then it is no name, and the address
stays as it is.
-/

/-- An address. -/
structure Url where
  scheme : List Char
  /-- A user who cannot be read, with the sign that ends it; else nothing. -/
  user : List Char
  host : Option Host
  port : Option Nat
  path : List Char
  query : Option (List Char)
  fragment : Option (List Char)
  deriving Repr, DecidableEq

namespace Url

/-- The address is one that a browser can ask for a page. -/
def isWeb (url : Url) : Bool :=
  url.scheme = "http".toList || url.scheme = "https".toList

/-- The scheme of files. -/
def fileScheme : List Char :=
  "file".toList

/--
What stands where no host is named: a file leaves the place of the host empty,
and elsewhere a path must not look as if it began with a host.
-/
def withoutHost (url : Url) : List Char :=
  if url.scheme = fileScheme then "//".toList
  else if "//".toList.isPrefixOf url.path then "/.".toList
  else []

/-- The scheme, the host and the port, as they open the text of an address. -/
def origin (url : Url) : List Char :=
  url.scheme ++ [':'] ++
    ((url.host.map fun host => "//".toList ++ url.user ++ host.text).getD
      url.withoutHost) ++
    (url.port.map fun port => ':' :: Nat.toDigits 10 port).getD []

/-- The path and the query, as a server is asked for them. -/
def target (url : Url) : List Char :=
  url.path ++ (url.query.map ('?' :: ·)).getD []

/-- The text of an address. -/
def text (url : Url) : List Char :=
  url.origin ++ url.target ++ (url.fragment.map ('#' :: ·)).getD []

/-! ## Percent coding of the parts -/

/-- An octet that a fragment cannot hold. -/
def isCodedInFragment (octet : Nat) : Bool :=
  Host.isControl octet ||
    (" \x22<>\x60".toList.map Char.toNat).contains octet

/-- An octet that a path cannot hold. -/
def isCodedInPath (octet : Nat) : Bool :=
  isCodedInFragment octet ||
    ("#?\x7b\x7d".toList.map Char.toNat).contains octet

/-- An octet that the name or the password of a user cannot hold. -/
def isCodedInUser (octet : Nat) : Bool :=
  isCodedInPath octet ||
    ("/:;=@[\\]^|".toList.map Char.toNat).contains octet

/-- An octet that a query cannot hold, under any scheme. -/
def isCodedInQuery (octet : Nat) : Bool :=
  Host.isControl octet ||
    (" \x22#<>".toList.map Char.toNat).contains octet

/-- An octet that a query cannot hold under a known scheme. -/
def isCodedInKnownQuery (octet : Nat) : Bool :=
  isCodedInQuery octet || octet == '\x27'.toNat

end Url

end Untrack
