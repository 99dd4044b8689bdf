import Untrack.Link.Scheme
import Untrack.Text.Blank
import Untrack.Url.Path

namespace Untrack.Url

/-!
# Reading addresses

`parse?` reads the text of an address. Only the scheme, the host and the port can
be wrong; whatever follows them is taken as it is. So whether a text is an
address is settled by the text up to the first slash, question mark or number
sign after the host.
-/

/-- What a scheme says about the addresses that it opens. -/
inductive SchemeKind where
  /-- There is a host, and a port unless it is the usual one. -/
  | network (usualPort : Nat)
  /-- There may be a host, but no port. -/
  | file
  | other
  deriving Repr, DecidableEq

/-- The kind of a scheme in small letters. -/
def SchemeKind.of (scheme : List Char) : SchemeKind :=
  match String.ofList scheme with
  | "http" => .network 80
  | "https" => .network 443
  | "ws" => .network 80
  | "wss" => .network 443
  | "ftp" => .network 21
  | "file" => .file
  | _ => .other

/-- A character that is dropped from both ends of an address. -/
def isMargin (character : Char) : Bool :=
  character.toNat ≤ 0x20

/-- A character that is dropped wherever it stands. -/
def isBreak (character : Char) : Bool :=
  character == '\t' || character == '\n' || character == '\r'

/-- The text of an address without what is dropped from it. -/
def prepared (text : List Char) : List Char :=
  (Text.dropTrailing isMargin (text.dropWhile isMargin)).filter (!isBreak ·)

/-- Both slashes separate, as in the known schemes. -/
def isSlash (character : Char) : Bool :=
  character == '/' || character == '\\'

/-- A character that ends the host and the port, under a known scheme. -/
def endsAuthority (character : Char) : Bool :=
  isSlash character || character == '?' || character == '#'

/-- A character that ends the host and the port, under any other scheme. -/
def endsOtherAuthority (character : Char) : Bool :=
  character == '/' || character == '?' || character == '#'

/-- What stands after the last at sign; before it is the user. -/
def withoutUser (authority : List Char) : List Char :=
  (authority.reverse.takeWhile (· != '@')).reverse

/-- What stands before the last at sign, if there is one. -/
def userOf? (authority : List Char) : Option (List Char) :=
  if authority.contains '@' then
    some ((authority.reverse.dropWhile (· != '@')).drop 1).reverse
  else
    none

/-- A user other than a lone colon is named before the last at sign. -/
def namesUser (authority : List Char) : Bool :=
  (userOf? authority).any fun user => !user.isEmpty && user != [':']

/-- The text means octets that are the code of a text. -/
def isReadable (text : List Char) : Bool :=
  let octets := Text.Percent.octets text
  Text.Utf8.encode (Text.Utf8.decode octets) == octets

/--
A user who cannot be read, as it stands before the host. It is the name that has
to be readable, and in its absence the password.
-/
def unreadableUser (authority : List Char) : List Char :=
  let user := (userOf? authority).getD []
  let name := user.takeWhile (· != ':')
  let password := (user.dropWhile (· != ':')).drop 1
  if isReadable (if name.isEmpty then password else name) then
    []
  else
    let coded := Text.Percent.encode .upper isCodedInUser
    coded name ++ (if password.isEmpty then [] else ':' :: coded password) ++ ['@']

/-- Cut before the first colon that is not in brackets. -/
def splitPort : (inBrackets : Bool) → List Char → List Char × Option (List Char)
  | _, [] => ([], none)
  | inBrackets, first :: rest =>
      if first == ':' && !inBrackets then
        ([], some rest)
      else
        let inside := first == '[' || (inBrackets && first != ']')
        let (host, port) := splitPort inside rest
        (first :: host, port)

/-- The greatest port. -/
def maxPort : Nat := 65535

/-- The port that digits write; no digits leave it open. -/
def readPort? (usualPort : Option Nat) : List Char → Option (Option Nat)
  | [] => some none
  | digits =>
      (Host.Ipv4.digitsValue? 10 digits).bind fun port =>
        if maxPort < port then none
        else if usualPort = some port then some none
        else some (some port)

/-- A user who cannot be read, a host and a port. -/
structure Authority where
  user : List Char
  host : Option Host
  port : Option Nat
  deriving Repr, DecidableEq

/-- Nothing stands where the host could be named. -/
def Authority.absent : Authority where
  user := []
  host := none
  port := none

/-- Read the host, which must be there, and the port, under a known scheme. -/
def readAuthority? (usualPort : Nat) (text : List Char) : Option Authority := do
  let (host, port) := splitPort false (withoutUser text)
  if host.isEmpty then
    none
  else
    let host ← Host.parse? host
    let port ← readPort? (some usualPort) (port.getD [])
    some { user := unreadableUser text, host := some host, port }

/--
Read the host and the port under a scheme that is not a known one. An at sign
alone names nobody, and that is only allowed at the end of an address.
-/
def readOtherAuthority? (isLast : Bool) (text : List Char) : Option Authority := do
  let (host, port) := splitPort false (withoutUser text)
  if host.isEmpty then
    if port.isSome || namesUser text || (text = ['@'] && !isLast) then
      none
    else
      some { user := [], host := some (.opaqueText []), port := none }
  else
    let host ← Host.parseOpaque? host
    let port ← readPort? none (port.getD [])
    some { user := unreadableUser text, host := some host, port }

/-- Read the host of a file, where the local one is left out. -/
def readFileHost? (text : List Char) : Option (Option Host) :=
  if text.isEmpty then
    some none
  else
    (Host.parse? text).map fun host =>
      if host = .name "localhost".toList then none else some host

/-- Put an address together from its authority and the text after it. -/
def withRest
    (scheme : List Char)
    (authority : Authority)
    (inQuery : Nat → Bool)
    (path : List Char → List Char)
    (rest : List Char) :
    Url :=
  let parts := Link.Parts.split rest
  { scheme
    user := authority.user
    host := authority.host
    port := authority.port
    path := path parts.base
    query := parts.query.map (Text.Percent.encode .upper inQuery)
    fragment :=
      match parts.fragment with
      | [] => none
      | _ :: text => some (Text.Percent.encode .upper isCodedInFragment text) }

/-- Read an address after its scheme, which names a host on the network. -/
def readNetwork?
    (scheme : List Char)
    (usualPort : Nat)
    (rest : List Char) :
    Option Url :=
  let text := rest.dropWhile isSlash
  (readAuthority? usualPort (text.takeWhile (!endsAuthority ·))).map
    fun authority =>
      withRest scheme authority isCodedInKnownQuery (readPath isSlash)
        (text.dropWhile (!endsAuthority ·))

/-- The address of a file, which needs no host where the path is on a drive. -/
def ofFile (scheme : List Char) (host : Option Host) (rest : List Char) : Url :=
  let path := segments isSlash driveName (Link.Parts.split rest).base
  let host := if isOnDrive path then none else host
  withRest scheme { Authority.absent with host } isCodedInKnownQuery
    (fun _ => joinedFile path) rest

/-- Read the address of a file after its scheme; a drive is no host. -/
def readFile? (scheme rest : List Char) : Option Url :=
  match rest with
  | first :: second :: text =>
      let host := text.takeWhile (!endsAuthority ·)
      if !(isSlash first && isSlash second) then
        some (ofFile scheme none rest)
      else if isDrive host then
        some (ofFile scheme none text)
      else
        (readFileHost? host).map fun host =>
          ofFile scheme host (text.dropWhile (!endsAuthority ·))
  | _ => some (ofFile scheme none rest)

/-- Read an address after its scheme, which is not a known one. -/
def readOther? (scheme rest : List Char) : Option Url :=
  let isSeparator (character : Char) : Bool := character == '/'
  match rest with
  | '/' :: '/' :: text =>
      let after := text.dropWhile (!endsOtherAuthority ·)
      (readOtherAuthority? after.isEmpty
          (text.takeWhile (!endsOtherAuthority ·))).map fun authority =>
        withRest scheme authority isCodedInQuery
          (fun path => if path.isEmpty then [] else readPath isSeparator path)
          after
  | '/' :: _ =>
      some (withRest scheme .absent isCodedInQuery (readPath isSeparator) rest)
  | _ =>
      some (withRest scheme .absent isCodedInQuery
        (Text.Percent.encode .upper Host.isControl) rest)

/-- Read the text of an address. -/
def parse? (text : List Char) : Option Url :=
  (Link.scheme? (prepared text)).bind fun (scheme, rest) =>
    let scheme := scheme.map Char.toLower
    match SchemeKind.of scheme with
    | .network usualPort => readNetwork? scheme usualPort rest
    | .file => readFile? scheme rest
    | .other => readOther? scheme rest

/--
What a reference says beside the scheme of its base, unless it stands for itself.
A reference to a web page may repeat the scheme, as long as no host follows.
-/
def relative? (base : Url) (reference : List Char) : Option (List Char) :=
  match Link.scheme? reference with
  | none => some reference
  | some (scheme, rest) =>
      let namesHost := 2 ≤ (rest.takeWhile isSlash).length
      if base.isWeb && scheme.map Char.toLower = base.scheme && !namesHost then
        some rest
      else
        none

/-- Read the text of an address that may leave out what another begins with. -/
def join? (base : Url) (reference : List Char) : Option Url :=
  let reference := prepared reference
  match relative? base reference with
  | none => parse? reference
  | some [] => parse? (base.origin ++ base.target)
  | some ('#' :: rest) => parse? (base.origin ++ base.target ++ '#' :: rest)
  | some ('?' :: rest) => parse? (base.origin ++ base.path ++ '?' :: rest)
  | some (first :: rest) =>
      if isSlash first then
        if (rest.head?.map isSlash).getD false then
          parse? (base.scheme ++ ':' :: first :: rest)
        else
          parse? (base.origin ++ first :: rest)
      else
        let directory := (base.path.reverse.dropWhile (· != '/')).reverse
        parse? (base.origin ++ directory ++ first :: rest)

end Untrack.Url
