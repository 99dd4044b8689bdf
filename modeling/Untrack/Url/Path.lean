import Untrack.Url.Basic

namespace Untrack.Url

/-!
# Paths of addresses

A path is walked segment by segment: most segments lead down, a dot stays, and
two dots lead up again, though never above the root or out of a drive. A drive is
a segment of a letter and a colon; right below the root of a file system it can
also be written with a bar.
-/

/-- The segment stands for the directory it is in. -/
def isHere (segment : List Char) : Bool :=
  let text := String.ofList (segment.map Char.toLower)
  text = "." || text = "%2e"

/-- The segment stands for the directory above. -/
def isAbove (segment : List Char) : Bool :=
  let text := String.ofList (segment.map Char.toLower)
  text = ".." || text = ".%2e" || text = "%2e." || text = "%2e%2e"

/-- The segment names a drive. -/
def isDrive : List Char → Bool
  | [letter, sign] => letter.isAlpha && (sign == ':' || sign == '|')
  | _ => false

/-- The directory above one that is given last segment first. -/
def above : List (List Char) → List (List Char)
  | [] => []
  | last :: rest => if isDrive last then last :: rest else rest

/-- What a segment is called that leads down from a directory. -/
def called (atRoot : List Char → List Char) (directory : List (List Char))
    (segment : List Char) : List Char :=
  let name := Text.Percent.encode .upper isCodedInPath segment
  if directory.isEmpty then atRoot name else name

/--
Follow the segments of a path from a directory, given last segment first. The
names right below the root are changed as `atRoot` says.
-/
def walk (atRoot : List Char → List Char) :
    (directory segments : List (List Char)) → List (List Char)
  | directory, [] => directory.reverse
  | directory, [last] =>
      if isAbove last then (above directory).reverse ++ [[]]
      else if isHere last then directory.reverse ++ [[]]
      else directory.reverse ++ [called atRoot directory last]
  | directory, segment :: rest =>
      if isAbove segment then walk atRoot (above directory) rest
      else if isHere segment then walk atRoot directory rest
      else walk atRoot (called atRoot directory segment :: directory) rest

/-- The text after the separator that it may begin with. -/
def withoutRoot (isSeparator : Char → Bool) : List Char → List Char
  | [] => []
  | first :: rest => if isSeparator first then rest else first :: rest

/-- The segments that some text after the host leads to from the root. -/
def segments
    (isSeparator : Char → Bool)
    (atRoot : List Char → List Char)
    (text : List Char) :
    List (List Char) :=
  walk atRoot [] ((withoutRoot isSeparator text).splitOnP isSeparator)

/-- The path of some segments. -/
def joined (segments : List (List Char)) : List Char :=
  '/' :: ['/'].intercalate segments

/-- The path that some text after the host means. -/
def readPath (isSeparator : Char → Bool) (text : List Char) : List Char :=
  joined (segments isSeparator id text)

/-! ## Paths of files -/

/-- The name of a drive is written with a colon. -/
def driveName (segment : List Char) : List Char :=
  if isDrive segment then segment.take 1 ++ [':'] else segment

/-- The path begins on a drive, so that it is a path of the local computer. -/
def isOnDrive (segments : List (List Char)) : Bool :=
  segments.head?.any isDrive

/-- The path of some segments in a file system, without empty ones at its start. -/
def joinedFile (segments : List (List Char)) : List Char :=
  '/' :: (['/'].intercalate segments).dropWhile (· == '/')

end Untrack.Url
