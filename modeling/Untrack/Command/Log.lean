import Untrack.Notice

namespace Untrack.Command

/-!
# Lines of a log

A log can be shown on a terminal, and a link comes from anywhere. So the
controls that a terminal would follow are written out in a line of the log, and
whatever else a notice says stands there as it is.
-/

/-- A control that changes what a terminal shows, beside tabs and line ends. -/
def isTerminalControl (character : Char) : Bool :=
  let code := character.toNat
  code == 0x07 || code == 0x08 || code == 0x0C || code == 0x1B ||
    (0x7F ≤ code && code ≤ 0x9F)

/-- How one character stands in a log: a control by its code in hexadecimal. -/
def writtenOut (character : Char) : List Char :=
  let code := character.toNat
  if !isTerminalControl character then
    [character]
  else if code < 0x80 then
    ['\\', 'x', Nat.digitChar (code / 16), Nat.digitChar (code % 16)]
  else
    ['\\', 'u', '\x7b'] ++ Nat.toDigits 16 code ++ ['\x7d']

/-- The line of a log for a notice: its level and its words. -/
def logLine (notice : Notice) : String :=
  notice.level.name ++ " " ++
    String.ofList (notice.text.toList.flatMap writtenOut)

end Untrack.Command
