import Untrack.Text.CharSet

namespace Untrack.Text

/-!
# Characters as ranges of octets

In UTF-8 the characters of a range cannot be told by one test on each octet, but
every range falls into a few blocks that can: a block is a range for each octet,
and it holds the characters whose octets all lie in their ranges. `blocks` gives
the blocks of a set in ascending order.
-/

/-- The octets from `low` to `high`, both included. -/
structure OctetRange where
  low : Nat
  high : Nat
  deriving Repr, DecidableEq

namespace OctetRange

/-- The octets that can follow the first one. -/
def following : OctetRange := ⟨0x80, 0xBF⟩

/-- One octet. -/
def single (octet : Nat) : OctetRange := ⟨octet, octet⟩

/--
The blocks of the numbers from `low` to `high`, written with one leading digit
and so many digits to the base 64 after it. `mark` is added to the leading digit.
-/
def digitBlocks (mark : Nat) :
    (digits low high : Nat) → List (List OctetRange)
  | 0, low, high => [[⟨mark + low, mark + high⟩]]
  | digits + 1, low, high =>
      let unit := Nat.pow 64 (digits + 1)
      let first := low / unit
      let last := high / unit
      let under (digit low high : Nat) : List (List OctetRange) :=
        (digitBlocks following.low digits low high).map
          (single (mark + digit) :: ·)
      if first = last then
        under first (low % unit) (high % unit)
      else
        let cutsFirst := low % unit != 0
        let cutsLast := high % unit != unit - 1
        let firstWhole := if cutsFirst then first + 1 else first
        let lastWhole := if cutsLast then last - 1 else last
        (if cutsFirst then under first (low % unit) (unit - 1) else []) ++
          (if firstWhole ≤ lastWhole then
            [⟨mark + firstWhole, mark + lastWhole⟩ ::
              List.replicate (digits + 1) following]
          else []) ++
          (if cutsLast then under last 0 (high % unit) else [])

/-- Characters that take equally many octets, and how the first octet is marked. -/
structure Width where
  characters : CharRange
  mark : Nat
  digits : Nat
  deriving Repr, DecidableEq

/-- The widths of characters in ascending order, without the surrogates. -/
def widths : List Width :=
  [⟨⟨0x0, 0x7F⟩, 0, 0⟩, ⟨⟨0x80, 0x7FF⟩, 0xC0, 1⟩, ⟨⟨0x800, 0xD7FF⟩, 0xE0, 2⟩,
    ⟨⟨0xE000, 0xFFFF⟩, 0xE0, 2⟩, ⟨⟨0x10000, 0x10FFFF⟩, 0xF0, 3⟩]

/-- The blocks of a range of characters. -/
def blocksOf (range : CharRange) : List (List OctetRange) :=
  widths.flatMap fun width =>
    let part := range.overlap width.characters
    if part.low ≤ part.high then
      digitBlocks width.mark width.digits part.low part.high
    else
      []

/-- The blocks of a set of characters. -/
def blocks (set : CharSet) : List (List OctetRange) :=
  set.normal.flatMap blocksOf

end OctetRange

end Untrack.Text
