import Untrack.Host.Ipv4

namespace Untrack.Host.Ipv6

/-!
# Addresses of eight pieces

Eight numbers of up to four hexadecimal digits between colons. Once, a pair of
colons stands for as many noughts as are missing, and the last two pieces may be
written as four decimal octets.
-/

/-- A piece of one to four hexadecimal digits. -/
def piece? (digits : List Char) : Option Nat :=
  if digits.isEmpty ∨ 4 < digits.length then none
  else Ipv4.digitsValue? 16 digits

/-- A decimal octet without noughts before it. -/
def octet? : List Char → Option Nat
  | [] => none
  | ['0'] => some 0
  | '0' :: _ => none
  | digits =>
      (Ipv4.digitsValue? 10 digits).bind fun value =>
        if value < 256 then some value else none

/-- The two pieces that four decimal octets write. -/
def quad? (text : List Char) : Option (List Nat) :=
  ((text.splitOn '.').mapM octet?).bind fun
    | [first, second, third, fourth] =>
        some [first * 256 + second, third * 256 + fourth]
    | _ => none

/-- Pieces between colons; only the last can be two at once. -/
def pieces? : List (List Char) → Option (List Nat)
  | [] => some []
  | [last] =>
      if last.contains '.' then quad? last else (piece? last).map ([·])
  | first :: rest => do
      let piece ← piece? first
      let pieces ← pieces? rest
      some (piece :: pieces)

/-- What stands before the first pair of colons and after it. -/
def splitGap : List Char → List Char × Option (List Char)
  | ':' :: ':' :: rest => ([], some rest)
  | first :: rest =>
      let (before, after) := splitGap rest
      (first :: before, after)
  | [] => ([], none)

/-- The pieces of one side of a gap, which may have none. -/
def side? (text : List Char) : Option (List Nat) :=
  if text.isEmpty then some [] else pieces? (text.splitOn ':')

/-- The eight pieces that a text writes. -/
def parse? (text : List Char) : Option (List Nat) :=
  match splitGap text with
  | (whole, none) =>
      (pieces? (whole.splitOn ':')).bind fun pieces =>
        if pieces.length = 8 then some pieces else none
  | (before, some after) => do
      let left ← if before.contains '.' then none else side? before
      let right ← side? after
      if left.length + right.length < 8 then
        some (left ++
          List.replicate (8 - left.length - right.length) 0 ++ right)
      else
        none

/-- The length of the run of noughts at the start. -/
def zeros (pieces : List Nat) : Nat :=
  (pieces.takeWhile (· = 0)).length

/-- The first of the longest runs of noughts, and its length. -/
def longestZeros : (index : Nat) → List Nat → Nat × Nat
  | _, [] => (0, 0)
  | index, first :: rest =>
      let later := longestZeros (index + 1) rest
      let here := zeros (first :: rest)
      if later.2 ≤ here then (index, here) else later

/-- Pieces in hexadecimal between colons. -/
def plainText (pieces : List Nat) : List Char :=
  [':'].intercalate (pieces.map (Nat.toDigits 16))

/-- The text of an address, its longest run of noughts left out. -/
def text (pieces : List Nat) : List Char :=
  let (start, length) := longestZeros 0 pieces
  if length < 2 then
    plainText pieces
  else
    plainText (pieces.take start) ++ [':', ':'] ++
      plainText (pieces.drop (start + length))

end Untrack.Host.Ipv6
