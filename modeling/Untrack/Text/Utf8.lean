namespace Untrack.Text.Utf8

/-!
# UTF-8

Octets are natural numbers below 256. `encode` writes characters as octets, and
`decode` reads any octets back: what is no UTF-8 becomes U+FFFD, one for every
longest run of octets that could have begun a character.
-/

/-- The character that stands for octets that are no UTF-8. -/
def replacement : Char :=
  Char.ofNat 0xFFFD

/-- The octets of one character. -/
def encodeChar (character : Char) : List Nat :=
  let code := character.toNat
  if code < 0x80 then
    [code]
  else if code < 0x800 then
    [0xC0 + code / 64, 0x80 + code % 64]
  else if code < 0x10000 then
    [0xE0 + code / 4096, 0x80 + code / 64 % 64, 0x80 + code % 64]
  else
    [0xF0 + code / 262144, 0x80 + code / 4096 % 64,
      0x80 + code / 64 % 64, 0x80 + code % 64]

/-- The octets of a text. -/
def encode (characters : List Char) : List Nat :=
  characters.flatMap encodeChar

/--
A character whose first octets have been read: the bits so far, the octets
still owed, and the range of the next one.
-/
structure Pending where
  bits : Nat
  owed : Nat
  low : Nat
  high : Nat
  deriving Repr, DecidableEq

/--
What a first octet of a longer character promises. The ranges of the second
octet rule out overlong forms, surrogates and codes beyond U+10FFFF.
-/
def leading? (octet : Nat) : Option Pending :=
  if 0xC2 ≤ octet ∧ octet ≤ 0xDF then
    some ⟨octet - 0xC0, 1, 0x80, 0xBF⟩
  else if octet = 0xE0 then
    some ⟨0, 2, 0xA0, 0xBF⟩
  else if octet = 0xED then
    some ⟨0xD, 2, 0x80, 0x9F⟩
  else if 0xE1 ≤ octet ∧ octet ≤ 0xEF then
    some ⟨octet - 0xE0, 2, 0x80, 0xBF⟩
  else if octet = 0xF0 then
    some ⟨0, 3, 0x90, 0xBF⟩
  else if 0xF1 ≤ octet ∧ octet ≤ 0xF3 then
    some ⟨octet - 0xF0, 3, 0x80, 0xBF⟩
  else if octet = 0xF4 then
    some ⟨4, 3, 0x80, 0x8F⟩
  else
    none

/-- Read an octet that stands between characters. -/
def openOctet (octet : Nat) : List Char × Option Pending :=
  if octet < 0x80 then
    ([Char.ofNat octet], none)
  else
    match leading? octet with
    | some pending => ([], some pending)
    | none => ([replacement], none)

/--
Read one octet: the characters it settles, and the character it leaves open.
An octet that cannot continue an open character gives that one up and is read
again from between characters.
-/
def feed : Option Pending → Nat → List Char × Option Pending
  | none, octet => openOctet octet
  | some pending, octet =>
      if pending.low ≤ octet ∧ octet ≤ pending.high then
        let bits := pending.bits * 64 + (octet - 0x80)
        if pending.owed ≤ 1 then
          ([Char.ofNat bits], none)
        else
          ([], some ⟨bits, pending.owed - 1, 0x80, 0xBF⟩)
      else
        let (settled, next) := openOctet octet
        (replacement :: settled, next)

/-- Read octets onward from an open character, if there is one. -/
def decodeFrom : Option Pending → List Nat → List Char
  | none, [] => []
  | some _, [] => [replacement]
  | pending, octet :: rest =>
      let (settled, next) := feed pending octet
      settled ++ decodeFrom next rest

/-- Read octets as text. -/
def decode (octets : List Nat) : List Char :=
  decodeFrom none octets

/-- The number of octets a text takes. -/
def size (characters : List Char) : Nat :=
  (characters.map Char.utf8Size).foldl (· + ·) 0

end Untrack.Text.Utf8
