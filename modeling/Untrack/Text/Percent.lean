import Untrack.Text.Utf8

namespace Untrack.Text.Percent

/-!
# Percent coding

A percent sign and two hexadecimal digits stand for one octet. `decodeOnce` is
one round of decoding, and `decodeFully` repeats it for as long as anything is
left to decode, sixteen rounds at most, so that a link that was encoded several
times over comes out plain.
-/

/-- The value of a hexadecimal digit of either case. -/
def hexValue? (character : Char) : Option Nat :=
  let code := character.toNat
  if 0x30 ≤ code ∧ code ≤ 0x39 then
    some (code - 0x30)
  else if 0x41 ≤ code ∧ code ≤ 0x46 then
    some (code - 0x41 + 10)
  else if 0x61 ≤ code ∧ code ≤ 0x66 then
    some (code - 0x61 + 10)
  else
    none

/-- The octet that two hexadecimal digits write. -/
def octet? (high low : Char) : Option Nat :=
  match hexValue? high, hexValue? low with
  | some first, some second => some (16 * first + second)
  | _, _ => none

/-- Some percent sign is followed by two hexadecimal digits. -/
def isEncoded : List Char → Bool
  | '%' :: high :: low :: rest =>
      (octet? high low).isSome || isEncoded (high :: low :: rest)
  | _ :: rest => isEncoded rest
  | [] => false

/-- The octets of a text, each encoded octet counted as the one it stands for. -/
def octets : List Char → List Nat
  | '%' :: high :: low :: rest =>
      match octet? high low with
      | some octet => octet :: octets rest
      | none => Utf8.encodeChar '%' ++ octets (high :: low :: rest)
  | character :: rest => Utf8.encodeChar character ++ octets rest
  | [] => []

/-- One round: decode every encoded octet and read the result as UTF-8. -/
def decodeOnce (characters : List Char) : List Char :=
  Utf8.decode (octets characters)

/-- Decode for as long as something is encoded, in at most `rounds` rounds. -/
def decodeUpTo : (rounds : Nat) → List Char → List Char
  | 0, characters => characters
  | rounds + 1, characters =>
      if isEncoded characters then
        decodeUpTo rounds (decodeOnce characters)
      else
        characters

/-- The rounds after which decoding gives up. -/
def maxRounds : Nat := 16

/-- Decode a list of characters until nothing is encoded, within `maxRounds`. -/
def decodeFully (characters : List Char) : List Char :=
  decodeUpTo maxRounds characters

/-! ## Encoding -/

/-- The letters that an encoder takes for digits above nine. -/
inductive LetterCase where
  | upper
  | lower
  deriving Repr, DecidableEq

/-- The hexadecimal digit of a value below sixteen. -/
def LetterCase.digit (letters : LetterCase) (value : Nat) : Char :=
  if value < 10 then
    Char.ofNat (0x30 + value)
  else
    match letters with
    | .upper => Char.ofNat (0x41 + (value - 10))
    | .lower => Char.ofNat (0x61 + (value - 10))

/-- One octet in percent coding. -/
def encodeOctet (letters : LetterCase) (octet : Nat) : List Char :=
  ['%', letters.digit (octet / 16), letters.digit (octet % 16)]

/--
Encode the octets of one class, and those that are no ASCII in any case; the
other characters stay as they are.
-/
def encode
    (letters : LetterCase)
    (inClass : Nat → Bool)
    (characters : List Char) :
    List Char :=
  (Utf8.encode characters).flatMap fun octet =>
    if inClass octet || 128 ≤ octet then
      encodeOctet letters octet
    else
      [Char.ofNat octet]

end Untrack.Text.Percent
