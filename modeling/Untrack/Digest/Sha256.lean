import Untrack.Text.Utf8

namespace Untrack.Digest.Sha256

/-!
# SHA-256

The digest by which two downloaded rule texts are told apart, as FIPS 180-4
defines it. A message is padded to whole blocks of sixty-four octets, and every
block is folded into eight chaining words. The schedule of a block is a window
of sixteen words that moves on by one word a round.
-/

/-- The eight chaining words. -/
structure Chain where
  a : UInt32
  b : UInt32
  c : UInt32
  d : UInt32
  e : UInt32
  f : UInt32
  g : UInt32
  h : UInt32
  deriving Repr, DecidableEq

/-- The chaining words before the first block. -/
def Chain.initial : Chain where
  a := 0x6a09e667
  b := 0xbb67ae85
  c := 0x3c6ef372
  d := 0xa54ff53a
  e := 0x510e527f
  f := 0x9b05688c
  g := 0x1f83d9ab
  h := 0x5be0cd19

/-- The chaining words in order. -/
def Chain.words (chain : Chain) : List UInt32 :=
  [chain.a, chain.b, chain.c, chain.d, chain.e, chain.f, chain.g, chain.h]

/-- One constant for each of the sixty-four rounds. -/
def roundConstants : List UInt32 :=
  [0x428a2f98, 0x71374491, 0xb5c0fbcf, 0xe9b5dba5,
    0x3956c25b, 0x59f111f1, 0x923f82a4, 0xab1c5ed5,
    0xd807aa98, 0x12835b01, 0x243185be, 0x550c7dc3,
    0x72be5d74, 0x80deb1fe, 0x9bdc06a7, 0xc19bf174,
    0xe49b69c1, 0xefbe4786, 0x0fc19dc6, 0x240ca1cc,
    0x2de92c6f, 0x4a7484aa, 0x5cb0a9dc, 0x76f988da,
    0x983e5152, 0xa831c66d, 0xb00327c8, 0xbf597fc7,
    0xc6e00bf3, 0xd5a79147, 0x06ca6351, 0x14292967,
    0x27b70a85, 0x2e1b2138, 0x4d2c6dfc, 0x53380d13,
    0x650a7354, 0x766a0abb, 0x81c2c92e, 0x92722c85,
    0xa2bfe8a1, 0xa81a664b, 0xc24b8b70, 0xc76c51a3,
    0xd192e819, 0xd6990624, 0xf40e3585, 0x106aa070,
    0x19a4c116, 0x1e376c08, 0x2748774c, 0x34b0bcb5,
    0x391c0cb3, 0x4ed8aa4a, 0x5b9cca4f, 0x682e6ff3,
    0x748f82ee, 0x78a5636f, 0x84c87814, 0x8cc70208,
    0x90befffa, 0xa4506ceb, 0xbef9a3f7, 0xc67178f2]

/-- Rotate a word to the right. -/
def rotate (word amount : UInt32) : UInt32 :=
  (word >>> amount) ||| (word <<< (32 - amount))

/-- The word that enters the window when its first word leaves. -/
def nextWord (window : List UInt32) : UInt32 :=
  let early := window.getD 1 0
  let late := window.getD 14 0
  let earlyMix := rotate early 7 ^^^ rotate early 18 ^^^ (early >>> 3)
  let lateMix := rotate late 17 ^^^ rotate late 19 ^^^ (late >>> 10)
  window.getD 0 0 + earlyMix + window.getD 9 0 + lateMix

/-- One round: fold a constant and a schedule word into the chaining words. -/
def round (chain : Chain) (constant word : UInt32) : Chain :=
  let mixE := rotate chain.e 6 ^^^ rotate chain.e 11 ^^^ rotate chain.e 25
  let choice := (chain.e &&& chain.f) ^^^ (~~~chain.e &&& chain.g)
  let first := chain.h + mixE + choice + constant + word
  let mixA := rotate chain.a 2 ^^^ rotate chain.a 13 ^^^ rotate chain.a 22
  let majority :=
    (chain.a &&& chain.b) ^^^ (chain.a &&& chain.c) ^^^ (chain.b &&& chain.c)
  { a := first + mixA + majority
    b := chain.a
    c := chain.b
    d := chain.c
    e := chain.d + first
    f := chain.e
    g := chain.f
    h := chain.g }

/-- Run the rounds of one block, moving the window on by a word each time. -/
def runRounds : List UInt32 → List UInt32 → Chain → Chain
  | [], _, chain => chain
  | constant :: constants, window, chain =>
      runRounds constants
        (window.drop 1 ++ [nextWord window])
        (round chain constant (window.getD 0 0))

/-- Add the words of two chains, one by one. -/
def Chain.add (left right : Chain) : Chain where
  a := left.a + right.a
  b := left.b + right.b
  c := left.c + right.c
  d := left.d + right.d
  e := left.e + right.e
  f := left.f + right.f
  g := left.g + right.g
  h := left.h + right.h

/-- Fold a block of sixteen words into the chaining words. -/
def compress (chain : Chain) (block : List UInt32) : Chain :=
  chain.add (runRounds roundConstants block chain)

/-- Read octets as big-endian words; a part of a word at the end is dropped. -/
def toWords : List Nat → List UInt32
  | first :: second :: third :: fourth :: rest =>
      UInt32.ofNat
          (((first * 256 + second) * 256 + third) * 256 + fourth) ::
        toWords rest
  | _ => []

/-- The octets of a number, most significant first, in a field of given width. -/
def bigEndian : (width : Nat) → Nat → List Nat
  | 0, _ => []
  | width + 1, number => number / Nat.pow 256 width % 256 :: bigEndian width number

/-- Pad a message to whole blocks: a one bit, zeros, and its length in bits. -/
def pad (message : List Nat) : List Nat :=
  let zeros := (119 - message.length % 64) % 64
  message ++ [0x80] ++ List.replicate zeros 0 ++
    bigEndian 8 (8 * message.length)

/-- Fold the first `count` blocks of sixteen words into the chaining words. -/
def foldBlocks : (count : Nat) → List UInt32 → Chain → Chain
  | 0, _, chain => chain
  | count + 1, words, chain =>
      foldBlocks count (words.drop 16) (compress chain (words.take 16))

/-- The chaining words after a whole message. -/
def chainOf (message : List Nat) : Chain :=
  let words := toWords (pad message)
  foldBlocks (words.length / 16) words Chain.initial

/-- A digit below sixteen in lower-case hexadecimal. -/
def hexDigit (value : Nat) : Char :=
  if value < 10 then
    Char.ofNat (0x30 + value)
  else
    Char.ofNat (0x61 + (value - 10))

/-- One octet as two hexadecimal digits. -/
def hexOctet (octet : Nat) : List Char :=
  [hexDigit (octet / 16), hexDigit (octet % 16)]

/-- The digest of a message, in hexadecimal. -/
def hexDigest (message : List Nat) : List Char :=
  (chainOf message).words.flatMap fun word =>
    (bigEndian 4 word.toNat).flatMap hexOctet

/-- The checksum of a text: the digest of its UTF-8 octets. -/
def checksum (text : String) : String :=
  String.ofList (hexDigest (Text.Utf8.encode text.toList))

end Untrack.Digest.Sha256
