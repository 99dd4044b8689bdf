namespace Untrack.Host.Punycode

/-!
# Punycode

A way to write any text in lower-case letters, digits and hyphens. The ASCII
characters come first, then a hyphen, and then a run of digits that tells where
the others go: each number in it says how far to walk, over all codes and all
places in the text, before the next character is put in.
-/

/-- The code of the first character that is put in. -/
def firstCode : Nat := 128

/-- The bias before the first number. -/
def firstBias : Nat := 72

/-- The digit at which a number ends, at a place counted in steps of 36. -/
def threshold (bias place : Nat) : Nat :=
  if place ≤ bias then 1 else min (place - bias) 26

/-- The threshold is never nought. -/
theorem threshold_pos (bias place : Nat) : 0 < threshold bias place := by
  unfold threshold
  split <;> omega

/-- Scale a distance down until it is below 456, and count 36 for each step. -/
def settle (distance : Nat) : Nat :=
  if 455 < distance then
    36 + settle (distance / 35)
  else
    36 * distance / (distance + 38)
termination_by distance
decreasing_by omega

/-- The bias after a number, from the number and the length of the text. -/
def adapt (distance length : Nat) (isFirst : Bool) : Nat :=
  let scaled := if isFirst then distance / 700 else distance / 2
  settle (scaled + scaled / length)

/-- The value of a digit. -/
def digitValue? (character : Char) : Option Nat :=
  let code := character.toNat
  if 0x61 ≤ code ∧ code ≤ 0x7A then some (code - 0x61)
  else if 0x41 ≤ code ∧ code ≤ 0x5A then some (code - 0x41)
  else if 0x30 ≤ code ∧ code ≤ 0x39 then some (code - 0x30 + 26)
  else none

/-- The digit of a value below 36. -/
def digit (value : Nat) : Char :=
  if value < 26 then Char.ofNat (0x61 + value)
  else Char.ofNat (0x30 + (value - 26))

/-! ## Decoding -/

/--
The text so far, the code and the index at which the next walk starts, and the
number that is being read: what it comes to, and the weight and the place of its
next digit.
-/
structure Reading where
  text : List Char
  code : Nat
  index : Nat
  bias : Nat
  number : Nat
  weight : Nat
  place : Nat
  isFirst : Bool
  deriving Repr, DecidableEq

/-- The reading before the first digit. -/
def Reading.start (text : List Char) : Reading :=
  { text, code := firstCode, index := 0, bias := firstBias, number := 0,
    weight := 1, place := 36, isFirst := true }

/-- Put in the character that a finished number leads to. -/
def Reading.insert (reading : Reading) (number : Nat) : Option Reading :=
  let length := reading.text.length + 1
  let walk := reading.index + number
  let code := reading.code + walk / length
  if code.isValidChar then
    some
      { text := reading.text.insertIdx (walk % length) (Char.ofNat code)
        code
        index := walk % length + 1
        bias := adapt number length reading.isFirst
        number := 0
        weight := 1
        place := 36
        isFirst := false }
  else
    none

/-- Read one digit. -/
def Reading.feed (reading : Reading) (character : Char) : Option Reading :=
  (digitValue? character).bind fun value =>
    let number := reading.number + value * reading.weight
    let limit := threshold reading.bias reading.place
    if value < limit then
      reading.insert number
    else
      some
        { reading with
          number
          weight := reading.weight * (36 - limit)
          place := reading.place + 36 }

/-- The text after the last digit, if no number was left open. -/
def Reading.finish? (reading : Reading) : Option (List Char) :=
  if reading.place = 36 then some reading.text else none

/-- What stands before the last hyphen, which it may not do at the very start. -/
def plainPart (label : List Char) : List Char :=
  ((label.reverse.dropWhile (· != '-')).drop 1).reverse

/-- Read a label in Punycode. -/
def decode? (label : List Char) : Option (List Char) :=
  let plain := plainPart label
  let digits := label.drop (if plain.isEmpty then 0 else plain.length + 1)
  if plain.all (·.toNat < 128) then
    (digits.foldlM Reading.feed (Reading.start plain)).bind Reading.finish?
  else
    none

/-! ## Encoding -/

/-- The digits of a number, at a place and on. -/
def encodeNumber (bias place number : Nat) : List Char :=
  let limit := threshold bias place
  if number < limit then
    [digit number]
  else
    digit (limit + (number - limit) % (36 - limit)) ::
      encodeNumber bias (place + 36) ((number - limit) / (36 - limit))
termination_by number
decreasing_by
  have low := threshold_pos bias place
  have smaller :
      (number - threshold bias place) / (36 - threshold bias place) ≤
        number - threshold bias place :=
    Nat.div_le_self _ _
  omega

/-- What has been written, and the walk since the last character put in. -/
structure Writing where
  digits : List Char
  walk : Nat
  bias : Nat
  placed : Nat
  isFirst : Bool
  deriving Repr, DecidableEq

/-- Pass one character of the text while those of one code are put in. -/
def Writing.pass (code : Nat) (writing : Writing) (character : Char) : Writing :=
  if character.toNat < code then
    { writing with walk := writing.walk + 1 }
  else if character.toNat = code then
    { digits := writing.digits ++ encodeNumber writing.bias 36 writing.walk
      walk := 0
      bias := adapt writing.walk (writing.placed + 1) writing.isFirst
      placed := writing.placed + 1
      isFirst := false }
  else
    writing

/-- Put in the characters of some codes, in ascending order from `next` on. -/
def writeCodes (text : List Char) : List Nat → Nat → Writing → Writing
  | [], _, writing => writing
  | code :: codes, next, writing =>
      let walk := writing.walk + (code - next) * (writing.placed + 1)
      let passed := text.foldl (Writing.pass code) { writing with walk }
      writeCodes text codes (code + 1) { passed with walk := passed.walk + 1 }

/-- Insert a number into an ascending list, unless it is there. -/
def insertCode (code : Nat) : List Nat → List Nat
  | [] => [code]
  | first :: rest =>
      if code < first then code :: first :: rest
      else if code = first then first :: rest
      else first :: insertCode code rest

/-- Write a text in Punycode. -/
def encode (text : List Char) : List Char :=
  let plain := text.filter (·.toNat < 128)
  let codes :=
    ((text.filter (128 ≤ ·.toNat)).map Char.toNat).foldr insertCode []
  let written :=
    writeCodes text codes firstCode
      { digits := [], walk := 0, bias := firstBias, placed := plain.length,
        isFirst := true }
  (if plain.isEmpty then [] else plain ++ ['-']) ++ written.digits

end Untrack.Host.Punycode
