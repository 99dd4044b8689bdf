namespace Untrack.Text.Canonical.Hangul

/-!
# Korean syllables

A syllable of the Korean alphabet is made of a letter that begins it, a vowel,
and perhaps a letter that ends it. All of them stand in order, so the parts of a
syllable are found by division, and no table of syllables is needed.
-/

/-- The first of the letters that begin syllables. -/
def firstLead : Nat := 0x1100

/-- The first of the vowels. -/
def firstVowel : Nat := 0x1161

/-- The place before the first of the letters that end syllables. -/
def noTail : Nat := 0x11A7

/-- The first of the syllables. -/
def firstSyllable : Nat := 0xAC00

/-- The number of letters that begin syllables. -/
def leads : Nat := 19

/-- The number of vowels. -/
def vowels : Nat := 21

/-- The number of ways to end a syllable, to leave it open included. -/
def tails : Nat := 28

/-- The number of syllables. -/
def syllables : Nat := leads * vowels * tails

/-- The letters of a syllable, if the character is one. -/
def letters? (code : Nat) : Option (List Nat) :=
  if firstSyllable ≤ code ∧ code < firstSyllable + syllables then
    let index := code - firstSyllable
    let spoken :=
      [firstLead + index / (vowels * tails), firstVowel + index / tails % vowels]
    some (if index % tails = 0 then spoken else spoken ++ [noTail + index % tails])
  else
    none

/-- The syllable of a beginning letter and a vowel, or of a syllable and its end. -/
def join? (before after : Nat) : Option Nat :=
  if firstLead ≤ before ∧ before < firstLead + leads ∧
      firstVowel ≤ after ∧ after < firstVowel + vowels then
    some
      (firstSyllable +
        ((before - firstLead) * vowels + (after - firstVowel)) * tails)
  else if firstSyllable ≤ before ∧ before < firstSyllable + syllables ∧
      (before - firstSyllable) % tails = 0 ∧
      noTail < after ∧ after < noTail + tails then
    some (before + (after - noTail))
  else
    none

end Untrack.Text.Canonical.Hangul
