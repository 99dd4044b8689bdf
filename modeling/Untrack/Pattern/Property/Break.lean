import Untrack.Pattern.Property.Binary
import Untrack.Pattern.Property.Script

namespace Untrack.Pattern.Property

open Untrack.Text (CharSet)

/-!
# Where texts can be divided

The characters by the part they take in finding the boundaries of signs, words and
sentences, as the Unicode standard derives it from other properties.
-/

/-- The Hangul syllables that end with their vowel. -/
def openSyllable : CharSet :=
  CharSet.ofCodes <| (List.range 399).map fun index => 0xAC00 + 28 * index

/-- The characters that belong to a script, or to none of its own. -/
def ofScript (name : String) : CharSet :=
  (characters? scriptTable name).getD []

/-! ## Signs -/

/-- The parts that characters take in signs. -/
def signParts : List Named :=
  [⟨["cr"], ranges "D"⟩,
    ⟨["lf"], ranges "A"⟩,
    ⟨["cn", "control"],
      (lineSeparator ++ paragraphSeparator ++ control ++ format ++
        unassigned.intersection defaultIgnorable).difference
          (ranges "A D 200C-200D" ++ prependedMark ++ graphemeExtend)⟩,
    ⟨["ex", "extend"],
      (graphemeExtend ++ emojiModifier).difference (ranges "200D")⟩,
    ⟨["zwj"], ranges "200D"⟩,
    ⟨["ri", "regionalindicator"], regionalIndicator⟩,
    ⟨["pp", "prepend"],
      prependedMark ++
        ranges "D4E 111C2-111C3 113D1 1193F 11941 11A3A 11A84-11A89 11D46 11F02"⟩,
    ⟨["sm", "spacingmark"],
      CharSet.difference (spacingMark ++ ranges "E33 EB3")
        (graphemeExtend ++
          ranges "102B-102C 1038 1062-1064 1067-106D 1083 1087-108C 108F 109A-109C 1A61
            1A63-1A64 AA7B AA7D 11720-11721")⟩,
    ⟨["l"], ranges "1100-115F A960-A97C"⟩,
    ⟨["v"], ranges "1160-11A7 D7B0-D7C6 16D63 16D67-16D6A"⟩,
    ⟨["t"], ranges "11A8-11FF D7CB-D7FB"⟩,
    ⟨["lv"], openSyllable⟩,
    ⟨["lvt"], CharSet.difference (ranges "AC00-D7A3") openSyllable⟩]

/-! ## Words -/

/-- What stays with the character before it inside a word. -/
def wordExtend : CharSet :=
  (graphemeExtend ++ spacingMark ++ emojiModifier).difference (ranges "200D")

/-- Katakana and the signs written with them. -/
def wordKatakana : CharSet :=
  ofScript "katakana" ++ ranges "3031-3035 309B-309C 30A0 30FC FF70"

/-- Hebrew letters. -/
def hebrewLetter : CharSet :=
  (ofScript "hebrew").intersection otherLetter

/-- Letters of scripts that have blanks between words. -/
def wordLetter : CharSet :=
  alphabetic.difference
      (ideographic ++ wordKatakana ++ ofScript "hiragana" ++ wordExtend ++
        hebrewLetter ++
        ranges "E01-EDF 1000-108E 1780-17DC 1950-19C9 1A20-1AA7 A9E0-A9FE AA60-AADD
          11700-11746") ++
    ranges "2C2-2C5 2D2-2D7 2DE-2DF 2E5-2EB 2ED 2EF-2FF 55A-55C 55E 58A 5F3 70F
      A708-A716 A720-A721 A789-A78A AB5B"

/-- What numbers are written with. -/
def wordNumeric : CharSet :=
  digitCharacters ++
    ranges "600-605 66B 6DD 890-891 8E2 19DA 110BD 110CD"

/-- The parts that characters take in words. -/
def wordParts : List Named :=
  [⟨["cr"], ranges "D"⟩,
    ⟨["lf"], ranges "A"⟩,
    ⟨["nl", "newline"], ranges "B-C 85 2028-2029"⟩,
    ⟨["extend"], wordExtend⟩,
    ⟨["zwj"], ranges "200D"⟩,
    ⟨["ri", "regionalindicator"], regionalIndicator⟩,
    ⟨["fo", "format"],
      format.difference (prependedMark ++ graphemeExtend ++ ranges "200B-200D")⟩,
    ⟨["ka", "katakana"], wordKatakana⟩,
    ⟨["hl", "hebrewletter"], hebrewLetter⟩,
    ⟨["le", "aletter"], wordLetter⟩,
    ⟨["sq", "singlequote"], ranges "27"⟩,
    ⟨["dq", "doublequote"], ranges "22"⟩,
    ⟨["mb", "midnumlet"], ranges "2E 2018-2019 2024 FE52 FF07 FF0E"⟩,
    ⟨["ml", "midletter"], ranges "3A B7 387 55F 5F4 2027 FE13 FE55 FF1A"⟩,
    ⟨["mn", "midnum"],
      ranges "2C 3B 37E 589 60C-60D 66C 7F8 2044 FE50 FE54 FF0C FF1B"⟩,
    ⟨["nu", "numeric"], wordNumeric⟩,
    ⟨["ex", "extendnumlet"], connectorPunctuation ++ ranges "202F"⟩,
    ⟨["wsegspace"], spaceSeparator.difference (ranges "A0 2007 202F")⟩]

/-! ## Sentences -/

/-- What stays with the character before it inside a sentence. -/
def sentenceExtend : CharSet :=
  graphemeExtend ++ spacingMark ++ ranges "200D"

/-- What numbers in sentences are written with. -/
def sentenceNumeric : CharSet :=
  wordNumeric ++ ranges "66C"

/-- Small letters, but for Georgian ones, which begin sentences too. -/
def sentenceLower : CharSet :=
  lowercase.difference (graphemeExtend ++ ranges "10D0-10FA 10FD-10FF")

/-- Capital letters, but for Georgian ones. -/
def sentenceUpper : CharSet :=
  (titlecaseLetter ++ uppercase).difference (ranges "1C90-1CBA 1CBD-1CBF")

/-- The full stop and its like. -/
def fullStop : CharSet :=
  ranges "2E 2024 FE52 FF0E"

/-- The parts that characters take in sentences. -/
def sentenceParts : List Named :=
  [⟨["cr"], ranges "D"⟩,
    ⟨["lf"], ranges "A"⟩,
    ⟨["ex", "extend"], sentenceExtend⟩,
    ⟨["se", "sep"], ranges "85 2028-2029"⟩,
    ⟨["fo", "format"],
      format.difference (graphemeExtend ++ sentenceNumeric ++ ranges "200D")⟩,
    ⟨["sp"], spaceCharacters.difference (ranges "A D 85 2028-2029")⟩,
    ⟨["lo", "lower"], sentenceLower⟩,
    ⟨["up", "upper"], sentenceUpper⟩,
    ⟨["le", "oletter"],
      alphabetic.difference (sentenceLower ++ sentenceUpper ++ sentenceExtend) ++
        ranges "5F3"⟩,
    ⟨["nu", "numeric"], sentenceNumeric⟩,
    ⟨["at", "aterm"], fullStop⟩,
    ⟨["sc", "scontinue"],
      ranges "2C-2D 3A-3B 37E 55D 60C-60D 7F8 1802 1808 2013-2014 3001 FE10-FE11
        FE13-FE14 FE31-FE32 FE50-FE51 FE54-FE55 FE58 FE63 FF0C-FF0D FF1A-FF1B FF64"⟩,
    ⟨["st", "sterm"], sentenceTerminal.difference fullStop⟩,
    ⟨["cl", "close"],
      (openPunctuation ++ closePunctuation ++ initialPunctuation ++
        finalPunctuation ++ quotationMark ++
        ranges "275B-2760 2E00-2E01 2E06-2E08 2E0B 1F676-1F678").difference
          (ranges "FF02 FF07")⟩]

end Untrack.Pattern.Property
