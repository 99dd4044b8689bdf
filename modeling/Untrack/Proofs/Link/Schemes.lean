import Untrack.Proofs.Link.Usable
import Untrack.Proofs.Pattern.Runs
import Untrack.Proofs.Provider.Anchoring

namespace Untrack

/-!
# Patterns of schemes

Whether an address has a scheme of its own, and which scheme it begins with, can be
asked with two patterns. What they find is what the functions on schemes say.
-/

namespace Link

/-- The text is a scheme: a letter, and then what else a scheme can hold. -/
def IsScheme (scheme : List Char) : Prop :=
  (∀ character ∈ scheme, isSchemeCharacter character = true) ∧
    ∃ letter others, scheme = letter :: others ∧ isLetter letter = true

/-- An address is absolute just if it begins with a scheme, a colon and two slashes. -/
theorem isAbsolute_iff (address : List Char) :
    isAbsolute address = true ↔
      ∃ scheme, IsScheme scheme ∧ scheme ++ "://".toList <+: address := by
  have begins :
      isAbsolute address = true ↔
        ∃ scheme rest, scheme? address = some (scheme, '/' :: '/' :: rest) := by
    unfold isAbsolute
    split
    · rename_i scheme rest isScheme
      rw [isScheme]
      simp
    · rename_i noSlashes
      simp only [Bool.false_eq_true, false_iff, not_exists]
      exact noSlashes
  simp only [begins, scheme?_eq_some_iff]
  constructor
  · rintro ⟨scheme, rest, rfl, isScheme⟩
    exact ⟨scheme, isScheme, rest, by simp⟩
  · rintro ⟨scheme, isScheme, rest, rfl⟩
    exact ⟨scheme, rest, by simp, isScheme⟩

end Link

namespace Pattern

/-! ## Sets of a scheme -/

/-- The letters that a scheme can begin with. -/
def schemeLetters : Text.CharSet :=
  [⟨0x41, 0x5A⟩, ⟨0x61, 0x7A⟩]

/-- The characters that a scheme can hold. -/
def schemeCharacters : Text.CharSet :=
  [⟨0x2B, 0x2B⟩, ⟨0x2D, 0x2E⟩, ⟨0x30, 0x39⟩, ⟨0x41, 0x5A⟩, ⟨0x61, 0x7A⟩]

/-- The codes of letters. -/
private theorem isAlpha_iff (character : Char) :
    character.isAlpha = true ↔
      0x41 ≤ character.toNat ∧ character.toNat ≤ 0x5A ∨
        0x61 ≤ character.toNat ∧ character.toNat ≤ 0x7A := by
  have inRanges :
      character.isAlpha =
        (decide (0x41 ≤ character.val ∧ character.val ≤ 0x5A) ||
          decide (0x61 ≤ character.val) && decide (character.val ≤ 0x7A)) :=
    rfl
  simp only [inRanges, Bool.or_eq_true, Bool.and_eq_true, decide_eq_true_eq]
  rfl

/-- The codes of digits. -/
private theorem isDigit_iff (character : Char) :
    character.isDigit = true ↔ 0x30 ≤ character.toNat ∧ character.toNat ≤ 0x39 := by
  simp only [Char.isDigit, Bool.and_eq_true, decide_eq_true_eq]
  rfl

/-- The letters of the patterns are letters. -/
theorem has_schemeLetters (character : Char) :
    schemeLetters.has character = Link.isLetter character := by
  rw [Bool.eq_iff_iff, Link.isLetter, isAlpha_iff]
  simp [schemeLetters, Text.CharSet.has, Text.CharSet.hasCode, Text.CharRange.has]

/-- The characters of the patterns are those of schemes. -/
theorem has_schemeCharacters (character : Char) :
    schemeCharacters.has character = Link.isSchemeCharacter character := by
  have isSign (sign : Char) : character = sign ↔ character.toNat = sign.toNat :=
    Char.toNat_inj.symm
  rw [Bool.eq_iff_iff]
  simp only [Link.isSchemeCharacter, Char.isAlphanum, Bool.or_eq_true, isAlpha_iff,
    isDigit_iff, beq_iff_eq, isSign, Char.reduceToNat]
  simp only [schemeCharacters, Text.CharSet.has, Text.CharSet.hasCode, Text.CharRange.has,
    List.any_cons, List.any_nil, Bool.or_false, Bool.or_eq_true, Bool.and_eq_true,
    decide_eq_true_eq]
  omega

/-! ## The patterns -/

/-- A scheme. -/
def schemeName : Expr :=
  .seq (.set schemeLetters) (.repeated 0 none true (.set schemeCharacters))

/-- A scheme at the start of a text, with its colon and two slashes. -/
def absoluteStart : Expr :=
  .concat
    [.assertion .textStart, .concat (schemeName :: "://".toList.map .sign)]

/-- A scheme at the start of a text, as the first group, with its colon. -/
def schemeStart : Expr :=
  .concat [.assertion .textStart, .seq (.group 1 schemeName) (.sign ':')]

/-- The text of the pattern for addresses with a scheme of their own. -/
theorem ofText_absoluteStart :
    ofText "^[A-Za-z][A-Za-z0-9+.\\-]*://".toList = .ok (ofExpr absoluteStart) :=
  ofText_eq_ok (by decide +kernel) (by decide +kernel)

/-- The text of the pattern for schemes. -/
theorem ofText_schemeStart :
    ofText "^([A-Za-z][A-Za-z0-9+.\\-]*):".toList = .ok (ofExpr schemeStart) :=
  ofText_eq_ok (by decide +kernel) (by decide +kernel)

/-- What a scheme is read from. -/
theorem reads_schemeName_iff {text : List Char} {first last : Cursor} :
    schemeName.Reads text first last ↔
      ∃ scheme,
        Link.IsScheme scheme ∧ first.Sees text scheme ∧ last = first.beyond scheme := by
  constructor
  · rintro ⟨_, letterReads, othersRead⟩
    obtain ⟨letter, here, isLetter, rfl⟩ := reads_set_iff.mp letterReads
    obtain ⟨others, -, there, allIn, rfl⟩ := reads_repeated_set_iff.mp othersRead
    rw [has_schemeLetters] at isLetter
    simp only [has_schemeCharacters] at allIn
    have letterIn : Link.isSchemeCharacter letter = true := by
      unfold Link.isLetter at isLetter
      simp [Link.isSchemeCharacter, Char.isAlphanum, isLetter]
    exact
      ⟨letter :: others,
        ⟨List.forall_mem_cons.mpr ⟨letterIn, allIn⟩, letter, others, rfl, isLetter⟩,
        sees_cons_iff.mpr ⟨here, there⟩, beyond_beyond _ [letter] others⟩
  · rintro ⟨_, ⟨allIn, letter, others, rfl, isLetter⟩, sees, rfl⟩
    obtain ⟨here, there⟩ := sees_cons_iff.mp sees
    simp only [← has_schemeCharacters] at allIn
    rw [← has_schemeLetters] at isLetter
    refine
      ⟨_, reads_set_iff.mpr ⟨letter, here, isLetter, rfl⟩,
        reads_repeated_set_iff.mpr
          ⟨others, ⟨Nat.zero_le _, nofun⟩, there, (List.forall_mem_cons.mp allIn).2, ?_⟩⟩
    exact (beyond_beyond _ [letter] others).symm

/-- What a scheme with signs behind it is read from. -/
theorem readsAll_schemeName_signs_iff
    {text signs : List Char}
    {first last : Cursor} :
    ReadsAll text (schemeName :: signs.map .sign) first last ↔
      ∃ scheme,
        Link.IsScheme scheme ∧
          first.Sees text (scheme ++ signs) ∧
          last = first.beyond (scheme ++ signs) := by
  rw [ReadsAll]
  simp only [reads_schemeName_iff, readsAll_signs_iff, sees_append_iff, ← beyond_beyond]
  constructor
  · rintro ⟨_, ⟨scheme, isScheme, sees, rfl⟩, signsSeen, isLast⟩
    exact ⟨scheme, isScheme, ⟨sees, signsSeen⟩, isLast⟩
  · rintro ⟨scheme, isScheme, ⟨sees, signsSeen⟩, isLast⟩
    exact ⟨_, ⟨scheme, isScheme, sees, rfl⟩, signsSeen, isLast⟩

/-- The pattern for absolute addresses is found just in these. -/
theorem isMatch_absoluteStart (address : List Char) :
    (ofExpr absoluteStart).isMatch address = Link.isAbsolute address := by
  rw [Bool.eq_iff_iff, isMatch_ofExpr_iff, Link.isAbsolute_iff]
  constructor
  · rintro ⟨start, stop, inside, slots, reads⟩
    obtain ⟨rfl, reads⟩ := (reads_anchored_iff inside).mp reads
    rw [Expr.reads_concat, readsAll_schemeName_signs_iff] at reads
    obtain ⟨scheme, isScheme, sees, -⟩ := reads
    exact ⟨scheme, isScheme, sees⟩
  · rintro ⟨scheme, isScheme, begins⟩
    have reads :=
      (@readsAll_schemeName_signs_iff _ _ ⟨0, absoluteStart.blank⟩ _).mpr
        ⟨scheme, isScheme, begins, rfl⟩
    rw [← Expr.reads_concat] at reads
    exact ⟨0, _, Nat.zero_le _, _, (reads_anchored_iff (Nat.zero_le _)).mpr ⟨rfl, reads⟩⟩

/-- The pattern for schemes reads a scheme as its group, and the colon. -/
theorem reads_schemeStart_iff
    {address : List Char}
    {start : Nat}
    (inside : start ≤ address.length)
    {last : Cursor} :
    schemeStart.Reads address ⟨start, schemeStart.blank⟩ last ↔
      start = 0 ∧
        ∃ scheme,
          Link.IsScheme scheme ∧ scheme ++ [':'] <+: address ∧
            last = ⟨scheme.length + 1, [none, none, some 0, some scheme.length]⟩ := by
  rw [schemeStart, reads_anchored_iff inside]
  refine and_congr_right ?_
  rintro (rfl : start = 0)
  -- The cursor past the group and the colon, after the group has noted its places.
  have isPast (scheme : List Char) :
      ((((⟨0, schemeStart.blank⟩ : Cursor).note 2).beyond scheme).note 3).beyond [':'] =
        ⟨scheme.length + 1, [none, none, some 0, some scheme.length]⟩ := by
    have isBlank : schemeStart.blank = [none, none, none, none] := rfl
    simp [Cursor.beyond, Cursor.note, isBlank]
  constructor
  · rintro ⟨_, ⟨_, nameReads, rfl⟩, colonReads⟩
    obtain ⟨scheme, isScheme, sees, rfl⟩ := reads_schemeName_iff.mp nameReads
    obtain ⟨colon, rfl⟩ := reads_sign_iff.mp colonReads
    exact ⟨scheme, isScheme, sees_append_iff.mpr ⟨sees, colon⟩, isPast scheme⟩
  · rintro ⟨scheme, isScheme, begins, rfl⟩
    obtain ⟨sees, colon⟩ :=
      (@sees_append_iff ((⟨0, schemeStart.blank⟩ : Cursor).note 2) _ _ _).mp begins
    exact
      ⟨_, ⟨_, reads_schemeName_iff.mpr ⟨scheme, isScheme, sees, rfl⟩, rfl⟩,
        reads_sign_iff.mpr ⟨colon, (isPast scheme).symm⟩⟩

end Pattern

namespace Provider

/-- The group of the pattern for schemes takes part with the scheme of an address. -/
theorem capture?_schemeStart (address : List Char) :
    capture? (Pattern.ofExpr Pattern.schemeStart) address =
      (Link.scheme? address).map Prod.fst := by
  cases isFound : (Pattern.ofExpr Pattern.schemeStart).find address with
  | some found =>
      obtain ⟨inside, reads⟩ := Pattern.reads_of_find isFound
      obtain ⟨-, scheme, isScheme, ⟨rest, isAddress⟩, isLast⟩ :=
        (Pattern.reads_schemeStart_iff inside).mp reads
      have isGroup : found.slots = [none, none, some 0, some scheme.length] :=
        (Pattern.Cursor.mk.inj isLast).2
      have isOpened : Link.scheme? address = some (scheme, rest) :=
        Link.scheme?_eq_some_iff.mpr ⟨by simp [← isAddress], isScheme⟩
      rw [capture?, isFound, isOpened, ← isAddress]
      simp [Pattern.Match.group?, isGroup]
  | none =>
      cases isScheme : Link.scheme? address with
      | none =>
          rw [capture?, isFound]
          rfl
      | some parts =>
          obtain ⟨isAddress, isScheme⟩ := Link.scheme?_eq_some_iff.mp isScheme
          have begins : parts.1 ++ [':'] <+: address :=
            ⟨parts.2, by simp [← isAddress]⟩
          have reads :=
            (Pattern.reads_schemeStart_iff (Nat.zero_le _)).mpr
              ⟨rfl, parts.1, isScheme, begins, rfl⟩
          have isMatch := Pattern.isMatch_ofExpr_iff.mpr ⟨0, _, Nat.zero_le _, _, reads⟩
          rw [Pattern.isMatch, isFound] at isMatch
          cases isMatch

end Provider

end Untrack
