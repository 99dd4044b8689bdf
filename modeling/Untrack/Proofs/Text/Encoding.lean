import Untrack.Proofs.Text.Decoding

namespace Untrack.Text.Percent

/-!
# Decoding what was encoded

An encoder that codes the percent sign leaves none that is not the sign of an octet,
so one round of decoding takes back one round of encoding, whatever else is coded and
with either case of digits. Decoding of a text that was encoded several times over
takes back as many rounds as it makes, and stops at the text.
-/

/-- A digit has the value that it was written for. -/
theorem hexValue?_digit (letters : LetterCase) :
    ∀ value < 16, hexValue? (letters.digit value) = some value := by
  cases letters <;> decide

/-- The two digits of an octet write it. -/
theorem octet?_digits (letters : LetterCase) {octet : Nat} (isOctet : octet < 256) :
    octet? (letters.digit (octet / 16)) (letters.digit (octet % 16)) = some octet := by
  rw [octet?, hexValue?_digit letters (octet / 16) (by omega),
    hexValue?_digit letters (octet % 16) (by omega)]
  exact congrArg some (Nat.div_add_mod octet 16)

/-- An encoded octet is read as that octet, whatever follows it. -/
theorem octets_encodeOctet_append
    (letters : LetterCase)
    {octet : Nat}
    (isOctet : octet < 256)
    (rest : List Char) :
    octets (encodeOctet letters octet ++ rest) = octet :: octets rest := by
  simp only [encodeOctet, List.cons_append, List.nil_append, octets,
    octet?_digits letters isOctet]

/-- The character of a plain octet has it as its code. -/
private theorem toNat_ofNat_of_plain :
    ∀ octet < 128, (Char.ofNat octet).toNat = octet := by
  decide +kernel

/-- A plain character other than the percent sign is read as its own octet. -/
theorem octets_plain_cons
    {octet : Nat}
    (isPlain : octet < 128)
    (notSign : octet ≠ 0x25)
    (rest : List Char) :
    octets (Char.ofNat octet :: rest) = octet :: octets rest := by
  have hasCode : (Char.ofNat octet).toNat = octet := toNat_ofNat_of_plain octet isPlain
  have isOther : Char.ofNat octet ≠ '%' := by
    intro isSign
    rw [isSign] at hasCode
    exact notSign hasCode.symm
  rw [octets]
  · rw [Utf8.encodeChar, hasCode, if_pos isPlain]
    rfl
  · exact fun _ _ _ isSign _ => isOther isSign

variable (letters : LetterCase) {inClass : Nat → Bool}

/-- What an encoder that codes the percent sign makes of some octets is read as them. -/
theorem octets_encodeAll
    (codesSign : inClass 0x25 = true)
    {given : List Nat}
    (areOctets : ∀ octet ∈ given, octet < 256) :
    octets
        (given.flatMap fun octet =>
          if inClass octet || 128 ≤ octet then encodeOctet letters octet
          else [Char.ofNat octet]) =
      given := by
  induction given with
  | nil =>
      rfl
  | cons octet rest inductionHypothesis =>
      obtain ⟨isOctet, others⟩ := List.forall_mem_cons.mp areOctets
      rw [List.flatMap_cons]
      split
      · rw [octets_encodeOctet_append letters isOctet, inductionHypothesis others]
      · rename_i notCoded
        simp only [Bool.or_eq_true, decide_eq_true_eq, not_or, Bool.not_eq_true] at notCoded
        have notSign : octet ≠ 0x25 := by
          rintro rfl
          rw [codesSign] at notCoded
          cases notCoded.1
        rw [List.singleton_append, octets_plain_cons (by omega) notSign,
          inductionHypothesis others]

/-- A round of decoding takes back a round of encoding. -/
theorem decodeOnce_encode (codesSign : inClass 0x25 = true) :
    Function.LeftInverse decodeOnce (encode letters inClass) := by
  intro text
  rw [decodeOnce, encode,
    octets_encodeAll letters codesSign fun _ => Utf8.lt_of_mem_encode, Utf8.decode_encode]

/--
A text that was encoded several times over, by an encoder that codes the percent sign
and all octets beyond ASCII, comes out plain if that was sixteen times at most. Beyond
that, sixteen rounds of encoding are taken back.
-/
theorem decodeFully_encode_iterate
    (codesSign : inClass 0x25 = true)
    {text : List Char}
    (plain : isEncoded text = false)
    (depth : Nat) :
    decodeFully ((encode letters inClass)^[depth] text) =
      if depth ≤ 16 then text else (encode letters inClass)^[depth - 16] text := by
  have takesBack := decodeOnce_encode letters codesSign
  rw [decodeFully, decodeUpTo_eq_iterate, maxRounds]
  split
  · rename_i shallow
    obtain ⟨left, isLeft⟩ := Nat.exists_eq_add_of_le' shallow
    rw [isLeft, Function.iterate_add_apply, takesBack.iterate depth text,
      Function.iterate_fixed (decodeOnce_of_plain plain)]
  · rename_i deep
    obtain ⟨left, rfl⟩ := Nat.exists_eq_add_of_lt (Nat.lt_of_not_le deep)
    rw [Nat.add_assoc, Function.iterate_add_apply, takesBack.iterate 16,
      Nat.add_sub_cancel_left]

/-- Three rounds are all taken back, and of eighteen rounds two are left. -/
theorem decodeFully_encode_iterate_of_lone_sign :
    let code := encode .lower (· == 0x25)
    let text := "50% \u00e9".toList
    isEncoded text = false ∧
      decodeFully (code^[3] text) = text ∧
      decodeFully (code^[18] text) = "50%2525 %25c3%25a9".toList := by
  intro code text
  have plain : isEncoded text = false := by
    decide +kernel
  refine ⟨plain, ?_, ?_⟩
  · exact decodeFully_encode_iterate .lower rfl plain 3
  · refine (decodeFully_encode_iterate .lower rfl plain 18).trans ?_
    decide +kernel

end Untrack.Text.Percent
