import Untrack.Proofs.Pattern.Runs
import Untrack.Proofs.Text.Utf8
import Mathlib.Logic.Function.Iterate

namespace Untrack

/-!
# Rounds of decoding

A round of decoding takes two characters off a text for every octet that stands in
percent coding, and more where several octets make one character. What stands for
itself is never lost, and an octet that makes no sense next to others still leaves
one character at most. So a round with something to decode makes the text shorter,
decoding would come to an end without any limit on its rounds, and the limit is not
reached but by texts that lose two characters in each of them.
-/

namespace Pattern

/-! ## The pattern of an encoded octet -/

/-- The hexadecimal digits of either case. -/
def hexDigits : Text.CharSet :=
  [⟨0x30, 0x39⟩, ⟨0x41, 0x46⟩, ⟨0x61, 0x66⟩]

/-- A percent sign and two hexadecimal digits. -/
def codedOctet : Expr :=
  .seq (.sign '%') (.repeated 2 (some 2) true (.set hexDigits))

/-- The text of the pattern. -/
theorem ofText_codedOctet :
    ofText "%[0-9a-fA-F]{2}".toList = .ok (ofExpr codedOctet) :=
  ofText_eq_ok (by decide +kernel) (by decide +kernel)

/-- Hexadecimal digits are the characters that have a value. -/
theorem has_hexDigits (character : Char) :
    hexDigits.has character = (Text.Percent.hexValue? character).isSome := by
  simp only [hexDigits, Text.CharSet.has, Text.CharSet.hasCode, Text.CharRange.has,
    Text.Percent.hexValue?, List.any_cons, List.any_nil, Bool.or_false]
  grind

/-- Two characters write an octet just if both are digits. -/
theorem isSome_octet? (high low : Char) :
    (Text.Percent.octet? high low).isSome =
      (hexDigits.has high && hexDigits.has low) := by
  rw [has_hexDigits, has_hexDigits, Text.Percent.octet?]
  cases Text.Percent.hexValue? high <;> cases Text.Percent.hexValue? low <;> rfl

/-- The pattern reads the three characters of an octet. -/
theorem reads_codedOctet_iff {text : List Char} {first last : Cursor} :
    codedOctet.Reads text first last ↔
      ∃ high low,
        first.Sees text ['%', high, low] ∧
          (Text.Percent.octet? high low).isSome = true ∧
          last = first.beyond ['%', high, low] := by
  simp only [isSome_octet?, Bool.and_eq_true]
  constructor
  · rintro ⟨_, sign, digits⟩
    obtain ⟨here, rfl⟩ := reads_sign_iff.mp sign
    obtain ⟨run, ⟨enough, few⟩, there, allIn, rfl⟩ := reads_repeated_set_iff.mp digits
    have isTwo : run.length = 2 := Nat.le_antisymm (few 2 rfl) enough
    obtain ⟨high, low, rfl⟩ := List.length_eq_two.mp isTwo
    exact
      ⟨high, low, sees_cons_iff.mpr ⟨here, there⟩,
        ⟨allIn high (by simp), allIn low (by simp)⟩, rfl⟩
  · rintro ⟨high, low, sees, ⟨highIn, lowIn⟩, rfl⟩
    obtain ⟨here, there⟩ := sees_cons_iff.mp sees
    have enough : 2 ≤ [high, low].length ∧
        ∀ limit, some 2 = some limit → [high, low].length ≤ max 2 limit := by
      simp
    have allIn : ∀ character ∈ [high, low], hexDigits.has character = true := by
      simp [highIn, lowIn]
    exact
      ⟨_, reads_sign_iff.mpr ⟨here, rfl⟩,
        reads_repeated_set_iff.mpr ⟨[high, low], enough, there, allIn, rfl⟩⟩

end Pattern

namespace Text.Percent

/-- A text is encoded just if an octet in percent coding stands in it. -/
theorem isEncoded_iff_exists (text : List Char) :
    isEncoded text = true ↔
      ∃ high low, ['%', high, low] <:+: text ∧ (octet? high low).isSome = true := by
  fun_induction isEncoded text with
  | case1 high low rest inductionHypothesis =>
      rw [Bool.or_eq_true, inductionHypothesis]
      constructor
      · rintro (isOctet | ⟨first, second, later, isOctet⟩)
        · exact ⟨high, low, List.infix_cons_iff.mpr (.inl ⟨rest, rfl⟩), isOctet⟩
        · exact ⟨first, second, List.infix_cons_iff.mpr (.inr later), isOctet⟩
      · rintro ⟨first, second, isInfix, isOctet⟩
        rcases List.infix_cons_iff.mp isInfix with here | later
        · simp only [List.cons_prefix_cons] at here
          obtain ⟨-, rfl, rfl, -⟩ := here
          exact .inl isOctet
        · exact .inr ⟨first, second, later, isOctet⟩
  | case2 first rest notEncoded inductionHypothesis =>
      rw [inductionHypothesis]
      refine exists_congr fun high => exists_congr fun low => and_congr_left' ?_
      rw [List.infix_cons_iff]
      refine ⟨.inr, fun found => found.resolve_left ?_⟩
      rintro ⟨others, isHere⟩
      cases isHere
      exact notEncoded high low others rfl rfl
  | case3 =>
      simp

/-- The pattern of an encoded octet is found just in encoded texts. -/
theorem isMatch_codedOctet (text : List Char) :
    (Pattern.ofExpr Pattern.codedOctet).isMatch text = isEncoded text := by
  rw [Bool.eq_iff_iff, Pattern.isMatch_ofExpr_iff, isEncoded_iff_exists]
  simp only [Pattern.Expr.Matches, Pattern.reads_codedOctet_iff,
    Pattern.infix_iff_prefix_drop]
  constructor
  · rintro ⟨start, stop, inside, slots, high, low, sees, isOctet, -⟩
    exact ⟨high, low, ⟨start, inside, sees⟩, isOctet⟩
  · rintro ⟨high, low, ⟨start, inside, sees⟩, isOctet⟩
    exact ⟨start, _, inside, _, high, low, sees, isOctet, rfl⟩

/-! ## One round -/

/-- The number of octets that stand in percent coding. -/
def codedOctets : List Char → Nat
  | '%' :: high :: low :: rest =>
      match octet? high low with
      | some _ => codedOctets rest + 1
      | none => codedOctets (high :: low :: rest)
  | _ :: rest => codedOctets rest
  | [] => 0

/-- A text is encoded just if some octet of it is. -/
theorem isEncoded_iff_codedOctets_pos (text : List Char) :
    isEncoded text = true ↔ 0 < codedOctets text := by
  fun_induction codedOctets text with
  | case1 high low rest octet isOctet inductionHypothesis =>
      simp [isEncoded, isOctet]
  | case2 high low rest noOctet inductionHypothesis =>
      simp [isEncoded, noOctet, inductionHypothesis]
  | case3 first rest notEncoded inductionHypothesis =>
      rw [isEncoded]
      · exact inductionHypothesis
      · exact notEncoded
  | case4 =>
      simp [isEncoded]

/-- A character that stands for itself is one, and what is open before it another. -/
theorem length_decodeFrom_encodeChar
    {state : Option Utf8.Pending}
    (continues : ∀ pending, state = some pending → pending.Continues)
    (character : Char)
    (others : List Nat) :
    (Utf8.decodeFrom state (Utf8.encodeChar character ++ others)).length =
      (Utf8.decodeFrom none others).length + 1 + state.toList.length := by
  rw [Utf8.decodeFrom_encodeChar_of_continues continues, List.length_append,
    List.length_map, List.length_cons, Nat.add_comm]

/--
Every octet in percent coding makes a text two characters shorter, whatever octets
stand around it; what is open before the text can be one character more.
-/
theorem length_decodeFrom_octets_le
    {state : Option Utf8.Pending}
    (continues : ∀ pending, state = some pending → pending.Continues)
    (text : List Char) :
    (Utf8.decodeFrom state (octets text)).length + 2 * codedOctets text ≤
      text.length + state.toList.length := by
  fun_induction octets text generalizing state with
  | case1 high low rest octet isOctet inductionHypothesis =>
      have later := inductionHypothesis fun _ => @Utf8.continues_of_feed state octet _
      have settled := Utf8.length_feed_le state octet
      simp only [Utf8.decodeFrom, codedOctets, isOctet, List.length_append,
        List.length_cons]
      omega
  | case2 high low rest noOctet inductionHypothesis =>
      have later := @inductionHypothesis none (by simp)
      rw [Option.toList_none, List.length_nil] at later
      simp only [length_decodeFrom_encodeChar continues, codedOctets, noOctet,
        List.length_cons] at later ⊢
      omega
  | case3 first rest notEncoded inductionHypothesis =>
      have later := @inductionHypothesis none (by simp)
      rw [Option.toList_none, List.length_nil] at later
      rw [length_decodeFrom_encodeChar continues, codedOctets, List.length_cons]
      · omega
      · exact notEncoded
  | case4 =>
      cases state <;> simp [Utf8.decodeFrom, codedOctets]

/-- A round takes two characters off a text for every encoded octet. -/
theorem length_decodeOnce_le (text : List Char) :
    (decodeOnce text).length + 2 * codedOctets text ≤ text.length :=
  @length_decodeFrom_octets_le none nofun text

/-- A round with something to decode makes a text two characters shorter. -/
theorem length_decodeOnce_of_encoded
    {text : List Char}
    (encoded : isEncoded text = true) :
    (decodeOnce text).length + 2 ≤ text.length := by
  have shorter := length_decodeOnce_le text
  have some := (isEncoded_iff_codedOctets_pos text).mp encoded
  omega

/-- A text without encoded octets stands for its own octets. -/
theorem octets_of_plain
    {text : List Char}
    (plain : isEncoded text = false) :
    octets text = Utf8.encode text := by
  fun_induction octets text with
  | case1 high low rest octet isOctet inductionHypothesis =>
      simp [isEncoded, isOctet] at plain
  | case2 high low rest noOctet inductionHypothesis =>
      rw [inductionHypothesis]
      · rfl
      · simpa [isEncoded, noOctet] using plain
  | case3 first rest notEncoded inductionHypothesis =>
      rw [isEncoded] at plain
      · rw [inductionHypothesis plain]
        rfl
      · exact notEncoded
  | case4 =>
      rfl

/-- A round with nothing to decode leaves a text as it is. -/
theorem decodeOnce_of_plain
    {text : List Char}
    (plain : isEncoded text = false) :
    decodeOnce text = text := by
  rw [decodeOnce, octets_of_plain plain, Utf8.decode_encode]

/-! ## The end of a text -/

/-- A character that is no hexadecimal digit stands for its own octets at the end. -/
theorem octets_append
    {character : Char}
    (notHex : hexValue? character = none)
    (text : List Char) :
    octets (text ++ [character]) = octets text ++ Utf8.encodeChar character := by
  have noOctet (high : Char) : octet? high character = none := by
    unfold octet?
    rw [notHex]
    cases hexValue? high <;> rfl
  fun_induction octets text with
  | case1 high low rest octet isOctet inductionHypothesis =>
      rw [List.cons_append, List.cons_append, List.cons_append, octets, isOctet]
      exact congrArg (octet :: ·) inductionHypothesis
  | case2 high low rest noOctet inductionHypothesis =>
      rw [List.cons_append, List.cons_append, List.cons_append, octets, noOctet]
      simp only [List.append_assoc]
      exact congrArg (Utf8.encodeChar '%' ++ ·) inductionHypothesis
  | case3 first rest notEncoded inductionHypothesis =>
      have apart (notSign : first ≠ '%') :
          octets (first :: rest ++ [character]) =
            Utf8.encodeChar first ++ octets (rest ++ [character]) := by
        rw [List.cons_append, octets]
        exact fun _ _ _ isSign _ => notSign isSign
      rcases rest with _ | ⟨high, _ | ⟨low, rest⟩⟩
      · simp [octets]
      · by_cases isSign : first = '%'
        · rw [isSign]
          simp only [List.cons_append, List.nil_append] at inductionHypothesis ⊢
          rw [octets, noOctet, inductionHypothesis, List.append_assoc]
        · rw [apart isSign, inductionHypothesis, List.append_assoc]
      · rw [apart fun isSign => notEncoded high low rest isSign rfl,
          inductionHypothesis, List.append_assoc]
  | case4 =>
      simp [octets]

/-- Such a character is still there at the end after a round of decoding. -/
theorem decodeOnce_append
    {character : Char}
    (notHex : hexValue? character = none)
    (isRead : Utf8.decode (Utf8.encodeChar character) = [character])
    (begins :
      ∀ octet,
        (Utf8.encodeChar character).head? = some octet →
        octet < 0x80 ∨ 0xBF < octet)
    (text : List Char) :
    decodeOnce (text ++ [character]) = decodeOnce text ++ [character] := by
  have noneOpen (pending : Utf8.Pending) (isOpen : none = some pending) :
      pending.Continues := by
    cases isOpen
  rw [decodeOnce, octets_append notHex, Utf8.decode,
    Utf8.decodeFrom_append noneOpen begins]
  exact congrArg (decodeOnce text ++ ·) isRead

/-! ## Rounds without a limit -/

/-- Decode until nothing is encoded. -/
def decodeAll (text : List Char) : List Char :=
  if _ : isEncoded text = true then
    decodeAll (decodeOnce text)
  else
    text
termination_by text.length
decreasing_by
  rename_i encoded
  have shorter := length_decodeOnce_of_encoded encoded
  omega

/-- Where decoding ends nothing is encoded. -/
theorem isEncoded_decodeAll (text : List Char) : isEncoded (decodeAll text) = false := by
  fun_induction decodeAll text with
  | case1 text encoded inductionHypothesis =>
      exact inductionHypothesis
  | case2 text notEncoded =>
      simpa using notEncoded

/-! ## Rounds within a limit -/

/-- Stopping early gives what all the rounds give. -/
theorem decodeUpTo_eq_iterate (rounds : Nat) (text : List Char) :
    decodeUpTo rounds text = decodeOnce^[rounds] text := by
  induction rounds generalizing text with
  | zero =>
      rfl
  | succ rounds inductionHypothesis =>
      rw [decodeUpTo, Function.iterate_succ_apply]
      split
      · exact inductionHypothesis _
      · rename_i notEncoded
        have isFixed : decodeOnce text = text :=
          decodeOnce_of_plain (Bool.eq_false_iff.mpr notEncoded)
        rw [isFixed, Function.iterate_fixed isFixed]

/-- A text that is still encoded after some rounds has lost two characters in each. -/
theorem length_decodeUpTo_of_encoded
    {rounds : Nat}
    {text : List Char}
    (stillEncoded : isEncoded (decodeUpTo rounds text) = true) :
    (decodeUpTo rounds text).length + 2 * rounds ≤ text.length := by
  induction rounds generalizing text with
  | zero =>
      exact Nat.le_refl _
  | succ rounds inductionHypothesis =>
      rw [decodeUpTo] at stillEncoded ⊢
      split at stillEncoded
      · rename_i encoded
        have later := inductionHypothesis stillEncoded
        have shorter := length_decodeOnce_of_encoded encoded
        rw [if_pos encoded]
        omega
      · rename_i notEncoded
        exact (notEncoded stillEncoded).elim

/-- An encoded text has three characters at least. -/
theorem three_le_length_of_encoded
    {text : List Char}
    (encoded : isEncoded text = true) :
    3 ≤ text.length := by
  obtain ⟨high, low, isInfix, -⟩ := (isEncoded_iff_exists text).mp encoded
  exact isInfix.length_le

/-- So many rounds are enough for a text of no more than so many characters. -/
theorem isEncoded_decodeUpTo
    {rounds : Nat}
    {text : List Char}
    (short : text.length ≤ 2 * rounds + 2) :
    isEncoded (decodeUpTo rounds text) = false := by
  refine Bool.eq_false_iff.mpr fun stillEncoded => ?_
  have lost := length_decodeUpTo_of_encoded stillEncoded
  have long := three_le_length_of_encoded stillEncoded
  omega

/-- Rounds that are enough give what decoding without a limit gives. -/
theorem decodeUpTo_eq_decodeAll
    {rounds : Nat}
    {text : List Char}
    (plain : isEncoded (decodeUpTo rounds text) = false) :
    decodeUpTo rounds text = decodeAll text := by
  induction rounds generalizing text with
  | zero =>
      rw [decodeUpTo] at plain ⊢
      rw [decodeAll, dif_neg (Bool.eq_false_iff.mp plain)]
  | succ rounds inductionHypothesis =>
      rw [decodeUpTo] at plain ⊢
      rw [decodeAll]
      split at plain
      · rename_i encoded
        rw [if_pos encoded, dif_pos encoded]
        exact inductionHypothesis plain
      · rename_i notEncoded
        rw [if_neg notEncoded, dif_neg notEncoded]

/-- A text without encoded octets stays as it is in any number of rounds. -/
theorem decodeUpTo_of_plain
    {text : List Char}
    (plain : isEncoded text = false)
    (rounds : Nat) :
    decodeUpTo rounds text = text := by
  rw [decodeUpTo_eq_iterate, Function.iterate_fixed (decodeOnce_of_plain plain)]

/--
What decoding stops at is what a search for an encoded octet finds. A round of an
encoded text takes two characters off it at least, and a round of another leaves it
as it is; so stopping early does not matter, decoding without a limit comes to an end
with nothing encoded, and enough rounds lead there. A text that is encoded after all
the rounds has lost two characters in each, and so no short one is.
-/
theorem decoding_progresses (text : List Char) :
    (∃ pattern,
        Pattern.ofText "%[0-9a-fA-F]{2}".toList = .ok pattern ∧
          pattern.isMatch text = isEncoded text) ∧
      (isEncoded text = true → (decodeOnce text).length + 2 ≤ text.length) ∧
      (isEncoded text = false → decodeOnce text = text) ∧
      decodeFully text = decodeOnce^[16] text ∧
      (isEncoded (decodeAll text) = false ∧
        ∀ rounds, text.length ≤ 2 * rounds + 2 → decodeUpTo rounds text = decodeAll text) ∧
      (isEncoded (decodeFully text) = true →
        (decodeFully text).length + 32 ≤ text.length) ∧
      (text.length ≤ 34 →
        isEncoded (decodeFully text) = false ∧
          decodeFully (decodeFully text) = decodeFully text) := by
  refine
    ⟨⟨_, Pattern.ofText_codedOctet, isMatch_codedOctet text⟩,
      length_decodeOnce_of_encoded, decodeOnce_of_plain,
      decodeUpTo_eq_iterate maxRounds text, ⟨isEncoded_decodeAll text, ?_⟩,
      length_decodeUpTo_of_encoded, ?_⟩
  · intro rounds short
    exact decodeUpTo_eq_decodeAll (isEncoded_decodeUpTo short)
  · intro short
    have plain : isEncoded (decodeFully text) = false := isEncoded_decodeUpTo short
    exact ⟨plain, decodeUpTo_of_plain plain maxRounds⟩

end Text.Percent

end Untrack
