import Untrack.Proofs.Link.Finding

namespace Untrack

/-!
# The link that a text is or holds

A text is tried as a link as a whole, and only if it is none the first link in it is
taken. An address is settled when its host ends: whatever follows is part of it, other
words as well. So a text that begins with a link, and goes on after the end of the host,
is a link as a whole, white space and all. A link found inside a text holds no white
space.
-/

namespace Text

/-- A trimmed text is a part of the text. -/
theorem trimmed_infix (characters : List Char) : trimmed characters <:+: characters := by
  have begins : trimmed characters <+: characters.dropWhile isBlank :=
    dropTrailing_prefix isBlank _
  exact begins.isInfix.trans (List.dropWhile_suffix isBlank).isInfix

end Text

namespace Url

/-- Nothing that follows the end of an authority matters to it. -/
theorem authorityText_append_cons
    {sign : Char}
    (ends : endsAuthority sign = true)
    (front rest : List Char)
    (hasText : authorityText (front ++ [sign]) ≠ []) :
    authorityText (front ++ sign :: rest) = authorityText (front ++ [sign]) := by
  have stops (after : List Char) (first : Char) (isFirst : (sign :: after).head? = some first) :
      (!endsAuthority first) = false := by
    cases isFirst
    rw [ends]
    rfl
  unfold authorityText at hasText ⊢
  rw [List.dropWhile_append] at hasText ⊢
  rw [@List.dropWhile_append _ isSlash front [sign]]
  split
  case isTrue onlySlashes =>
    rw [if_pos onlySlashes] at hasText
    by_cases slash : isSlash sign = true
    · simp [slash] at hasText
    · simp [slash, ends]
  case isFalse =>
    rw [Text.takeWhile_append_of_head (stops rest), Text.takeWhile_append_of_head (stops [])]

/-- Nothing that follows the end of a host matters to what a text opens with. -/
theorem opens_append_cons
    {sign : Char}
    (ends : endsAuthority sign = true)
    {front : List Char}
    (opens : Opens (front ++ [sign]))
    (rest : List Char) :
    Opens (front ++ sign :: rest) := by
  have stops (after : List Char) (first : Char) (isFirst : (sign :: after).head? = some first) :
      Link.isSchemeCharacter first = false ∧ first ≠ ':' := by
    cases isFirst
    simp only [endsAuthority, isSlash, Bool.or_eq_true, beq_iff_eq] at ends
    rcases ends with ((rfl | rfl) | rfl) | rfl <;> decide
  obtain ⟨scheme, text, port, isScheme, isPort, hasAuthority⟩ := opens
  rw [scheme?_append (stops [])] at isScheme
  obtain ⟨⟨_, text⟩, inFront, ⟨⟩⟩ := Option.map_eq_some_iff.mp isScheme
  have hasText : authorityText (text ++ [sign]) ≠ [] := by
    intro isNone
    rw [isNone] at hasAuthority
    cases hasAuthority
  refine ⟨scheme, text ++ sign :: rest, port, ?_, isPort, ?_⟩
  · rw [scheme?_append (stops rest), inFront]
    rfl
  · rwa [authorityText_append_cons ends text rest hasText]

/-- A link whose host has ended is one with anything behind it. -/
theorem isLink_append_cons
    {sign : Char}
    (ends : endsAuthority sign = true)
    {front : List Char}
    (usable : Link.isLink (front ++ [sign]) = true)
    (rest : List Char) :
    Link.isLink (front ++ sign :: rest) = true := by
  have kept : Text.isBlank sign = false ∧ isMargin sign = false := by
    simp only [endsAuthority, isSlash, Bool.or_eq_true, beq_iff_eq] at ends
    rcases ends with ((rfl | rfl) | rfl) | rfl <;> decide
  rw [isLink_iff, prepared_append_cons kept.1 kept.2] at usable ⊢
  exact opens_append_cons ends usable _

end Url

namespace Link

/-- White space around a text does not matter to whether it is a link. -/
theorem isLink_trimmed (text : List Char) : isLink (Text.trimmed text) = isLink text := by
  rw [isLink, Text.trimmed_trimmed, isLink]

/-- What is extracted from a text is a part of it without white space. -/
theorem plain_of_extract
    {text link : List Char}
    (isExtracted : extract text = .ok link) :
    link <:+: text ∧ ∀ character ∈ link, Text.isBlank character = false := by
  obtain ⟨sentence, isCut, rfl⟩ :=
    exists_isFirst (exists_extract_eq_ok_iff.mp ⟨link, isExtracted⟩)
  rw [isCut.extract_text] at isExtracted
  cases isExtracted
  constructor
  · refine ⟨sentence.before, sentence.marks ++ sentence.after, ?_⟩
    simp [Sentence.text, Sentence.rest, Sentence.body, Sentence.link]
  · intro character member
    rcases List.mem_append.mp member with inOpening | isKept
    · exact (of_mem_openings isCut.opens).1 character inOpening
    · exact isCut.plain character (List.mem_append_left _ isKept)

/-- A text that is a link resolves to itself, and any other to the first link in it. -/
theorem resolve_eq_ok_iff {text link : List Char} :
    resolve text = .ok link ↔
      (isLink text = true ∧ link = Text.trimmed text) ∨
        (isLink text = false ∧ extract text = .ok link ∧ isLink link = true) := by
  unfold resolve
  split
  case isTrue usable =>
    simpa [usable] using eq_comm
  case isFalse unusable =>
    cases extract text with
    | error failure =>
        simp [unusable]
    | ok found =>
        dsimp only
        split
        case isTrue usable =>
          constructor
          · rintro ⟨⟩
            exact .inr ⟨by simpa using unusable, rfl, usable⟩
          · rintro (⟨isWhole, -⟩ | ⟨-, ⟨⟩, -⟩)
            · exact absurd isWhole unusable
            · rfl
        case isFalse foundNone =>
          refine iff_of_false nofun ?_
          rintro (⟨isWhole, -⟩ | ⟨-, ⟨⟩, usable⟩)
          · exact unusable isWhole
          · exact foundNone usable

/--
What a text resolves to is a link and a part of the text. It holds white space just if the
text is a link as a whole and has white space inside, and that is so for each text that
goes on with white space behind a link whose host has ended.
-/
theorem resolve_whole_or_first
    {text link : List Char}
    (resolved : resolve text = .ok link) :
    isLink link = true ∧
      link <:+: text ∧
      ((∃ character ∈ link, Text.isBlank character = true) ↔
        isLink text = true ∧
          ∃ character ∈ Text.trimmed text, Text.isBlank character = true) ∧
      (∀ front sign rest,
        text = front ++ sign :: rest →
        Url.endsAuthority sign = true →
        isLink (front ++ [sign]) = true →
          link = Text.trimmed text) ∧
      (isLink text = false → extract text = .ok link) := by
  rcases resolve_eq_ok_iff.mp resolved with ⟨usable, rfl⟩ | ⟨unusable, isExtracted, usable⟩
  · refine ⟨by rwa [isLink_trimmed], Text.trimmed_infix text, by simp [usable], ?_, ?_⟩
    · intros
      rfl
    · simp [usable]
  · obtain ⟨isPart, plain⟩ := plain_of_extract isExtracted
    refine ⟨usable, isPart, ?_, ?_, fun _ => isExtracted⟩
    · refine iff_of_false ?_ (by simp [unusable])
      rintro ⟨character, member, isBlank⟩
      rw [plain character member] at isBlank
      cases isBlank
    · rintro front sign rest rfl ends isWhole
      rw [Url.isLink_append_cons ends isWhole rest] at unusable
      cases unusable

/-- A sentence around a link is no part of what it resolves to. -/
theorem resolve_whole_or_first_of_sentence :
    resolve "see https://a.test/x, and more".toList = .ok "https://a.test/x".toList ∧
      isLink "https://a.test/x".toList = true := by
  have resolved :
      resolve "see https://a.test/x, and more".toList = .ok "https://a.test/x".toList := by
    decide +kernel
  exact ⟨resolved, (resolve_whole_or_first resolved).1⟩

/-- A text that goes on behind a link is taken as a whole, with its white space. -/
theorem resolve_takes_words :
    resolve "https://a.test/x and more".toList = .ok "https://a.test/x and more".toList ∧
      ∃ character ∈ "https://a.test/x and more".toList, Text.isBlank character = true := by
  have resolved :
      resolve "https://a.test/x and more".toList = .ok "https://a.test/x and more".toList := by
    decide +kernel
  exact ⟨resolved, ' ', by decide, by decide⟩

end Link

end Untrack
