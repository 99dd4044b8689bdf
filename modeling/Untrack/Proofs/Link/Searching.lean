import Untrack.Proofs.Link.Finding
import Untrack.Proofs.Pattern.LastRun
import Untrack.Proofs.Pattern.Spelling
import Mathlib.Tactic.IntervalCases

namespace Untrack

/-!
# Searching a text for links

The first link of a text can be looked for with a pattern: an opening, and all that is
no white space behind it. The pattern is found just where a link begins first, and what
it takes up goes on to the next white space, because its last part is greedy.
-/

namespace Pattern

open Untrack.Text (CharSet)

/-- The part of a text that a match takes up. -/
def Match.part (found : Match) (text : List Char) : List Char :=
  (text.take found.stop).drop found.start

/-! ## The pattern -/

/-- All characters but white space. -/
def nonspaceCharacters : CharSet :=
  spaceCharacters.complement.normal

/-- An opening of a link, and all that is no white space behind it. -/
def linkParts : List Expr :=
  "http".toList.map .sign ++ [.repeated 0 (some 1) true (.sign 's')] ++
    "://".toList.map .sign ++ [.repeated 1 none true (.set nonspaceCharacters)]

/-- A link in a text. -/
def linkRun : Expr :=
  .concat linkParts

/-- The text of the pattern for links. -/
theorem ofText_linkRun : ofText "https?://\\S+".toList = .ok (ofExpr linkRun) :=
  ofText_eq_ok (by decide +kernel) (by decide +kernel)

/-- The characters of the pattern are those that are no white space. -/
theorem has_nonspaceCharacters (character : Char) :
    nonspaceCharacters.has character = !Text.isBlank character := by
  rw [nonspaceCharacters, CharSet.has, CharSet.hasCode_normal, ← CharSet.has,
    CharSet.has_complement, has_spaceCharacters]

/-- The signs of the pattern make the openings of links. -/
theorem mem_openings_iff {opening : List Char} :
    opening ∈ ({"http".toList} * (1 + {['s']}) * {"://".toList} : Language Char) ↔
      opening ∈ Link.openings := by
  simp only [Language.mem_mul, Language.mem_add, Language.mem_one, Link.openings,
    List.mem_cons, List.not_mem_nil, or_false]
  constructor
  · rintro ⟨_, ⟨_, rfl, _, rfl | rfl, rfl⟩, _, rfl, rfl⟩
    · exact .inl rfl
    · exact .inr rfl
  · rintro (rfl | rfl)
    · exact ⟨_, ⟨_, rfl, _, .inl rfl, rfl⟩, _, rfl, rfl⟩
    · exact ⟨_, ⟨_, rfl, _, .inr rfl, rfl⟩, _, rfl, rfl⟩

/-- What a link is read from. -/
theorem reads_linkRun_iff {text : List Char} {first last : Cursor} :
    linkRun.Reads text first last ↔
      ∃ opening ∈ Link.openings, ∃ body : List Char,
        body ≠ [] ∧ (∀ character ∈ body, Text.isBlank character = false) ∧
          first.Sees text (opening ++ body) ∧ last = first.beyond (opening ++ body) := by
  have spells :
      Spells linkParts
        ({"http".toList} * (1 + {['s']}) * {"://".toList} * someOf nonspaceCharacters) :=
    (((Spells.signs _).append (.optional (.signs ['s']) true)).append (.signs _)).append
      (.set_repeated _ true)
  rw [linkRun, Expr.reads_concat, spells.readsAll_iff]
  have mem_body_iff {body : List Char} :
      body ∈ someOf nonspaceCharacters ↔
        body ≠ [] ∧ ∀ character ∈ body, Text.isBlank character = false := by
    simp [mem_someOf, has_nonspaceCharacters]
  constructor
  · rintro ⟨_, ⟨opening, isOpening, body, isBody, rfl⟩, reads⟩
    obtain ⟨hasBody, plain⟩ := mem_body_iff.mp isBody
    exact ⟨opening, mem_openings_iff.mp isOpening, body, hasBody, plain, reads⟩
  · rintro ⟨opening, isOpening, body, hasBody, plain, reads⟩
    exact
      ⟨_, ⟨opening, mem_openings_iff.mpr isOpening, body,
        mem_body_iff.mpr ⟨hasBody, plain⟩, rfl⟩, reads⟩

/-- The program for links ends with the run of what is no white space. -/
theorem endsInRun_linkRun :
    (ofExpr linkRun).program.EndsInRun nonspaceCharacters 1 2 0 where
  -- The code is written from its end, so the run comes first and the openings behind it.
  isFork := rfl
  isReading := rfl
  isStop := rfl
  accepts_only index isAccept := by
    have inside : index < 12 := (Array.getElem?_eq_some_iff.mp isAccept).1
    interval_cases index
    · rfl
    all_goals cases isAccept
  leads_only index instruction isThere leads := by
    have inside : index < 12 := (Array.getElem?_eq_some_iff.mp isThere).1
    interval_cases index <;> cases isThere <;> revert leads <;> decide
  start_ne := by decide

end Pattern

namespace Link

open Pattern (linkRun)

/-! ## What the pattern finds -/

/-- The pattern matches at a place just if a link begins there. -/
theorem begins_drop_iff {text : List Char} {start : Nat} :
    Begins (text.drop start) ↔ ∃ stop, linkRun.Matches text start stop := by
  constructor
  · rintro ⟨opening, isOpening, character, rest, isText, isPlain⟩
    refine
      ⟨_, _, Pattern.reads_linkRun_iff.mpr
        ⟨opening, isOpening, [character], List.cons_ne_nil _ _,
          List.forall_mem_singleton.mpr isPlain, ⟨rest, ?_⟩, rfl⟩⟩
    rw [isText, List.append_assoc, List.singleton_append]
  · rintro ⟨stop, slots, reads⟩
    obtain ⟨opening, isOpening, body, hasBody, plain, ⟨rest, isText⟩, -⟩ :=
      Pattern.reads_linkRun_iff.mp reads
    obtain ⟨character, others, rfl⟩ := List.exists_cons_of_ne_nil hasBody
    refine ⟨opening, isOpening, character, others ++ rest, ?_, ?_⟩
    · rw [← isText, List.append_assoc, List.cons_append]
    · exact plain character List.mem_cons_self

/-- Where a link begins behind other text, the pattern matches. -/
theorem exists_matches_of_begins
    (before : List Char)
    {rest : List Char}
    (begins : Begins rest) :
    ∃ stop, linkRun.Matches (before ++ rest) before.length stop := by
  rw [← begins_drop_iff, List.drop_left]
  exact begins

/-- The pattern is found just in a text that holds a link. -/
theorem find_linkRun_eq_none_iff {text : List Char} :
    (Pattern.ofExpr linkRun).find text = none ↔ ¬Holds text := by
  have isMatch_iff : (Pattern.ofExpr linkRun).isMatch text = true ↔ Holds text := by
    rw [Pattern.isMatch_ofExpr_iff]
    constructor
    · rintro ⟨start, stop, inside, isMatch⟩
      exact
        ⟨text.take start, text.drop start, (List.take_append_drop start text).symm,
          begins_drop_iff.mpr ⟨stop, isMatch⟩⟩
    · rintro ⟨before, rest, rfl, begins⟩
      obtain ⟨stop, isMatch⟩ := exists_matches_of_begins before begins
      exact ⟨before.length, stop, by simp, isMatch⟩
  rw [← isMatch_iff, Pattern.isMatch, Option.not_isSome_iff_eq_none]

/-- The pattern is found where the first link begins. -/
theorem start_of_find_linkRun
    {before rest : List Char}
    {found : Pattern.Match}
    (isFound : (Pattern.ofExpr linkRun).find (before ++ rest) = some found)
    (begins : Begins rest)
    (noneBefore :
      ∀ front back, before = front ++ back → back ≠ [] → ¬Begins (back ++ rest)) :
    found.start = before.length := by
  have isEarly : found.start ≤ before.length := by
    obtain ⟨stop, isMatch⟩ := exists_matches_of_begins before begins
    exact Pattern.start_le_of_find_ofExpr isFound isMatch (by simp)
  by_contra isOther
  refine noneBefore _ _ (List.take_append_drop found.start before).symm ?_ ?_
  · rw [Ne, List.drop_eq_nil_iff, Nat.not_le]
    exact Nat.lt_of_le_of_ne isEarly isOther
  · rw [← List.drop_append_of_le_length isEarly]
    exact begins_drop_iff.mpr ⟨_, _, (Pattern.reads_of_find isFound).2⟩

/-- The pattern takes up what stands from the first link on up to the next white space. -/
theorem part_of_find_linkRun
    {text rest : List Char}
    {found : Pattern.Match}
    (isFound : (Pattern.ofExpr linkRun).find text = some found)
    (isFirst : fromFirst? text = some rest) :
    found.part text = firstRun rest := by
  obtain ⟨before, rfl, begins, noneBefore⟩ := fromFirst?_eq_some_iff.mp isFirst
  have isStart := start_of_find_linkRun isFound begins noneBefore
  obtain ⟨opening, isOpening, body, -, plain, ⟨after, isText⟩, isLast⟩ :=
    Pattern.reads_linkRun_iff.mp (Pattern.reads_of_find isFound).2
  have isStop : found.stop = (before ++ (opening ++ body)).length := by
    rw [List.length_append, ← isStart]
    exact congrArg Pattern.Cursor.position isLast
  rw [isStart, List.drop_left] at isText
  subst isText
  have isTaken :
      (before ++ (opening ++ body ++ after)).take found.stop = before ++ (opening ++ body) := by
    rw [← List.append_assoc, isStop, List.take_left]
  have ends (character : Char) (isHead : after.head? = some character) :
      Text.isBlank character = true := by
    have isPast := Pattern.endsInRun_linkRun.isPastRun_of_find isFound character
    rw [Pattern.has_nonspaceCharacters, Bool.not_eq_false', isStop, ← List.append_assoc,
      ← List.head?_drop, List.drop_left] at isPast
    exact isPast isHead
  rw [Pattern.Match.part, isTaken, isStart, List.drop_left, firstRun_append _ ends]
  exact List.forall_mem_append.mpr ⟨(of_mem_openings isOpening).1, plain⟩

/-- What a pattern for links finds in a text, without the marks at its end. -/
def extractBy (pattern : Pattern) (text : List Char) : Except Failure (List Char) :=
  match pattern.find text with
  | some found => .ok (Text.dropTrailing isClosing (found.part text))
  | none => .error (.withoutLink (String.ofList text))

/-- What is extracted from a text is what the pattern finds in it. -/
theorem extractBy_linkRun (text : List Char) :
    extractBy (Pattern.ofExpr linkRun) text = extract text := by
  rw [extractBy, extract]
  cases isFound : (Pattern.ofExpr linkRun).find text with
  | none =>
      rw [fromFirst?_eq_none_iff.mpr (find_linkRun_eq_none_iff.mp isFound)]
  | some found =>
      cases isFirst : fromFirst? text with
      | none =>
          rw [find_linkRun_eq_none_iff.mpr (fromFirst?_eq_none_iff.mp isFirst)] at isFound
          cases isFound
      | some rest =>
          dsimp only
          rw [part_of_find_linkRun isFound isFirst]

/--
What is extracted from a text is what the pattern for links finds in it. A text yields a
link just if it holds one, and what it yields is the link that the cut around the first
one gives. That link is the first one in itself just if its body does not consist of
marks.
-/
theorem extract_first (text : List Char) :
    (∃ pattern,
        Pattern.ofText "https?://\\S+".toList = .ok pattern ∧
          extractBy pattern text = extract text) ∧
      ((∃ link, extract text = .ok link) ↔ Holds text) ∧
      (∀ link,
        extract text = .ok link ↔
          ∃ sentence : Sentence,
            sentence.IsFirst ∧ sentence.text = text ∧ sentence.link = link) ∧
      ∀ sentence : Sentence,
        sentence.IsFirst →
        sentence.text = text →
          (extract sentence.link = .ok sentence.link ↔
            ∃ character ∈ sentence.body, isClosing character = false) := by
  refine
    ⟨⟨_, Pattern.ofText_linkRun, extractBy_linkRun text⟩, exists_extract_eq_ok_iff,
      fun link => ⟨fun isExtracted => ?_, ?_⟩, ?_⟩
  · obtain ⟨sentence, isCut, rfl⟩ :=
      exists_isFirst (exists_extract_eq_ok_iff.mp ⟨link, isExtracted⟩)
    rw [isCut.extract_text] at isExtracted
    cases isExtracted
    exact ⟨sentence, isCut, rfl, rfl⟩
  · rintro ⟨sentence, isCut, rfl, rfl⟩
    exact isCut.extract_text
  · intro sentence isCut _
    rw [isCut.extract_link_iff, isCut.kept_ne_nil_iff]

example : extract "see (https://a.test/x).".toList = .ok "https://a.test/x".toList := by
  rfl

/-- Nothing but a mark stands behind the opening, and the opening alone is extracted. -/
theorem extract_leaves_opening :
    extract "https://.".toList = .ok "https://".toList ∧
      ¬∃ link, extract "https://".toList = .ok link := by
  refine ⟨by rfl, ?_⟩
  rintro ⟨link, isExtracted⟩
  exact absurd isExtracted (by rw [show extract "https://".toList = .error _ from rfl]; nofun)

end Link

end Untrack
