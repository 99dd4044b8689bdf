import Untrack.Proofs.Link.Usable

namespace Untrack

/-!
# Links in a text

A link begins where one of two openings has a character behind it that is no white
space, and it goes on up to the next white space. The marks at its end belong to the
sentence around it. `Sentence` cuts a text in this way, and `IsFirst` says when the
cut is around the first link. What is extracted from a text is the link of this cut.

The marks are taken off last of all, and nobody looks again at what they leave. Where
nothing but marks stands behind the opening, the opening is all that is left, and
an opening alone is no link.
-/

namespace Text

variable {inClass : Char → Bool}

/-- What is left of a text has no character of the class at its end. -/
theorem getLast?_dropTrailing
    {text : List Char}
    {last : Char}
    (isLast : (dropTrailing inClass text).getLast? = some last) :
    inClass last = false := by
  have stops := List.head?_dropWhile_not inClass text.reverse
  rw [dropTrailing, List.getLast?_reverse] at isLast
  rw [isLast] at stops
  simpa using stops

/-- A run at the end is dropped up to a character outside its class. -/
theorem dropTrailing_append
    {kept run : List Char}
    (inRun : ∀ character ∈ run, inClass character = true)
    (stops : ∀ last, kept.getLast? = some last → inClass last = false) :
    dropTrailing inClass (kept ++ run) = kept := by
  have turned : ∀ character ∈ run.reverse, inClass character = true :=
    fun character member => inRun character (List.mem_reverse.mp member)
  rw [dropTrailing, List.reverse_append, List.dropWhile_append_of_pos turned]
  cases shape : kept.reverse with
  | nil =>
      rw [List.reverse_eq_nil_iff.mp shape]
      rfl
  | cons last before =>
      have isLast : kept.getLast? = some last := by
        rw [← List.head?_reverse, shape]
        rfl
      rw [List.dropWhile_cons_of_neg (by simp [stops last isLast]), ← shape,
        List.reverse_reverse]

end Text

namespace Link

/-! ## Where links begin -/

/-- What a link opens with. -/
def openings : List (List Char) :=
  ["http://".toList, "https://".toList]

/-- A link begins the text: an opening, and behind it something other than white space. -/
def Begins (text : List Char) : Prop :=
  ∃ opening ∈ openings, ∃ character rest,
    text = opening ++ character :: rest ∧ Text.isBlank character = false

/-- A link begins somewhere in the text. -/
def Holds (text : List Char) : Prop :=
  ∃ before rest, text = before ++ rest ∧ Begins rest

/-- What follows an opening is the text without it. -/
theorem opened?_eq_some_iff {text rest : List Char} :
    opened? text = some rest ↔ ∃ opening ∈ openings, text = opening ++ rest := by
  constructor
  · intro isOpened
    unfold opened? at isOpened
    split at isOpened
    · cases isOpened
      exact ⟨"http://".toList, by simp [openings], rfl⟩
    · cases isOpened
      exact ⟨"https://".toList, by simp [openings], rfl⟩
    · cases isOpened
  · rintro ⟨opening, isOpening, rfl⟩
    simp only [openings, List.mem_cons, List.not_mem_nil, or_false] at isOpening
    rcases isOpening with rfl | rfl <;> rfl

/-- The test for a link at the start of a text finds just these. -/
theorem beginsLink_iff (text : List Char) : beginsLink text = true ↔ Begins text := by
  unfold beginsLink
  constructor
  · intro begins
    split at begins
    · rename_i character rest isOpened
      obtain ⟨opening, isOpening, isText⟩ := opened?_eq_some_iff.mp isOpened
      exact ⟨opening, isOpening, character, rest, isText, by simpa using begins⟩
    · cases begins
  · rintro ⟨opening, isOpening, character, rest, isText, isPlain⟩
    rw [opened?_eq_some_iff.mpr ⟨opening, isOpening, isText⟩]
    simp [isPlain]

/-- Without a link in it a text has no rest from a first one on. -/
theorem fromFirst?_eq_none_iff {text : List Char} :
    fromFirst? text = none ↔ ¬Holds text := by
  induction text with
  | nil =>
      refine iff_of_true rfl ?_
      rintro ⟨before, rest, isText, opening, isOpening, character, others, rfl, -⟩
      simp at isText
  | cons first rest inductionHypothesis =>
      rw [fromFirst?]
      split
      · rename_i begins
        refine iff_of_false nofun (not_not_intro ?_)
        exact ⟨[], first :: rest, rfl, (beginsLink_iff _).mp begins⟩
      · rename_i beginsNone
        rw [inductionHypothesis, not_iff_not]
        constructor
        · rintro ⟨before, others, rfl, begins⟩
          exact ⟨first :: before, others, rfl, begins⟩
        · rintro ⟨before, others, isText, begins⟩
          rcases before with _ | ⟨_, before⟩
          · rw [List.nil_append] at isText
            rw [beginsLink_iff, isText] at beginsNone
            exact absurd begins beginsNone
          · exact ⟨before, others, (List.cons.inj isText).2, begins⟩

/-- The rest of a text from its first link on begins with a link, and no longer one does. -/
theorem fromFirst?_eq_some_iff {text rest : List Char} :
    fromFirst? text = some rest ↔
      ∃ before,
        text = before ++ rest ∧ Begins rest ∧
          ∀ front back, before = front ++ back → back ≠ [] → ¬Begins (back ++ rest) := by
  induction text with
  | nil =>
      refine iff_of_false nofun ?_
      rintro ⟨before, isText, ⟨opening, isOpening, character, others, rfl, -⟩, -⟩
      simp at isText
  | cons first others inductionHypothesis =>
      rw [fromFirst?]
      split
      · rename_i begins
        rw [beginsLink_iff] at begins
        constructor
        · rintro ⟨⟩
          refine ⟨[], rfl, begins, fun front back isNone isSome => ?_⟩
          exact absurd (List.append_eq_nil_iff.mp isNone.symm).2 isSome
        · rintro ⟨before, isText, -, isFirst⟩
          rcases before with _ | ⟨_, before⟩
          · rw [isText, List.nil_append]
          · rw [isText] at begins
            exact absurd begins (isFirst [] _ rfl (List.cons_ne_nil _ _))
      · rename_i beginsNone
        rw [beginsLink_iff] at beginsNone
        rw [inductionHypothesis]
        constructor
        · rintro ⟨before, rfl, begins, isFirst⟩
          refine ⟨first :: before, rfl, begins, fun front back isBefore isSome => ?_⟩
          rcases front with _ | ⟨_, front⟩
          · rw [← List.nil_append back, ← isBefore]
            exact beginsNone
          · exact isFirst front back (List.cons.inj isBefore).2 isSome
        · rintro ⟨before, isText, begins, isFirst⟩
          rcases before with _ | ⟨_, before⟩
          · rw [List.nil_append] at isText
            rw [isText] at beginsNone
            exact absurd begins beginsNone
          · obtain ⟨rfl, rfl⟩ := List.cons.inj isText
            exact
              ⟨before, rfl, begins, fun front back isBefore isSome =>
                isFirst (first :: front) back (by rw [isBefore]; rfl) isSome⟩

/-! ## The first link -/

/-- A text cut into a link, the marks that end it, and what stands around both. -/
structure Sentence where
  before : List Char
  opening : List Char
  kept : List Char
  marks : List Char
  after : List Char

namespace Sentence

/-- What stands behind the opening, up to the next white space. -/
def body (sentence : Sentence) : List Char :=
  sentence.kept ++ sentence.marks

/-- The text from the link on. -/
def rest (sentence : Sentence) : List Char :=
  sentence.opening ++ sentence.body ++ sentence.after

/-- The whole text. -/
def text (sentence : Sentence) : List Char :=
  sentence.before ++ sentence.rest

/-- The link. -/
def link (sentence : Sentence) : List Char :=
  sentence.opening ++ sentence.kept

/-- The text is cut around its first link. -/
structure IsFirst (sentence : Sentence) : Prop where
  opens : sentence.opening ∈ openings
  hasBody : sentence.body ≠ []
  plain : ∀ character ∈ sentence.body, Text.isBlank character = false
  ends : ∀ character, sentence.after.head? = some character → Text.isBlank character = true
  isFirst :
    ∀ front back, sentence.before = front ++ back → back ≠ [] →
      ¬Begins (back ++ sentence.rest)
  areMarks : ∀ character ∈ sentence.marks, isClosing character = true
  keepsNone : ∀ last, sentence.kept.getLast? = some last → isClosing last = false

end Sentence

/-- An opening holds no white space and ends with what is no mark. -/
theorem of_mem_openings
    {opening : List Char}
    (isOpening : opening ∈ openings) :
    (∀ character ∈ opening, Text.isBlank character = false) ∧
      ∀ last, opening.getLast? = some last → isClosing last = false := by
  simp only [openings, List.mem_cons, List.not_mem_nil, or_false] at isOpening
  constructor
  · rcases isOpening with rfl | rfl <;> exact List.forall_iff_forall_mem.mp (by decide)
  · intro last isLast
    have isSlash : last = '/' := by
      rcases isOpening with rfl | rfl <;> exact (Option.some.inj isLast).symm
    rw [isSlash]
    rfl

/-- A run without white space goes on up to the white space behind it. -/
theorem firstRun_append
    {run after : List Char}
    (plain : ∀ character ∈ run, Text.isBlank character = false)
    (ends : ∀ character, after.head? = some character → Text.isBlank character = true) :
    firstRun (run ++ after) = run := by
  have stops (first : Char) (isFirst : after.head? = some first) :
      (!Text.isBlank first) = false := by
    rw [ends first isFirst]
    rfl
  rw [firstRun, Text.takeWhile_append_of_head stops]
  exact List.takeWhile_eq_self_iff.mpr fun character member => by simp [plain character member]

namespace Sentence.IsFirst

variable {sentence : Sentence}

/-- The link and its marks are all of the text up to the next white space. -/
theorem firstRun_rest (isCut : sentence.IsFirst) :
    firstRun sentence.rest = sentence.link ++ sentence.marks := by
  have plain :
      ∀ character ∈ sentence.opening ++ sentence.body, Text.isBlank character = false :=
    List.forall_mem_append.mpr ⟨(of_mem_openings isCut.opens).1, isCut.plain⟩
  rw [rest, firstRun_append plain isCut.ends, body, link, List.append_assoc]

/-- The link does not end with a mark. -/
theorem link_keepsNone
    (isCut : sentence.IsFirst)
    {last : Char}
    (isLast : sentence.link.getLast? = some last) :
    isClosing last = false := by
  rw [link, List.getLast?_append] at isLast
  cases shape : sentence.kept.getLast? with
  | none =>
      rw [shape, Option.none_or] at isLast
      exact (of_mem_openings isCut.opens).2 last isLast
  | some other =>
      rw [shape, Option.some_or] at isLast
      exact Option.some.inj isLast ▸ isCut.keepsNone other shape

/-- What is extracted from a text is the link of a cut around the first one. -/
theorem extract_text (isCut : sentence.IsFirst) :
    extract sentence.text = .ok sentence.link := by
  obtain ⟨first, others, isBody⟩ := List.exists_cons_of_ne_nil isCut.hasBody
  have begins : Begins sentence.rest := by
    refine ⟨sentence.opening, isCut.opens, first, others ++ sentence.after, ?_, ?_⟩
    · simp [rest, isBody]
    · exact isCut.plain first (by simp [isBody])
  have isFound : fromFirst? sentence.text = some sentence.rest :=
    fromFirst?_eq_some_iff.mpr ⟨sentence.before, rfl, begins, isCut.isFirst⟩
  rw [extract, isFound]
  dsimp only
  rw [isCut.firstRun_rest,
    Text.dropTrailing_append isCut.areMarks fun _ => isCut.link_keepsNone]

/-- Something is kept behind the opening unless marks are all that stands there. -/
theorem kept_ne_nil_iff (isCut : sentence.IsFirst) :
    sentence.kept ≠ [] ↔ ∃ character ∈ sentence.body, isClosing character = false := by
  constructor
  · intro keepsSome
    refine ⟨_, List.mem_append_left _ (List.getLast_mem keepsSome), ?_⟩
    exact isCut.keepsNone _ (List.getLast?_eq_some_getLast keepsSome)
  · rintro ⟨character, member, isNone⟩ keepsNone
    rw [body, keepsNone, List.nil_append] at member
    rw [isCut.areMarks character member] at isNone
    cases isNone

/-- A link with something kept behind its opening is the first one in itself. -/
theorem alone
    (isCut : sentence.IsFirst)
    (keepsSome : sentence.kept ≠ []) :
    IsFirst ⟨[], sentence.opening, sentence.kept, [], []⟩ where
  opens := isCut.opens
  hasBody := by
    rw [body, List.append_nil]
    exact keepsSome
  plain character member := by
    rw [body, List.append_nil] at member
    exact isCut.plain character (List.mem_append_left _ member)
  ends := nofun
  isFirst front back isNone isSome :=
    absurd (List.append_eq_nil_iff.mp isNone.symm).2 isSome
  areMarks := nofun
  keepsNone := isCut.keepsNone

/-- The link of a cut is a link by itself if something is kept behind its opening. -/
theorem extract_link_iff (isCut : sentence.IsFirst) :
    extract sentence.link = .ok sentence.link ↔ sentence.kept ≠ [] := by
  constructor
  · intro isExtracted keepsNone
    have isNone : ∀ opening ∈ openings, (extract opening).toOption = none := by
      decide +kernel
    have noLink := isNone sentence.opening isCut.opens
    rw [link, keepsNone, List.append_nil] at isExtracted
    rw [isExtracted] at noLink
    cases noLink
  · intro keepsSome
    have isText := (isCut.alone keepsSome).extract_text
    simpa [text, rest, body, link] using isText

end Sentence.IsFirst

/-- A text that holds a link can be cut around the first one. -/
theorem exists_isFirst
    {text : List Char}
    (holds : Holds text) :
    ∃ sentence : Sentence, sentence.IsFirst ∧ sentence.text = text := by
  obtain ⟨rest, isFound⟩ : ∃ rest, fromFirst? text = some rest := by
    refine Option.ne_none_iff_exists'.mp fun isNone => ?_
    exact fromFirst?_eq_none_iff.mp isNone holds
  obtain ⟨before, isText, begins, isFirst⟩ := fromFirst?_eq_some_iff.mp isFound
  obtain ⟨opening, isOpening, first, others, rfl, isPlain⟩ := begins
  let body := (first :: others).takeWhile (!Text.isBlank ·)
  let after := (first :: others).dropWhile (!Text.isBlank ·)
  obtain ⟨marks, areMarks, isBody⟩ := Text.exists_dropTrailing_append isClosing body
  have isWhole : body ++ after = first :: others :=
    List.takeWhile_append_dropWhile
  refine ⟨⟨before, opening, Text.dropTrailing isClosing body, marks, after⟩, ?_, ?_⟩
  · have hasBody : body ≠ [] := by
      simp [body, isPlain]
    have isRest : (⟨before, opening, Text.dropTrailing isClosing body, marks, after⟩ :
        Sentence).rest = opening ++ first :: others := by
      rw [Sentence.rest, Sentence.body, ← isBody, List.append_assoc, isWhole]
    refine
      { opens := isOpening
        hasBody := by rwa [Sentence.body, ← isBody]
        plain := ?_
        ends := ?_
        isFirst := by rwa [isRest]
        areMarks := areMarks
        keepsNone := fun last isLast => Text.getLast?_dropTrailing isLast }
    · intro character member
      rw [Sentence.body, ← isBody] at member
      simpa using List.mem_takeWhile_imp member
    · intro character isHead
      have stops := List.head?_dropWhile_not (!Text.isBlank ·) (first :: others)
      rw [show ((first :: others).dropWhile (!Text.isBlank ·)).head? = some character from
        isHead] at stops
      simpa using stops
  · rw [isText, Sentence.text, Sentence.rest, Sentence.body, ← isBody, List.append_assoc,
      isWhole]

/-- A text has a link to extract just if it holds one. -/
theorem exists_extract_eq_ok_iff {text : List Char} :
    (∃ link, extract text = .ok link) ↔ Holds text := by
  constructor
  · rintro ⟨link, isExtracted⟩
    by_contra holdsNone
    rw [extract, fromFirst?_eq_none_iff.mpr holdsNone] at isExtracted
    cases isExtracted
  · intro holds
    obtain ⟨sentence, isCut, rfl⟩ := exists_isFirst holds
    exact ⟨sentence.link, isCut.extract_text⟩

end Link

end Untrack
