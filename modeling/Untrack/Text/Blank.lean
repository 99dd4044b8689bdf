namespace Untrack.Text

/-!
# White space

The characters that count as white space in links, rule texts and patterns, and
the two ways text loses them: at both ends (`trim`) and, for any class of
characters, at the end alone (`dropTrailing`).
-/

/-- A character with the Unicode property `White_Space`. -/
def isBlank (character : Char) : Bool :=
  let code := character.toNat
  (0x09 ≤ code && code ≤ 0x0D) || code == 0x20 || code == 0x85 ||
    code == 0xA0 || code == 0x1680 || (0x2000 ≤ code && code ≤ 0x200A) ||
    code == 0x2028 || code == 0x2029 || code == 0x202F || code == 0x205F ||
    code == 0x3000

/-- Remove the longest run of characters of one class from the end. -/
def dropTrailing
    (inClass : Char → Bool)
    (characters : List Char) :
    List Char :=
  (characters.reverse.dropWhile inClass).reverse

/-- Remove white space from both ends of a list of characters. -/
def trimmed (characters : List Char) : List Char :=
  dropTrailing isBlank (characters.dropWhile isBlank)

/-- Remove white space from both ends of a text. -/
def trim (text : String) : String :=
  String.ofList (trimmed text.toList)

/-- Trimming a text is trimming its characters. -/
@[simp] theorem toList_trim (text : String) :
    (trim text).toList = trimmed text.toList :=
  String.toList_ofList

/-! ## What is left of a text -/

/-- The text begins with white space. -/
def beginsBlank (characters : List Char) : Bool :=
  characters.head?.any isBlank

/-- The text ends with white space. -/
def endsBlank (characters : List Char) : Bool :=
  characters.getLast?.any isBlank

/-- Removing from the end leaves an initial part. -/
theorem dropTrailing_prefix
    (inClass : Char → Bool)
    (characters : List Char) :
    dropTrailing inClass characters <+: characters := by
  have shortened := List.dropWhile_suffix inClass (l := characters.reverse)
  rw [← List.reverse_prefix, List.reverse_reverse] at shortened
  exact shortened

/-- A trimmed text is left of the text when characters are taken out. -/
theorem trimmed_sublist (characters : List Char) :
    (trimmed characters).Sublist characters := by
  have atStart := List.dropWhile_sublist isBlank (l := characters)
  have atEnd := dropTrailing_prefix isBlank (characters.dropWhile isBlank)
  exact atEnd.sublist.trans atStart

/-- After a run has been removed from the start of a text none is left there. -/
private theorem any_head?_dropWhile
    (inClass : Char → Bool)
    (characters : List Char) :
    (characters.dropWhile inClass).head?.any inClass = false := by
  have stops := List.head?_dropWhile_not inClass characters
  cases shape : (characters.dropWhile inClass).head? with
  | none =>
      rfl
  | some first =>
      rw [shape] at stops
      simpa using stops

/-- Without a run at the start of a text nothing is removed there. -/
private theorem dropWhile_eq_self
    {inClass : Char → Bool}
    {characters : List Char}
    (noRun : characters.head?.any inClass = false) :
    characters.dropWhile inClass = characters := by
  cases characters with
  | nil =>
      rfl
  | cons first rest =>
      exact List.dropWhile_cons_of_neg (by simpa using noRun)

/-- A trimmed text does not begin with white space. -/
theorem beginsBlank_trimmed (characters : List Char) :
    beginsBlank (trimmed characters) = false := by
  have noRun := any_head?_dropWhile isBlank characters
  obtain ⟨removed, whole⟩ :=
    dropTrailing_prefix isBlank (characters.dropWhile isBlank)
  rw [← whole] at noRun
  rw [beginsBlank, trimmed]
  cases shape : dropTrailing isBlank (characters.dropWhile isBlank) with
  | nil =>
      rfl
  | cons first rest =>
      rw [shape] at noRun
      exact noRun

/-- A trimmed text does not end with white space. -/
theorem endsBlank_trimmed (characters : List Char) :
    endsBlank (trimmed characters) = false := by
  rw [endsBlank, trimmed, dropTrailing, List.getLast?_reverse]
  exact any_head?_dropWhile isBlank _

/-- A text without white space at its ends stays as it is when it is trimmed. -/
theorem trimmed_eq_self
    {characters : List Char}
    (beginsPlain : beginsBlank characters = false)
    (endsPlain : endsBlank characters = false) :
    trimmed characters = characters := by
  rw [endsBlank, ← List.head?_reverse] at endsPlain
  rw [trimmed, dropWhile_eq_self beginsPlain, dropTrailing,
    dropWhile_eq_self endsPlain, List.reverse_reverse]

/-- White space around a text is trimmed away, however much there is. -/
theorem trimmed_append_append
    {front back : List Char}
    (frontBlank : ∀ character ∈ front, isBlank character = true)
    (backBlank : ∀ character ∈ back, isBlank character = true)
    (characters : List Char) :
    trimmed (front ++ characters ++ back) = trimmed characters := by
  have backDropped : back.dropWhile isBlank = [] := by
    rw [← List.append_nil back, List.dropWhile_append_of_pos backBlank, List.dropWhile_nil]
  rw [trimmed, trimmed, List.append_assoc,
    List.dropWhile_append_of_pos frontBlank, List.dropWhile_append]
  split
  case isTrue noneLeft =>
    rw [backDropped, List.isEmpty_iff.mp noneLeft]
  case isFalse =>
    have backReversed : ∀ character ∈ back.reverse, isBlank character = true :=
      fun character member => backBlank character (List.mem_reverse.mp member)
    rw [dropTrailing, List.reverse_append,
      List.dropWhile_append_of_pos backReversed, ← dropTrailing]

/-- A trimmed text stays as it is when trimmed again. -/
theorem trimmed_trimmed (characters : List Char) :
    trimmed (trimmed characters) = trimmed characters :=
  trimmed_eq_self (beginsBlank_trimmed characters) (endsBlank_trimmed characters)

end Untrack.Text
