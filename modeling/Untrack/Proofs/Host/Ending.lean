import Untrack.Proofs.Text.Decoding
import Untrack.Url.Reader
import Mathlib.Data.List.InsertIdx

namespace Untrack

/-!
# How hosts end

White space at the ends of an address counts for nothing, but within an address it
does: no host is read from a text that ends with it. So a link in which something
follows the host has no white space in between, and its host does not come to
stand with white space at the end when what follows is taken away. The character
goes through all that is done to a name: it survives decoding, the plain forms and
the canonical form, and then no label that holds it is sound.
-/

namespace Text.Canonical

/-! ## The canonical form -/

/-- No sign below the printable ones is the base of a composite. -/
theorem join?_of_le
    {base : Nat}
    (isLow : base ≤ 0x20)
    (mark : Nat) :
    join? base mark = none := by
  have noComposite :
      (composites.find? fun composite =>
        composite.base == base && composite.mark == mark) = none := by
    have above : ∀ composite ∈ composites, 0x20 < composite.base := by
      decide +kernel
    refine List.find?_eq_none.mpr fun composite member => ?_
    have differs := above composite member
    simp only [Bool.and_eq_true, beq_iff_eq]
    omega
  have noSyllable : Hangul.join? base mark = none := by
    unfold Hangul.join?
    rw [if_neg, if_neg]
    · simp only [Hangul.firstSyllable]
      omega
    · simp only [Hangul.firstLead]
      omega
  unfold join?
  split
  · rfl
  · rw [noSyllable, noComposite]
    rfl

/-- Joining to a base takes nothing away that joins with nothing. -/
theorem mem_joinTo
    {code base : Nat}
    {held rest : List Nat}
    (isLow : code ≤ 0x20)
    (member : code ∈ base :: held ++ rest) :
    code ∈ joinTo base held rest := by
  induction rest generalizing base held with
  | nil =>
      simpa [joinTo] using member
  | cons next rest inductionHypothesis =>
      rw [joinTo]
      split
      · rename_i whole isJoined
        split at isJoined
        · -- Neither of the two that were joined is the one looked for.
          have notBase : code ≠ base := by
            rintro rfl
            rw [join?_of_le isLow] at isJoined
            cases isJoined
          have notNext : code ≠ next := by
            rintro rfl
            rw [join?, if_pos (by omega)] at isJoined
            cases isJoined
          refine inductionHypothesis ?_
          simp only [List.cons_append, List.mem_cons, List.mem_append] at member ⊢
          tauto
        · cases isJoined
      · split
        · have later : code ∈ next :: rest → code ∈ joinTo next [] rest :=
            fun among => inductionHypothesis (by simpa using among)
          simp only [List.cons_append, List.mem_cons, List.mem_append] at member later ⊢
          tauto
        · refine inductionHypothesis ?_
          simp only [List.cons_append, List.mem_cons, List.mem_append] at member ⊢
          tauto

/-- Joining takes nothing away that joins with nothing. -/
theorem mem_compose
    {code : Nat}
    {codes : List Nat}
    (isLow : code ≤ 0x20)
    (member : code ∈ codes) :
    code ∈ compose codes := by
  induction codes with
  | nil =>
      cases member
  | cons first rest inductionHypothesis =>
      rw [compose]
      split
      · exact mem_joinTo isLow member
      · exact List.mem_cons.mpr ((List.mem_cons.mp member).imp_right inductionHypothesis)

/-- White space and controls in ASCII stay in the canonical form of a text. -/
theorem mem_normalize
    {character : Char}
    {text : List Char}
    (isLow : character.toNat ≤ 0x20)
    (member : character ∈ text) :
    character ∈ normalize text := by
  have itself : decompose character.toNat = [character.toNat] := by
    rw [decompose, if_pos (by omega)]
  have apart : character.toNat ∈ (text.map Char.toNat).flatMap decompose := by
    refine List.mem_flatMap.mpr ⟨character.toNat, List.mem_map_of_mem member, ?_⟩
    rw [itself]
    exact List.mem_singleton_self _
  have inOrder := (order_perm _).mem_iff.mpr apart
  refine List.mem_map.mpr ⟨character.toNat, mem_compose isLow inOrder, ?_⟩
  exact Char.ofNat_toNat character

end Text.Canonical

namespace Host

/-! ## Labels -/

namespace Punycode

/-- No control and no white space in ASCII is a digit. -/
theorem digitValue?_of_le
    {character : Char}
    (isLow : character.toNat ≤ 0x20) :
    digitValue? character = none := by
  rw [digitValue?, if_neg (by omega), if_neg (by omega), if_neg (by omega)]

/-- A digit that is read leaves every character in the text. -/
theorem subset_of_feed
    {reading next : Reading}
    {character : Char}
    (isFed : reading.feed character = some next) :
    (digitValue? character).isSome ∧ reading.text ⊆ next.text := by
  rw [Reading.feed, Option.bind_eq_some_iff] at isFed
  obtain ⟨value, isDigit, isFed⟩ := isFed
  refine ⟨by rw [isDigit]; rfl, ?_⟩
  dsimp only at isFed
  split at isFed
  · rw [Reading.insert] at isFed
    split at isFed
    · rw [← Option.some.inj isFed]
      exact List.subset_insertIdx _ _ _
    · cases isFed
  · rw [← Option.some.inj isFed]
    exact List.Subset.refl _

/-- Digits that are read leave every character in the text. -/
theorem subset_of_foldlM
    {reading last : Reading}
    {digits : List Char}
    (isFed : digits.foldlM Reading.feed reading = some last) :
    (∀ character ∈ digits, (digitValue? character).isSome) ∧
      reading.text ⊆ last.text := by
  induction digits generalizing reading with
  | nil =>
      cases isFed
      exact ⟨List.forall_mem_nil _, List.Subset.refl _⟩
  | cons first rest inductionHypothesis =>
      rw [List.foldlM_cons] at isFed
      obtain ⟨next, isNext, isFed⟩ := Option.bind_eq_some_iff.mp isFed
      obtain ⟨isDigit, kept⟩ := subset_of_feed isNext
      obtain ⟨areDigits, keptLater⟩ := inductionHypothesis isFed
      exact
        ⟨List.forall_mem_cons.mpr ⟨isDigit, areDigits⟩,
          List.Subset.trans kept keptLater⟩

/-- A label is its plain part, a hyphen unless that part is empty, and digits. -/
theorem plainPart_append
    {label : List Char}
    (hasPlain : plainPart label ≠ []) :
    plainPart label ++ '-' :: label.drop ((plainPart label).length + 1) = label := by
  cases shape : label.reverse.dropWhile (· != '-') with
  | nil =>
      simp [plainPart, shape] at hasPlain
  | cons first before =>
      have isPlain : plainPart label = before.reverse := by
        simp [plainPart, shape]
      have isHyphen := Link.Parts.dropWhile_eq_cons shape
      obtain ⟨digits, whole⟩ : ∃ digits, label = before.reverse ++ '-' :: digits := by
        have turned :
            label.reverse.takeWhile (· != '-') ++ first :: before = label.reverse := by
          rw [← shape]
          exact List.takeWhile_append_dropWhile
        have straight := congrArg List.reverse turned
        rw [List.reverse_reverse, List.reverse_append, List.reverse_cons, isHyphen,
          List.append_assoc] at straight
        exact ⟨_, straight.symm⟩
      have isRest : label.drop (before.length + 1) = digits := by
        rw [whole, List.append_cons]
        exact List.drop_left' (by simp)
      rw [isPlain, List.length_reverse, isRest, whole]

/-- What a label is made of goes into its text, or else is a hyphen or a digit. -/
theorem mem_of_decode?
    {label text : List Char}
    {character : Char}
    (isDecoded : decode? label = some text)
    (member : character ∈ label) :
    character ∈ text ∨ character = '-' ∨ (digitValue? character).isSome := by
  rw [decode?] at isDecoded
  split at isDecoded
  · obtain ⟨last, isFed, isLast⟩ := Option.bind_eq_some_iff.mp isDecoded
    obtain ⟨areDigits, kept⟩ := subset_of_foldlM isFed
    have isText : last.text = text := by
      rw [Reading.finish?] at isLast
      split at isLast
      · exact Option.some.inj isLast
      · cases isLast
    by_cases hasPlain : plainPart label = []
    · simp only [hasPlain, List.isEmpty_nil, if_true, List.drop_zero] at areDigits
      exact .inr (.inr (areDigits character member))
    · rw [← plainPart_append hasPlain, List.mem_append, List.mem_cons] at member
      simp only [List.isEmpty_iff, hasPlain, if_false] at areDigits
      rcases member with inPlain | isHyphen | inDigits
      · exact .inl (isText ▸ kept inPlain)
      · exact .inr (.inl isHyphen)
      · exact .inr (.inr (areDigits character inDigits))
  · cases isDecoded

end Punycode

/-- A sound label holds nothing that is refused. -/
theorem not_isRefused_of_isSound
    {label : List Char}
    (isSound : Label.isSound label = true)
    {character : Char}
    (member : character ∈ label) :
    isRefused character = false := by
  simp only [Label.isSound, Bool.and_eq_true, Bool.not_eq_true', List.any_eq_false] at isSound
  exact Bool.eq_false_iff.mpr (isSound.1.2 character member)

/-- A label that can be read holds no control and no white space in ASCII. -/
theorem low_not_mem_of_readLabel?
    {label text : List Char}
    {character : Char}
    (isLow : character.toNat ≤ 0x20)
    (isRead : readLabel? label = some text) :
    character ∉ label := by
  intro member
  have refused : isRefused character = true := by
    rw [isRefused, if_pos (by omega), isForbidden]
    simp [isLow]
  have unfit {label : List Char} (fits : isFit label = true) : character ∉ label := by
    intro among
    have isSound := ((Bool.and_eq_true _ _).mp fits).2
    rw [not_isRefused_of_isSound isSound among] at refused
    cases refused
  rw [readLabel?] at isRead
  split at isRead
  · rename_i isMarked
    dsimp only at isRead
    split at isRead
    · cases isRead
    · obtain ⟨isDecoded, fits⟩ := Option.filter_eq_some_iff.mp isRead
      have isFit : isFit text = true := by
        simp only [Bool.and_eq_true] at fits
        exact fits.1.2
      obtain ⟨written, rfl⟩ := List.isPrefixOf_iff_prefix.mp isMarked
      rw [List.drop_left] at isDecoded
      have inWritten : character ∈ written := by
        refine (List.mem_append.mp member).resolve_left fun inMark => ?_
        have allAbove : punycodeMark.all (0x20 < ·.toNat) = true := by
          decide +kernel
        have above := List.all_eq_true.mp allAbove character inMark
        simp only [decide_eq_true_eq] at above
        omega
      -- It is no digit, so it stands in the plain part, which the text is made from.
      rcases Punycode.mem_of_decode? isDecoded inWritten with inText | isHyphen | isDigit
      · exact unfit isFit inText
      · rw [isHyphen] at isLow
        exact absurd isLow (by decide)
      · rw [Punycode.digitValue?_of_le isLow] at isDigit
        cases isDigit
  · obtain ⟨isLabel, isFit⟩ := Option.filter_eq_some_iff.mp isRead
    exact unfit (Option.some.inj isLabel ▸ isFit) member

/-- What is made of a list has something made of each member in it. -/
theorem exists_of_mapM
    {item result : Type}
    {compute : item → Option result}
    {inputs : List item}
    {outputs : List result}
    (computes : inputs.mapM compute = some outputs)
    {input : item}
    (member : input ∈ inputs) :
    ∃ output ∈ outputs, compute input = some output := by
  induction inputs generalizing outputs with
  | nil =>
      cases member
  | cons first rest inductionHypothesis =>
      rw [List.mapM_cons] at computes
      obtain ⟨output, isOutput, computes⟩ := Option.bind_eq_some_iff.mp computes
      obtain ⟨others, areOthers, isWhole⟩ := Option.bind_eq_some_iff.mp computes
      cases isWhole
      rcases List.mem_cons.mp member with isFirst | inRest
      · exact ⟨output, List.mem_cons_self, isFirst ▸ isOutput⟩
      · obtain ⟨made, among, isMade⟩ := inductionHypothesis areOthers inRest
        exact ⟨made, List.mem_cons_of_mem _ among, isMade⟩

/-- Text between dots holds all but the dots. -/
theorem exists_mem_splitOn
    {character : Char}
    {text : List Char}
    (notDot : character ≠ '.')
    (member : character ∈ text) :
    ∃ label ∈ text.splitOn '.', character ∈ label := by
  have whole : ['.'].intercalate (text.splitOn '.') = text :=
    List.intercalate_splitOn '.'
  rw [← whole] at member
  generalize text.splitOn '.' = labels at member ⊢
  induction labels with
  | nil =>
      simp at member
  | cons first rest inductionHypothesis =>
      by_cases isLast : rest = []
      · subst isLast
        exact ⟨first, List.mem_cons_self, by simpa using member⟩
      · rw [List.intercalate_cons_of_ne_nil isLast] at member
        simp only [List.mem_append, List.mem_singleton, notDot, or_false] at member
        rcases member with inFirst | inRest
        · exact ⟨first, List.mem_cons_self, inFirst⟩
        · obtain ⟨label, among, inLabel⟩ := inductionHypothesis inRest
          exact ⟨label, List.mem_cons_of_mem _ among, inLabel⟩

/--
A name that holds something without a place in it, or a control or white space in
ASCII, has no labels.
-/
theorem labels?_of_mem
    {name : List Char}
    {character : Char}
    (hasNoPlace :
      mapped? character = none ∨
        mapped? character = some [character] ∧ character.toNat ≤ 0x20)
    (member : character ∈ name) :
    labels? name = none := by
  refine Option.eq_none_iff_forall_not_mem.mpr fun labels isRead => ?_
  obtain ⟨text, isText, isRead⟩ := Option.bind_eq_some_iff.mp isRead
  obtain ⟨parts, areParts, rfl⟩ := Option.map_eq_some_iff.mp isText
  obtain ⟨part, among, isPart⟩ := exists_of_mapM areParts member
  -- What is in ASCII does get a place, and only its label is not sound.
  rcases hasNoPlace with isUnmapped | ⟨isMapped, isLow⟩
  · rw [isUnmapped] at isPart
    cases isPart
  · rw [isMapped] at isPart
    cases isPart
    have inText : character ∈ Text.Canonical.normalize parts.flatten :=
      Text.Canonical.mem_normalize isLow
        (List.mem_flatten.mpr ⟨[character], among, List.mem_singleton_self _⟩)
    have notDot : character ≠ '.' := by
      rintro rfl
      exact absurd isLow (by decide)
    obtain ⟨label, isLabel, inLabel⟩ := exists_mem_splitOn notDot inText
    obtain ⟨read, areRead, -⟩ := Option.bind_eq_some_iff.mp isRead
    obtain ⟨meant, -, isMeant⟩ := exists_of_mapM areRead isLabel
    exact low_not_mem_of_readLabel? isLow isMeant inLabel

end Host

/-! ## White space -/

namespace Url

/-- A character that is dropped at the ends of an address, but not within it. -/
def isEdge (character : Char) : Bool :=
  (Text.isBlank character || isMargin character) && !isBreak character

/-- The characters beyond ASCII that are dropped at the ends of an address. -/
def wideEdges : List Nat :=
  [0x85, 0xA0, 0x1680, 0x2000, 0x2001, 0x2002, 0x2003, 0x2004, 0x2005, 0x2006,
    0x2007, 0x2008, 0x2009, 0x200A, 0x2028, 0x2029, 0x202F, 0x205F, 0x3000]

/-- What is dropped at the ends of an address is below the printable signs or wide. -/
theorem mem_of_isEdge
    {character : Char}
    (isOne : isEdge character = true) :
    character.toNat ∈ List.range 0x21 ++ wideEdges := by
  simp [isEdge, Text.isBlank, isMargin] at isOne
  simp [wideEdges]
  omega

/-- What holds of every such code holds of every such character. -/
@[elab_as_elim]
theorem forall_isEdge
    {motive : Char → Prop}
    {character : Char}
    (isOne : isEdge character = true)
    (holds : ∀ code ∈ List.range 0x21 ++ wideEdges, motive (Char.ofNat code)) :
    motive character := by
  rw [← Char.ofNat_toNat character]
  exact holds character.toNat (mem_of_isEdge isOne)

/-- How a character at the edge of an address is read where it stands within one. -/
structure Edge (character : Char) : Prop where
  notHex :
    Text.Percent.hexValue? character = none
  isRead :
    Text.Utf8.decode (Text.Utf8.encodeChar character) = [character]
  begins :
    ((Text.Utf8.encodeChar character).head?.all fun octet =>
      octet < 0x80 || 0xBF < octet) = true
  hasNoPlace :
    Host.mapped? character = none ∨
      Host.mapped? character = some [character] ∧ character.toNat ≤ 0x20
  noSign :
    character ∉ "@:[]/\\?#".toList
  notInScheme :
    Link.isSchemeCharacter character = false

/-- All characters at the edge of an address are read in the one way. -/
theorem edge_of_isEdge
    {character : Char}
    (isOne : isEdge character = true) :
    Edge character where
  notHex := forall_isEdge isOne (by decide +kernel)
  isRead := forall_isEdge isOne (by decide +kernel)
  begins := forall_isEdge isOne (by decide +kernel)
  hasNoPlace := forall_isEdge isOne (by decide +kernel)
  noSign := forall_isEdge isOne (by decide +kernel)
  notInScheme := forall_isEdge isOne (by decide +kernel)

namespace Edge

variable {character : Char}

/-- A name does not end with such a character. -/
theorem ofName?_append (edge : Edge character) (text : List Char) :
    Host.ofName? (text ++ [character]) = none := by
  have begins (octet : Nat)
      (isFirst : (Text.Utf8.encodeChar character).head? = some octet) :
      octet < 0x80 ∨ 0xBF < octet := by
    have passed := edge.begins
    rw [isFirst] at passed
    simpa using passed
  have unread :
      Host.labels? (Text.Percent.decodeOnce text ++ [character]) = none :=
    Host.labels?_of_mem edge.hasNoPlace (by simp)
  rw [Host.ofName?, Text.Percent.decodeOnce_append edge.notHex edge.isRead begins,
    Host.ascii?, unread]
  rfl

/-- Text that ends with such a character is not all in brackets. -/
theorem bracketed?_append
    (edge : Edge character)
    (text inside : List Char) :
    Host.bracketed? (text ++ [character]) ≠ some (some inside) := by
  have notOpening : character ≠ '[' := by
    rintro rfl
    exact edge.noSign (by decide)
  have notClosing : character ≠ ']' := by
    rintro rfl
    exact edge.noSign (by decide)
  intro isBracketed
  rcases text with _ | ⟨first, rest⟩
  · simp [Host.bracketed?, notOpening] at isBracketed
  · by_cases isOpening : first = '['
    · simp [Host.bracketed?, isOpening, notClosing] at isBracketed
    · simp [Host.bracketed?, isOpening] at isBracketed

/-- A host does not end with such a character. -/
theorem parse?_append (edge : Edge character) (text : List Char) :
    Host.parse? (text ++ [character]) = none := by
  rw [Host.parse?]
  split
  · rename_i inside isBracketed
    exact absurd isBracketed (edge.bracketed?_append text inside)
  · rfl
  · exact edge.ofName?_append text

/-- A port does not end with such a character. -/
theorem readPort?_append
    (edge : Edge character)
    (usualPort : Option Nat)
    (text : List Char) :
    readPort? usualPort (text ++ [character]) = none := by
  have notDigit : Host.Ipv4.digitValue? 10 character = none := by
    rw [Host.Ipv4.digitValue?, edge.notHex]
    rfl
  have noValue : Host.Ipv4.digitsValue? 10 (text ++ [character]) = none := by
    rw [Host.Ipv4.digitsValue?, List.foldlM_append]
    refine Option.bind_eq_none_iff.mpr fun number _ => ?_
    simp [List.foldlM_cons, notDigit]
  rw [readPort?]
  · rw [noValue]
    rfl
  · simp

/-- Where the port is cut off, such a character stays at the end of what it ends. -/
theorem splitPort_append
    (edge : Edge character)
    (inBrackets : Bool)
    (text : List Char) :
    (∃ host, splitPort inBrackets (text ++ [character]) = (host ++ [character], none)) ∨
      ∃ host port,
        splitPort inBrackets (text ++ [character]) =
          (host, some (port ++ [character])) := by
  have notColon : character ≠ ':' := by
    rintro rfl
    exact edge.noSign (by decide)
  induction text generalizing inBrackets with
  | nil =>
      exact .inl ⟨[], by simp [splitPort, notColon]⟩
  | cons first rest inductionHypothesis =>
      rw [List.cons_append, splitPort]
      split
      · exact .inr ⟨[], rest, rfl⟩
      · rcases inductionHypothesis (first == '[' || (inBrackets && first != ']')) with
          ⟨host, isSplit⟩ | ⟨host, port, isSplit⟩
        · exact .inl ⟨first :: host, by simp only [isSplit, List.cons_append]⟩
        · exact .inr ⟨first :: host, port, by simp only [isSplit]⟩

/-- What stands after the user ends as the whole does. -/
theorem withoutUser_append (edge : Edge character) (text : List Char) :
    withoutUser (text ++ [character]) = withoutUser text ++ [character] := by
  have notAt : character ≠ '@' := by
    rintro rfl
    exact edge.noSign (by decide)
  simp [withoutUser, notAt]

/-- An authority does not end with such a character. -/
theorem readAuthority?_append
    (edge : Edge character)
    (usualPort : Nat)
    (text : List Char) :
    readAuthority? usualPort (text ++ [character]) = none := by
  rw [readAuthority?, edge.withoutUser_append]
  rcases edge.splitPort_append false (withoutUser text) with
    ⟨host, isSplit⟩ | ⟨host, port, isSplit⟩
  · rw [isSplit]
    simp [edge.parse?_append]
  · rw [isSplit]
    simp [edge.readPort?_append]

end Edge

end Url

end Untrack
