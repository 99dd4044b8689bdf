import Untrack.Proofs.Host.Ending
import Mathlib.Data.List.Forall2

namespace Untrack

/-!
# Names in usual letters

A name of small letters, digits and hyphens between dots is its own ASCII form, apart
from labels in Punycode: each of these is decoded and written anew. What is written has
the mark of Punycode again and no dot in it, so the labels stay apart, and those that had
no mark are as they were. Whether a name belongs to a domain without such labels is seen
in the name as it stands, therefore.
-/

namespace Text.Canonical

/-! ## The canonical form of plain text -/

/-- The order of letters stays. -/
theorem order_of_low
    {codes : List Nat}
    (areLow : ∀ code ∈ codes, code < 0x300) :
    order codes = codes := by
  induction codes with
  | nil =>
      rfl
  | cons code rest inductionHypothesis =>
      obtain ⟨-, restLow⟩ := List.forall_mem_cons.mp areLow
      have isPlaced : order (code :: rest) = place code (order rest) := rfl
      rw [isPlaced, inductionHypothesis restLow]
      cases rest with
      | nil =>
          rfl
      | cons first others =>
          have isLetter : combiningClass first = 0 :=
            if_pos (restLow first List.mem_cons_self)
          rw [place, isLetter]
          exact if_neg fun isMark => Nat.lt_irrefl 0 isMark.1

/-- Letters below the marks do not join. -/
theorem joinTo_of_low
    {codes : List Nat}
    (areLow : ∀ code ∈ codes, code < 0x300)
    (base : Nat) :
    joinTo base [] codes = base :: codes := by
  induction codes generalizing base with
  | nil =>
      rfl
  | cons code rest inductionHypothesis =>
      obtain ⟨isLow, restLow⟩ := List.forall_mem_cons.mp areLow
      have isLetter : combiningClass code = 0 := if_pos isLow
      have joinsNone : join? base code = none := if_pos isLow
      rw [joinTo]
      simp [joinsNone, isLetter, inductionHypothesis restLow]

/-- A text of letters without marks is in canonical form. -/
theorem normalize_of_low
    {text : List Char}
    (areLow : ∀ character ∈ text, character.toNat < 0xC0) :
    normalize text = text := by
  have codesLow (code : Nat) (member : code ∈ text.map Char.toNat) : code < 0xC0 := by
    obtain ⟨character, isIn, rfl⟩ := List.mem_map.mp member
    exact areLow character isIn
  have belowMarks (code : Nat) (member : code ∈ text.map Char.toNat) : code < 0x300 :=
    Nat.lt_trans (codesLow code member) (by decide)
  have apart : (text.map Char.toNat).flatMap decompose = text.map Char.toNat := by
    calc
      (text.map Char.toNat).flatMap decompose =
          (text.map Char.toNat).flatMap fun code => [code] :=
        List.flatMap_congr fun code member => if_pos (codesLow code member)
      _ = text.map Char.toNat := List.flatMap_singleton' _
  have joined : compose (text.map Char.toNat) = text.map Char.toNat := by
    cases text with
    | nil =>
        rfl
    | cons first rest =>
        obtain ⟨firstLow, restLow⟩ := List.forall_mem_cons.mp belowMarks
        have isLetter : combiningClass first.toNat = 0 := if_pos firstLow
        rw [List.map_cons, compose, if_pos isLetter, joinTo_of_low restLow]
  rw [normalize, form, apart, order_of_low belowMarks, joined, List.map_map]
  exact List.map_id'' Char.ofNat_toNat text

end Text.Canonical

namespace Host

namespace Punycode

/-! ## Labels in Punycode -/

/-- The character of a code has that code. -/
theorem toNat_ofNat_of_isValidChar
    {code : Nat}
    (isValid : code.isValidChar) :
    (Char.ofNat code).toNat = code := by
  rw [Char.ofNat, dif_pos isValid]
  rfl

/-- No digit is a dot. -/
theorem digit_ne_dot (value : Nat) : digit value ≠ '.' := by
  have isOther {code : Nat} (above : 0x2E < code) : Char.ofNat code ≠ '.' := by
    intro isDot
    by_cases isValid : code.isValidChar
    · have isCode := toNat_ofNat_of_isValidChar isValid
      rw [isDot] at isCode
      exact absurd isCode (Nat.ne_of_lt above)
    · rw [Char.ofNat, dif_neg isValid] at isDot
      exact absurd isDot (by decide)
  unfold digit
  split
  · exact isOther (by omega)
  · exact isOther (by omega)

/-- A number is written without dots. -/
theorem dot_not_mem_encodeNumber (bias place number : Nat) :
    '.' ∉ encodeNumber bias place number := by
  fun_induction encodeNumber bias place number with
  | case1 place number limit isLast =>
      simpa using (digit_ne_dot number).symm
  | case2 place number limit goesOn inductionHypothesis =>
      exact List.not_mem_cons_of_ne_of_not_mem (digit_ne_dot _).symm inductionHypothesis

/-- No dot is written while a text is passed. -/
theorem dot_not_mem_pass
    {writing : Writing}
    (noDot : '.' ∉ writing.digits)
    (code : Nat)
    (character : Char) :
    '.' ∉ (writing.pass code character).digits := by
  unfold Writing.pass
  split
  · exact noDot
  · split
    · exact List.not_mem_append noDot (dot_not_mem_encodeNumber _ _ _)
    · exact noDot

/-- Codes are written without dots. -/
theorem dot_not_mem_writeCodes
    {text : List Char}
    {codes : List Nat}
    {next : Nat}
    {writing : Writing}
    (noDot : '.' ∉ writing.digits) :
    '.' ∉ (writeCodes text codes next writing).digits := by
  induction codes generalizing next writing with
  | nil =>
      exact noDot
  | cons code codes inductionHypothesis =>
      rw [writeCodes]
      have passed :
          ∀ start : Writing,
            '.' ∉ start.digits → '.' ∉ (text.foldl (Writing.pass code) start).digits :=
        fun start startsSo =>
          List.foldlRecOn text (Writing.pass code)
            (motive := fun writing => '.' ∉ writing.digits) startsSo
            fun writing holds character _ => dot_not_mem_pass holds code character
      exact inductionHypothesis (passed _ noDot)

/-- A text without dots is written without dots. -/
theorem dot_not_mem_encode
    {text : List Char}
    (noDot : '.' ∉ text) :
    '.' ∉ encode text := by
  have inPlain : '.' ∉ text.filter (·.toNat < 128) := fun member =>
    noDot (List.mem_filter.mp member).1
  refine List.not_mem_append ?_ (dot_not_mem_writeCodes List.not_mem_nil)
  split
  · exact List.not_mem_nil
  · exact List.not_mem_append inPlain (by decide)

/-- What is put in has a code from `firstCode` on. -/
structure Reading.PutsIn (plain : List Char) (reading : Reading) : Prop where
  atCode : firstCode ≤ reading.code
  text : ∀ character ∈ reading.text, character ∈ plain ∨ firstCode ≤ character.toNat

/-- A digit that is read puts in nothing else. -/
theorem Reading.PutsIn.feed
    {plain : List Char}
    {reading next : Reading}
    {character : Char}
    (putsIn : reading.PutsIn plain)
    (isFed : reading.feed character = some next) :
    next.PutsIn plain := by
  obtain ⟨value, -, isFed⟩ := Option.bind_eq_some_iff.mp isFed
  dsimp only at isFed
  split at isFed
  · rw [Reading.insert] at isFed
    split at isFed
    · rename_i isValid
      cases isFed
      refine ⟨Nat.le_add_right_of_le putsIn.atCode, fun other member => ?_⟩
      rcases List.eq_or_mem_of_mem_insertIdx member with rfl | among
      · right
        rw [toNat_ofNat_of_isValidChar isValid]
        exact Nat.le_add_right_of_le putsIn.atCode
      · exact putsIn.text other among
    · cases isFed
  · cases isFed
    exact ⟨putsIn.atCode, putsIn.text⟩

/-- Digits that are read put in nothing else. -/
theorem Reading.PutsIn.foldlM
    {plain : List Char}
    {digits : List Char}
    {reading last : Reading}
    (putsIn : reading.PutsIn plain)
    (isFed : digits.foldlM Reading.feed reading = some last) :
    last.PutsIn plain := by
  induction digits generalizing reading with
  | nil =>
      cases isFed
      exact putsIn
  | cons first rest inductionHypothesis =>
      rw [List.foldlM_cons] at isFed
      obtain ⟨next, isNext, isFed⟩ := Option.bind_eq_some_iff.mp isFed
      exact inductionHypothesis (putsIn.feed isNext) isFed

/-- A label without dots is read as a text without dots. -/
theorem dot_not_mem_of_decode?
    {label text : List Char}
    (noDot : '.' ∉ label)
    (isDecoded : decode? label = some text) :
    '.' ∉ text := by
  have inPlain : '.' ∉ plainPart label := by
    intro member
    have among := List.mem_reverse.mp member
    exact noDot (List.mem_reverse.mp
      ((List.dropWhile_suffix _).subset (List.mem_of_mem_drop among)))
  rw [decode?] at isDecoded
  split at isDecoded
  · obtain ⟨last, isFed, isLast⟩ := Option.bind_eq_some_iff.mp isDecoded
    have start : (Reading.start (plainPart label)).PutsIn (plainPart label) :=
      ⟨Nat.le_refl _, fun character member => .inl member⟩
    have putsIn := start.foldlM isFed
    rw [Reading.finish?] at isLast
    split at isLast
    · cases isLast
      intro member
      rcases putsIn.text '.' member with isPlain | isAbove
      · exact inPlain isPlain
      · exact absurd isAbove (by decide)
    · cases isLast
  · cases isDecoded

end Punycode

/-! ## Usual names -/

/-- The characters that labels are usually written with. -/
def usual : Text.CharSet :=
  [⟨0x2D, 0x2D⟩, ⟨0x30, 0x39⟩, ⟨0x61, 0x7A⟩]

/-- A label of small letters, digits and hyphens, with one of them at least. -/
structure IsUsual (label : List Char) : Prop where
  ne_nil : label ≠ []
  usual : ∀ character ∈ label, usual.has character = true

instance (label : List Char) : Decidable (IsUsual label) :=
  decidable_of_iff (label ≠ [] ∧ label.all usual.has = true)
    ⟨fun ⟨ne_nil, areUsual⟩ => ⟨ne_nil, List.all_eq_true.mp areUsual⟩,
      fun isUsual => ⟨isUsual.ne_nil, List.all_eq_true.mpr isUsual.usual⟩⟩

/-- The code of a usual character is one of these. -/
theorem mem_of_usual
    {character : Char}
    (isUsual : usual.has character = true) :
    character.toNat ∈ 0x2D :: (List.range' 0x30 10 ++ List.range' 0x61 26) := by
  simp only [usual, Text.CharSet.has, Text.CharSet.hasCode, Text.CharRange.has, List.any_cons,
    List.any_nil, Bool.or_false, Bool.or_eq_true, Bool.and_eq_true, decide_eq_true_eq] at isUsual
  simp only [List.mem_cons, List.mem_append, List.mem_range'_1]
  omega

/-- What holds of every such code holds of every usual character. -/
@[elab_as_elim]
theorem forall_usual
    {motive : Char → Prop}
    {character : Char}
    (isUsual : usual.has character = true)
    (holds :
      ∀ code ∈ 0x2D :: (List.range' 0x30 10 ++ List.range' 0x61 26), motive (Char.ofNat code)) :
    motive character := by
  rw [← Char.ofNat_toNat character]
  exact holds character.toNat (mem_of_usual isUsual)

/-- The signs that mean something in what stands before a query. -/
def signs : List Char :=
  ".%[]@:/\\?#".toList

/-- A usual character is in ASCII, no capital and no sign. -/
theorem facts_of_usual
    {character : Char}
    (isUsual : usual.has character = true) :
    character.toNat < 128 ∧ character.toLower = character ∧ character ∉ signs :=
  forall_usual isUsual (by decide +kernel)

/-- A usual name is made of dots and usual characters. -/
theorem usual_of_mem_intercalate
    {labels : List (List Char)}
    (areUsual : ∀ label ∈ labels, IsUsual label)
    {character : Char}
    (member : character ∈ ['.'].intercalate labels) :
    character = '.' ∨ usual.has character = true := by
  induction labels with
  | nil =>
      simp at member
  | cons first rest inductionHypothesis =>
      obtain ⟨firstUsual, restUsual⟩ := List.forall_mem_cons.mp areUsual
      by_cases isLast : rest = []
      · subst isLast
        exact .inr (firstUsual.usual character (by simpa using member))
      · rw [List.intercalate_cons_of_ne_nil isLast, List.append_assoc] at member
        rcases List.mem_append.mp member with inFirst | later
        · exact .inr (firstUsual.usual character inFirst)
        · rcases List.mem_append.mp later with isDot | inRest
          · exact .inl (List.mem_singleton.mp isDot)
          · exact inductionHypothesis restUsual inRest

/-- A usual name has no sign but its dots. -/
theorem not_mem_intercalate
    {labels : List (List Char)}
    (areUsual : ∀ label ∈ labels, IsUsual label)
    (sign : Char)
    (isSign : sign ∈ signs)
    (notDot : sign ≠ '.') :
    sign ∉ ['.'].intercalate labels := by
  intro member
  rcases usual_of_mem_intercalate areUsual member with isDot | isUsual
  · exact notDot isDot
  · exact (facts_of_usual isUsual).2.2 isSign

/-- Usual labels are those that are found between the dots. -/
theorem splitOn_of_usual
    {labels : List (List Char)}
    (hasLabels : labels ≠ [])
    (areUsual : ∀ label ∈ labels, IsUsual label) :
    (['.'].intercalate labels).splitOn '.' = labels := by
  refine List.splitOn_intercalate '.' (fun label member isDot => ?_) hasLabels
  have notDot := (facts_of_usual ((areUsual label member).usual '.' isDot)).2.2
  exact notDot (by decide)

/-- A usual name is already what its characters stand for. -/
theorem mapText?_of_usual
    {name : List Char}
    (isUsual : ∀ character ∈ name, character = '.' ∨ usual.has character = true) :
    mapText? name = some name := by
  have facts (character : Char) (member : character ∈ name) :
      character.toNat < 128 ∧ character.toLower = character := by
    rcases isUsual character member with rfl | isOne
    · decide
    · exact ⟨(facts_of_usual isOne).1, (facts_of_usual isOne).2.1⟩
  have parts : name.mapM mapped? = some (name.map fun character => [character]) := by
    induction name with
    | nil =>
        rfl
    | cons first rest inductionHypothesis =>
        obtain ⟨⟨inAscii, isSmall⟩, restFacts⟩ := List.forall_mem_cons.mp facts
        have isMapped : mapped? first = some [first] := by
          rw [mapped?, if_pos inAscii, isSmall]
        rw [List.mapM_cons, isMapped,
          inductionHypothesis (List.forall_mem_cons.mp isUsual).2 restFacts]
        rfl
  rw [mapText?, parts, Option.map_some, ← List.flatMap_def, List.flatMap_singleton']
  refine congrArg some (Text.Canonical.normalize_of_low fun character member => ?_)
  exact Nat.lt_trans (facts character member).1 (by decide)

/-! ## Labels of usual names -/

/--
How a label is written: without dots, and as another that is not in Punycode just if it is
that other one.
-/
structure Writes (label written : List Char) : Prop where
  noDot : '.' ∉ written
  eq_iff : ∀ other, ¬punycodeMark <+: other → (other = written ↔ other = label)

/-- A usual label that is read is written so. -/
theorem writes_of_readLabel?
    {label meant : List Char}
    (isUsual : IsUsual label)
    (isRead : readLabel? label = some meant) :
    Writes label (writeLabel meant) := by
  have facts (character : Char) (member : character ∈ label) :=
    facts_of_usual (isUsual.usual character member)
  have noDot : '.' ∉ label := fun isDot => (facts '.' isDot).2.2 (by decide)
  rw [readLabel?] at isRead
  split at isRead
  case isTrue isMarked =>
    dsimp only at isRead
    split at isRead
    · cases isRead
    · obtain ⟨isDecoded, fits⟩ := Option.filter_eq_some_iff.mp isRead
      have isOther : isAscii meant = false := by
        simp only [Bool.and_eq_true, Bool.not_eq_true'] at fits
        exact fits.1.1
      have noDotMeant : '.' ∉ meant :=
        Punycode.dot_not_mem_of_decode?
          (fun isDot => noDot (List.mem_of_mem_drop isDot)) isDecoded
      rw [writeLabel, isOther]
      refine ⟨?_, fun other notMarked => ?_⟩
      · exact List.not_mem_append (by decide) (Punycode.dot_not_mem_encode noDotMeant)
      · -- Both begin with the mark, which the other one does not.
        refine iff_of_false ?_ ?_
        · rintro rfl
          exact notMarked (List.prefix_append _ _)
        · rintro rfl
          exact notMarked (List.isPrefixOf_iff_prefix.mp isMarked)
  case isFalse =>
    obtain ⟨isLabel, -⟩ := Option.filter_eq_some_iff.mp isRead
    cases isLabel
    have inAscii : isAscii label = true :=
      List.all_eq_true.mpr fun character member => by simpa using (facts character member).1
    rw [writeLabel, inAscii]
    exact ⟨noDot, fun other _ => Iff.rfl⟩

/-- The labels of a usual name are written one by one. -/
theorem forall₂_of_mapM
    {labels meant : List (List Char)}
    (areUsual : ∀ label ∈ labels, IsUsual label)
    (areRead : labels.mapM readLabel? = some meant) :
    List.Forall₂ Writes labels (meant.map writeLabel) := by
  induction labels generalizing meant with
  | nil =>
      cases areRead
      exact .nil
  | cons first rest inductionHypothesis =>
      obtain ⟨firstUsual, restUsual⟩ := List.forall_mem_cons.mp areUsual
      rw [List.mapM_cons] at areRead
      obtain ⟨label, isRead, areRead⟩ := Option.bind_eq_some_iff.mp areRead
      obtain ⟨others, othersRead, isWhole⟩ := Option.bind_eq_some_iff.mp areRead
      cases isWhole
      exact
        .cons (writes_of_readLabel? firstUsual isRead)
          (inductionHypothesis restUsual othersRead)

/-- A usual name is written label by label. -/
theorem exists_of_ascii?
    {labels : List (List Char)}
    {ascii : List Char}
    (hasLabels : labels ≠ [])
    (areUsual : ∀ label ∈ labels, IsUsual label)
    (isWritten : ascii? (['.'].intercalate labels) = some ascii) :
    ∃ written,
      List.Forall₂ Writes labels written ∧ ascii = ['.'].intercalate written := by
  obtain ⟨meant, areMeant, rfl⟩ := Option.map_eq_some_iff.mp isWritten
  obtain ⟨text, isText, areMeant⟩ := Option.bind_eq_some_iff.mp areMeant
  rw [mapText?_of_usual fun _ => usual_of_mem_intercalate areUsual] at isText
  cases isText
  rw [splitOn_of_usual hasLabels areUsual] at areMeant
  obtain ⟨read, areRead, isRead⟩ := Option.bind_eq_some_iff.mp areMeant
  split at isRead
  · cases isRead
    exact ⟨_, forall₂_of_mapM areUsual areRead, rfl⟩
  · cases isRead

/-! ## Domains -/

/-- The name is the domain or one below it: its labels end with those of the domain. -/
def IsWithin (domain name : List Char) : Prop :=
  domain.splitOn '.' <:+ name.splitOn '.'

instance (domain name : List Char) : Decidable (IsWithin domain name) :=
  inferInstanceAs (Decidable (_ <:+ _))

/-- Names that are written label by label are so of the same domains. -/
theorem suffix_iff_of_forall₂
    {wanted labels written : List (List Char)}
    (areWritten : List.Forall₂ Writes labels written)
    (notMarked : ∀ label ∈ wanted, ¬punycodeMark <+: label) :
    wanted <:+ written ↔ wanted <:+ labels := by
  have same
      {wanted labels written : List (List Char)}
      (areWritten : List.Forall₂ Writes labels written)
      (notMarked : ∀ label ∈ wanted, ¬punycodeMark <+: label) :
      wanted = written ↔ wanted = labels := by
    induction areWritten generalizing wanted with
    | nil =>
        rfl
    | cons writes _ inductionHypothesis =>
        cases wanted with
        | nil =>
            exact iff_of_false nofun nofun
        | cons first rest =>
            obtain ⟨firstPlain, restPlain⟩ := List.forall_mem_cons.mp notMarked
            rw [List.cons.injEq, List.cons.injEq, writes.eq_iff first firstPlain,
              inductionHypothesis restPlain]
  rw [List.suffix_iff_eq_drop, List.suffix_iff_eq_drop, areWritten.length_eq]
  exact same (List.forall₂_drop _ areWritten) notMarked

/-- A name that ends as no number does is no address of four octets. -/
theorem endsInNumber_of_isWithin
    {domain name : List Char}
    (isCom : (domain.splitOn '.').getLast? = some "com".toList)
    (isWithin : IsWithin domain name) :
    Ipv4.endsInNumber name = false := by
  obtain ⟨front, isWhole⟩ := isWithin
  have isLast : (name.splitOn '.').getLast? = some "com".toList := by
    rw [← isWhole, List.getLast?_append, isCom]
    rfl
  have isParts : Ipv4.parts name = name.splitOn '.' := by
    rw [Ipv4.parts, isLast]
    exact if_neg (by decide)
  rw [Ipv4.endsInNumber, isParts, isLast]
  decide

/-- Labels that are written one by one are found between the dots. -/
theorem splitOn_of_forall₂
    {labels written : List (List Char)}
    (hasLabels : labels ≠ [])
    (areWritten : List.Forall₂ Writes labels written) :
    (['.'].intercalate written).splitOn '.' = written := by
  refine List.splitOn_intercalate '.' (fun label member => ?_) fun isNone => hasLabels ?_
  · obtain ⟨index, isThere, rfl⟩ := List.getElem_of_mem member
    have isIn : index < labels.length := areWritten.length_eq ▸ isThere
    exact (areWritten.get isIn isThere).noDot
  · rw [isNone] at areWritten
    exact List.forall₂_nil_right_iff.mp areWritten

/-- A usual name is read as a name, and as it stands. -/
theorem parse?_of_usual
    {labels : List (List Char)}
    (areUsual : ∀ label ∈ labels, IsUsual label) :
    parse? (['.'].intercalate labels) = ofName? (['.'].intercalate labels) ∧
      Text.Percent.decodeOnce (['.'].intercalate labels) = ['.'].intercalate labels := by
  constructor
  · have notBracketed : bracketed? (['.'].intercalate labels) = none := by
      cases shape : ['.'].intercalate labels with
      | nil =>
          rfl
      | cons first rest =>
          have notBracket : first ≠ '[' := by
            rintro rfl
            exact
              not_mem_intercalate areUsual '[' (by decide) (by decide)
                (shape ▸ List.mem_cons_self)
          rw [bracketed?]
          simpa using notBracket
    rw [parse?, notBracketed]
  · refine Text.Percent.decodeOnce_of_plain (Bool.eq_false_iff.mpr fun isEncoded => ?_)
    obtain ⟨high, low, isPart, -⟩ := (Text.Percent.isEncoded_iff_exists _).mp isEncoded
    exact
      not_mem_intercalate areUsual '%' (by decide) (by decide)
        (isPart.subset List.mem_cons_self)

/--
The host that usual labels are read as is a name of a domain just if the labels are, where
the domain has no label in Punycode and does not end in a number.
-/
theorem isWithin_iff_of_parse?
    {domain : List Char}
    (isCom : (domain.splitOn '.').getLast? = some "com".toList)
    (notMarked : ∀ label ∈ domain.splitOn '.', ¬punycodeMark <+: label)
    {labels : List (List Char)}
    (hasLabels : labels ≠ [])
    (areUsual : ∀ label ∈ labels, IsUsual label)
    {host : Host}
    (isRead : parse? (['.'].intercalate labels) = some host) :
    (∃ ascii, host = .name ascii ∧ IsWithin domain ascii) ↔
      IsWithin domain (['.'].intercalate labels) := by
  obtain ⟨isName, isDecoded⟩ := parse?_of_usual areUsual
  rw [isName, ofName?, isDecoded] at isRead
  obtain ⟨ascii, isAscii, isRead⟩ := Option.bind_eq_some_iff.mp isRead
  obtain ⟨written, areWritten, rfl⟩ := exists_of_ascii? hasLabels areUsual isAscii
  have same :
      IsWithin domain (['.'].intercalate written) ↔
        IsWithin domain (['.'].intercalate labels) := by
    rw [IsWithin, IsWithin, splitOn_of_forall₂ hasLabels areWritten,
      splitOn_of_usual hasLabels areUsual]
    exact suffix_iff_of_forall₂ areWritten notMarked
  split at isRead
  · cases isRead
  · split at isRead
    case isTrue isNumber =>
      obtain ⟨address, -, rfl⟩ := Option.map_eq_some_iff.mp isRead
      refine iff_of_false ?_ fun isWithin => ?_
      · rintro ⟨_, ⟨⟩, -⟩
      · rw [endsInNumber_of_isWithin isCom (same.mpr isWithin)] at isNumber
        cases isNumber
    case isFalse =>
      cases isRead
      rw [← same]
      constructor
      · rintro ⟨_, ⟨⟩, isWithin⟩
        exact isWithin
      · exact fun isWithin => ⟨_, rfl, isWithin⟩

end Host

end Untrack
