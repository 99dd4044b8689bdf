import Untrack.Proofs.Host.Names
import Untrack.Proofs.Link.Finding

namespace Untrack

/-!
# Pages

The address of a page is written plainly where its host is a usual name and its path
leads straight down. Then each part is read from the text that it was written as: the
host from the labels, with or without a port, and the path from the path, up to percent
coding. Percent coding changes no character that a path can hold, so the path begins as
its text does.
-/

namespace Text.Percent

variable {letters : LetterCase} {inClass : Nat → Bool}

/-! ## Coded text -/

/-- The character stays as it is when a text is encoded, and is not the sign of an octet. -/
def Stays (inClass : Nat → Bool) (character : Char) : Prop :=
  character.toNat < 128 ∧ inClass character.toNat = false ∧ character ≠ '%'

instance (inClass : Nat → Bool) (character : Char) : Decidable (Stays inClass character) :=
  inferInstanceAs (Decidable (_ ∧ _))

/-- Two texts are encoded one after the other. -/
theorem encode_append (front back : List Char) :
    encode letters inClass (front ++ back) =
      encode letters inClass front ++ encode letters inClass back := by
  simp [encode, Utf8.encode]

/-- The octets of a character that stays are the character. -/
theorem encode_cons_of_stays
    {character : Char}
    (stays : Stays inClass character)
    (rest : List Char) :
    encode letters inClass (character :: rest) =
      character :: encode letters inClass rest := by
  have alone : encode letters inClass [character] = [character] := by
    have notBeyond : ¬128 ≤ character.toNat := Nat.not_le.mpr stays.1
    simp [encode, Utf8.encode, Utf8.encodeChar, stays.1, stays.2.1, notBeyond]
  rw [← List.singleton_append, encode_append, alone, List.singleton_append]

/-- The octets of a character beyond ASCII begin with one beyond ASCII. -/
theorem exists_encodeChar
    {character : Char}
    (isBeyond : 128 ≤ character.toNat) :
    ∃ octet octets, Utf8.encodeChar character = octet :: octets ∧ 128 ≤ octet := by
  rw [Utf8.encodeChar, if_neg (Nat.not_lt.mpr isBeyond)]
  split
  · exact ⟨_, _, rfl, by omega⟩
  · split
    · exact ⟨_, _, rfl, by omega⟩
    · exact ⟨_, _, rfl, by omega⟩

/-- What is written for any other character begins with the sign of an octet. -/
theorem encode_cons_of_not_stays
    {character : Char}
    (changes : ¬Stays inClass character)
    (rest : List Char) :
    ∃ others, encode letters inClass (character :: rest) = '%' :: others := by
  obtain ⟨octet, octets, isCode, isCoded⟩ :
      ∃ octet octets,
        Utf8.encodeChar character = octet :: octets ∧
          ((inClass octet || 128 ≤ octet) = true ∨ Char.ofNat octet = '%') := by
    by_cases inAscii : character.toNat < 128
    · refine ⟨character.toNat, [], if_pos inAscii, ?_⟩
      rw [Char.ofNat_toNat, Bool.or_eq_true]
      by_contra stays
      simp only [not_or, Bool.not_eq_true] at stays
      exact changes ⟨inAscii, stays.1.1, stays.2⟩
    · obtain ⟨octet, octets, isCode, isBeyond⟩ := exists_encodeChar (Nat.not_lt.mp inAscii)
      exact ⟨octet, octets, isCode, .inl (by simp [isBeyond])⟩
  rw [encode, Utf8.encode, List.flatMap_cons, isCode, List.cons_append, List.flatMap_cons]
  split
  · exact ⟨_, rfl⟩
  · rename_i notCoded
    exact ⟨_, by rw [isCoded.resolve_left notCoded]; rfl⟩

/-- An encoded text begins with what stays just if the text does. -/
theorem prefix_encode_iff
    {wanted : List Char}
    (stay : ∀ character ∈ wanted, Stays inClass character)
    (text : List Char) :
    wanted <+: encode letters inClass text ↔ wanted <+: text := by
  induction wanted generalizing text with
  | nil =>
      exact iff_of_true List.nil_prefix List.nil_prefix
  | cons first rest inductionHypothesis =>
      obtain ⟨firstStays, restStay⟩ := List.forall_mem_cons.mp stay
      cases text with
      | nil =>
          rfl
      | cons character others =>
          by_cases stays : Stays inClass character
          · rw [encode_cons_of_stays stays, List.cons_prefix_cons, List.cons_prefix_cons,
              inductionHypothesis restStay]
          · obtain ⟨coded, isCoded⟩ :=
              @encode_cons_of_not_stays letters inClass character stays others
            rw [isCoded, List.cons_prefix_cons, List.cons_prefix_cons]
            refine iff_of_false (fun isFirst => firstStays.2.2 isFirst.1) fun isFirst => ?_
            exact stays (isFirst.1 ▸ firstStays)

end Text.Percent

namespace Url

/-! ## Paths that lead down -/

/-- Without the other slash a text is cut at the one. -/
theorem splitOnP_isSlash
    {text : List Char}
    (noOther : '\\' ∉ text) :
    text.splitOnP isSlash = text.splitOn '/' := by
  rw [List.splitOn]
  induction text with
  | nil =>
      rfl
  | cons first rest inductionHypothesis =>
      have isOther : first ≠ '\\' := fun isFirst => noOther (isFirst ▸ List.mem_cons_self)
      have restHasNone : '\\' ∉ rest := fun member => noOther (List.mem_cons_of_mem _ member)
      have same : isSlash first = (first == '/') := by
        simp [isSlash, isOther]
      rw [List.splitOnP_cons_eq_if_modifyHead, List.splitOnP_cons_eq_if_modifyHead,
        same, inductionHypothesis restHasNone]

/-- Segments that lead down are all there where they lead to. -/
theorem walk_of_leadsDown
    {segments : List (List Char)}
    (hasSegments : segments ≠ [])
    (leadDown : ∀ segment ∈ segments, isHere segment = false ∧ isAbove segment = false)
    (directory : List (List Char)) :
    walk id directory segments =
      directory.reverse ++ segments.map (Text.Percent.encode .upper isCodedInPath) := by
  have isCalled (directory : List (List Char)) (segment : List Char) :
      called id directory segment = Text.Percent.encode .upper isCodedInPath segment := by
    rw [called]
    exact ite_self _
  induction segments generalizing directory with
  | nil =>
      exact absurd rfl hasSegments
  | cons segment rest inductionHypothesis =>
      obtain ⟨⟨notHere, notAbove⟩, restDown⟩ := List.forall_mem_cons.mp leadDown
      cases rest with
      | nil =>
          simp [walk, notHere, notAbove, isCalled]
      | cons next others =>
          rw [walk]
          · simp [notHere, notAbove, isCalled,
              inductionHypothesis (List.cons_ne_nil _ _) restDown]
          · nofun

/-- Encoding the segments of a path is encoding the path. -/
theorem intercalate_encode (segments : List (List Char)) :
    ['/'].intercalate (segments.map (Text.Percent.encode .upper isCodedInPath)) =
      Text.Percent.encode .upper isCodedInPath (['/'].intercalate segments) := by
  have slashStays : Text.Percent.Stays isCodedInPath '/' := by
    decide
  induction segments with
  | nil =>
      rfl
  | cons first rest inductionHypothesis =>
      by_cases isLast : rest = []
      · simp [isLast]
      · have hasRest : rest.map (Text.Percent.encode .upper isCodedInPath) ≠ [] := by
          simpa using isLast
        rw [List.map_cons, List.intercalate_cons_of_ne_nil hasRest,
          List.intercalate_cons_of_ne_nil isLast, List.append_assoc, List.append_assoc,
          Text.Percent.encode_append, List.singleton_append, List.singleton_append,
          Text.Percent.encode_cons_of_stays slashStays, inductionHypothesis]

/-- A path that leads down is read as its text in percent coding. -/
theorem readPath_of_leadsDown
    {text : List Char}
    (noOther : '\\' ∉ text)
    (leadsDown :
      ∀ segment ∈ text.splitOn '/', isHere segment = false ∧ isAbove segment = false) :
    readPath isSlash ('/' :: text) =
      '/' :: Text.Percent.encode .upper isCodedInPath text := by
  have isRooted : withoutRoot isSlash ('/' :: text) = text := rfl
  rw [readPath, segments, isRooted, splitOnP_isSlash noOther,
    walk_of_leadsDown (List.splitOn_ne_nil _ _) leadsDown, List.reverse_nil,
    List.nil_append, joined, intercalate_encode, List.intercalate_splitOn]

/-! ## Pages -/

/-- A query or a fragment, if there is one. -/
def IsTail (text : List Char) : Prop :=
  text = [] ∨ BeginsTail text

/-- The text of an address in parts. -/
structure Page where
  opening : List Char
  labels : List (List Char)
  port : List Char
  path : List Char
  tail : List Char

namespace Page

/-- The name of the host. -/
def host (page : Page) : List Char :=
  ['.'].intercalate page.labels

/-- The host and the port. -/
def authority (page : Page) : List Char :=
  page.host ++ page.port

/-- What stands before a query. -/
def front (page : Page) : List Char :=
  page.opening ++ page.authority ++ page.path

/-- The text. -/
def text (page : Page) : List Char :=
  page.front ++ page.tail

/--
The address is written plainly. Its host has usual labels and perhaps a port behind it. Its
path has no white space and no other sign than slashes, and each of its segments leads down.
The query and the fragment can be any.
-/
structure IsPlain (page : Page) : Prop where
  opens : page.opening ∈ Link.openings
  hasLabels : page.labels ≠ []
  areUsual : ∀ label ∈ page.labels, Host.IsUsual label
  port :
    page.port = [] ∨
      ∃ digits, page.port = ':' :: digits ∧ ∀ digit ∈ digits, digit.isDigit = true
  rooted : page.path = [] ∨ ∃ rest, page.path = '/' :: rest
  path :
    ∀ character ∈ page.path,
      Text.isBlank character = false ∧ isMargin character = false ∧
        character ∉ "\\?#".toList
  leadsDown :
    ∀ segment ∈ page.path.splitOn '/', isHere segment = false ∧ isAbove segment = false
  tail : IsTail page.tail

end Page

/-- What is dropped from a text with a tail is dropped from the tail. -/
theorem exists_dropped
    {inClass : Char → Bool}
    (signsStay : inClass '?' = false ∧ inClass '#' = false)
    {front tail : List Char}
    (frontStays : ∀ character ∈ front, inClass character = false)
    (isTail : IsTail tail) :
    ∃ kept,
      IsTail kept ∧
        Text.dropTrailing inClass ((front ++ tail).dropWhile inClass) = front ++ kept := by
  have frontKept : front.dropWhile inClass = front := by
    rw [List.dropWhile_eq_self_iff]
    intro hasFirst
    rw [frontStays _ (List.getElem_mem hasFirst)]
    nofun
  rcases isTail with rfl | ⟨sign, rest, rfl, isSign⟩
  · refine ⟨[], .inl rfl, ?_⟩
    rw [List.append_nil, frontKept]
    have dropsNone : Text.dropTrailing inClass (front ++ []) = front :=
      Text.dropTrailing_append nofun
        fun last isLast => frontStays last (List.mem_of_getLast? isLast)
    rwa [List.append_nil] at dropsNone
  · have signStays : inClass sign = false := by
      rcases isSign with rfl | rfl
      · exact signsStay.1
      · exact signsStay.2
    refine ⟨sign :: Text.dropTrailing inClass rest, .inr ⟨sign, _, rfl, isSign⟩, ?_⟩
    rw [Text.dropWhile_append_of_head, frontKept, Text.dropTrailing_append_cons signStays]
    rintro first ⟨⟩
    exact signStays

/-- What is usual stands in no other part of an address than the host. -/
theorem stays_of_usual
    {character : Char}
    (isUsual : Host.usual.has character = true) :
    Text.isBlank character = false ∧ isMargin character = false ∧
      endsAuthority character = false ∧ character ≠ '@' :=
  Host.forall_usual isUsual (by decide +kernel)

/-- Digits are usual. -/
theorem usual_of_isDigit
    {character : Char}
    (isDigit : character.isDigit = true) :
    Host.usual.has character = true := by
  have inRange : 0x30 ≤ character.toNat ∧ character.toNat ≤ 0x39 := by
    simp only [Char.isDigit, Bool.and_eq_true, decide_eq_true_eq] at isDigit
    exact isDigit
  simp [Host.usual, Text.CharSet.has, Text.CharSet.hasCode, Text.CharRange.has, inRange]

/-- An opening leaves nothing that is dropped from an address. -/
theorem stays_of_mem_openings
    {opening : List Char}
    (isOpening : opening ∈ Link.openings) :
    ∀ character ∈ opening,
      Text.isBlank character = false ∧ isMargin character = false := by
  simp only [Link.openings, List.mem_cons, List.not_mem_nil, or_false] at isOpening
  rcases isOpening with rfl | rfl <;> exact List.forall_iff_forall_mem.mp (by decide)

namespace Page.IsPlain

variable {page : Page} (isPlain : page.IsPlain)
include isPlain

/-- The host and the port stand up to the first sign that ends them. -/
theorem stays_of_mem_authority
    {character : Char}
    (member : character ∈ page.authority) :
    Text.isBlank character = false ∧ isMargin character = false ∧
      endsAuthority character = false ∧ character ≠ '@' := by
  rcases List.mem_append.mp member with inHost | inPort
  · rcases Host.usual_of_mem_intercalate isPlain.areUsual inHost with rfl | isUsual
    · decide
    · exact stays_of_usual isUsual
  · rcases isPlain.port with isNone | ⟨digits, isPort, areDigits⟩
    · rw [isNone] at inPort
      cases inPort
    · rw [isPort] at inPort
      rcases List.mem_cons.mp inPort with rfl | isIn
      · decide
      · exact stays_of_usual (usual_of_isDigit (areDigits character isIn))

/-- Nothing is dropped from what stands before a query. -/
theorem stays_of_mem_front
    {character : Char}
    (member : character ∈ page.front) :
    Text.isBlank character = false ∧ isMargin character = false := by
  rcases List.mem_append.mp member with before | inPath
  · rcases List.mem_append.mp before with inOpening | inAuthority
    · exact stays_of_mem_openings isPlain.opens character inOpening
    · have stays := isPlain.stays_of_mem_authority inAuthority
      exact ⟨stays.1, stays.2.1⟩
  · exact ⟨(isPlain.path character inPath).1, (isPlain.path character inPath).2.1⟩

/-- A trimmed address loses something of its tail at most. -/
theorem exists_trimmed :
    ∃ kept, IsTail kept ∧ Text.trimmed page.text = page.front ++ kept :=
  exists_dropped (by decide) (fun _ member => (isPlain.stays_of_mem_front member).1)
    isPlain.tail

/-- An address that is read loses something of its tail at most. -/
theorem exists_prepared :
    ∃ kept, IsTail kept ∧ prepared page.text = page.front ++ kept := by
  obtain ⟨kept, isTail, isKept⟩ :=
    exists_dropped (by decide) (fun _ member => (isPlain.stays_of_mem_front member).2)
      isPlain.tail
  have noBreaks : page.front.filter (!isBreak ·) = page.front := by
    refine List.filter_eq_self.mpr fun character member => ?_
    rw [Bool.not_eq_true']
    refine Bool.eq_false_iff.mpr fun isOne => ?_
    have stays := (isPlain.stays_of_mem_front member).2
    simp only [isBreak, Bool.or_eq_true, beq_iff_eq] at isOne
    rcases isOne with (rfl | rfl) | rfl <;> exact absurd stays (by decide)
  refine ⟨kept.filter (!isBreak ·), ?_, ?_⟩
  · rcases isTail with rfl | ⟨sign, rest, rfl, isSign⟩
    · exact .inl rfl
    · refine .inr ⟨sign, rest.filter (!isBreak ·), ?_, isSign⟩
      rcases isSign with rfl | rfl <;> exact List.filter_cons_of_pos (by decide)
  · rw [prepared, text, isKept, List.filter_append, noBreaks]

omit isPlain in
/-- What follows the host and the port begins with a sign that ends them. -/
theorem endsAuthority_of_head?
    {path tail : List Char}
    (rooted : path = [] ∨ ∃ rest, path = '/' :: rest)
    (isTail : IsTail tail)
    {first : Char}
    (isFirst : (path ++ tail).head? = some first) :
    endsAuthority first = true := by
  rcases rooted with rfl | ⟨rest, rfl⟩
  · rcases isTail with rfl | ⟨sign, others, rfl, isSign⟩
    · cases isFirst
    · cases isFirst
      rcases isSign with rfl | rfl <;> decide
  · cases isFirst
    decide

/-- The host is cut off before the port. -/
theorem splitPort_authority :
    ∃ digits, splitPort false page.authority = (page.host, digits) := by
  have hostSplits :
      ∀ host : List Char, ':' ∉ host → '[' ∉ host →
        ∃ digits, splitPort false (host ++ page.port) = (host, digits) := by
    intro host noColon noBracket
    induction host with
    | nil =>
        rcases isPlain.port with isNone | ⟨digits, isPort, -⟩
        · exact ⟨none, by rw [isNone]; rfl⟩
        · exact ⟨some digits, by rw [isPort]; rfl⟩
    | cons first rest inductionHypothesis =>
        obtain ⟨digits, isSplit⟩ :=
          inductionHypothesis
            (fun member => noColon (List.mem_cons_of_mem _ member))
            (fun member => noBracket (List.mem_cons_of_mem _ member))
        have notColon : first ≠ ':' := fun isFirst => noColon (isFirst ▸ List.mem_cons_self)
        have notBracket : (first == '[') = false :=
          beq_eq_false_iff_ne.mpr fun isFirst => noBracket (isFirst ▸ List.mem_cons_self)
        refine ⟨digits, ?_⟩
        simp [splitPort, notColon, notBracket, isSplit]
  exact
    hostSplits page.host
      (Host.not_mem_intercalate isPlain.areUsual ':' (by decide) (by decide))
      (Host.not_mem_intercalate isPlain.areUsual '[' (by decide) (by decide))

/-- The host of an address that is read is the one that its labels are read as. -/
theorem host_of_readAuthority?
    {usualPort : Nat}
    {authority : Authority}
    (isRead : readAuthority? usualPort page.authority = some authority) :
    ∃ host, Host.parse? page.host = some host ∧ authority.host = some host := by
  have noUser : withoutUser page.authority = page.authority := by
    have notAt : ∀ character ∈ page.authority.reverse, (character != '@') = true := by
      intro character member
      simpa using (isPlain.stays_of_mem_authority (List.mem_reverse.mp member)).2.2.2
    rw [withoutUser, List.takeWhile_eq_self_iff.mpr notAt, List.reverse_reverse]
  obtain ⟨digits, isSplit⟩ := isPlain.splitPort_authority
  simp only [readAuthority?, noUser, isSplit, Option.bind_eq_bind] at isRead
  split at isRead
  · cases isRead
  · obtain ⟨host, isHost, isRead⟩ := Option.bind_eq_some_iff.mp isRead
    obtain ⟨port, -, isRead⟩ := Option.bind_eq_some_iff.mp isRead
    cases isRead
    exact ⟨host, isHost, rfl⟩

/-- The host has a first character. -/
theorem exists_authority_eq_cons :
    ∃ first rest, page.authority = first :: rest := by
  obtain ⟨label, others, areLabels⟩ := List.exists_cons_of_ne_nil isPlain.hasLabels
  have isUsual : Host.IsUsual label :=
    isPlain.areUsual label (areLabels ▸ List.mem_cons_self)
  obtain ⟨first, rest, isLabel⟩ := List.exists_cons_of_ne_nil isUsual.ne_nil
  rw [authority, host, areLabels]
  by_cases isLast : others = []
  · exact ⟨first, rest ++ page.port, by simp [isLast, isLabel]⟩
  · rw [List.intercalate_cons_of_ne_nil isLast, isLabel]
    exact ⟨first, _, rfl⟩

/-- Behind the slashes stands the authority, and behind it the path. -/
theorem cut_authority {kept : List Char} (isTail : IsTail kept) :
    let text :=
      ("//".toList ++ (page.authority ++ (page.path ++ kept))).dropWhile isSlash
    text.takeWhile (!endsAuthority ·) = page.authority ∧
      text.dropWhile (!endsAuthority ·) = page.path ++ kept := by
  intro text
  have stays (character : Char) (member : character ∈ page.authority) :
      (!endsAuthority character) = true := by
    rw [(isPlain.stays_of_mem_authority member).2.2.1]
    rfl
  have stops (first : Char) (isFirst : (page.path ++ kept).head? = some first) :
      (!endsAuthority first) = false := by
    rw [endsAuthority_of_head? isPlain.rooted isTail isFirst]
    rfl
  have isText : text = page.authority ++ (page.path ++ kept) := by
    obtain ⟨first, rest, isAuthority⟩ := isPlain.exists_authority_eq_cons
    have notEnd := (isPlain.stays_of_mem_authority (isAuthority ▸ List.mem_cons_self)).2.2.1
    have notSlash : isSlash first = false := by
      simp only [endsAuthority, Bool.or_eq_false_iff] at notEnd
      exact notEnd.1.1
    have areSlashes : ∀ sign ∈ "//".toList, isSlash sign = true :=
      List.forall_iff_forall_mem.mp (by decide)
    simp only [text]
    rw [List.dropWhile_append_of_pos areSlashes, isAuthority, List.cons_append,
      List.dropWhile_cons_of_neg (by simp [notSlash])]
  rw [isText, Text.takeWhile_append_of_head stops, Text.dropWhile_append_of_head stops,
    List.takeWhile_eq_self_iff.mpr stays, List.dropWhile_eq_nil_iff.mpr stays]
  exact ⟨rfl, rfl⟩

/-- Behind the scheme stand two slashes and the rest of the address. -/
theorem exists_scheme (kept : List Char) :
    ∃ scheme port,
      Link.scheme? (page.front ++ kept) =
          some (scheme, "//".toList ++ (page.authority ++ (page.path ++ kept))) ∧
        SchemeKind.of (scheme.map Char.toLower) = .network port := by
  have opens := isPlain.opens
  simp only [Link.openings, List.mem_cons, List.not_mem_nil, or_false] at opens
  rcases opens with isHttp | isHttps
  · refine ⟨"http".toList, 80, Link.scheme?_eq_some_iff.mpr ⟨?_, ?_, ?_⟩, by decide⟩
    · simp [front, isHttp]
    · exact List.forall_iff_forall_mem.mp (by decide)
    · exact ⟨'h', "ttp".toList, rfl, by decide⟩
  · refine ⟨"https".toList, 443, Link.scheme?_eq_some_iff.mpr ⟨?_, ?_, ?_⟩, by decide⟩
    · simp [front, isHttps]
    · exact List.forall_iff_forall_mem.mp (by decide)
    · exact ⟨'h', "ttps".toList, rfl, by decide⟩

/-- The path and what follows it are parted again. -/
theorem base_split {kept : List Char} (isTail : IsTail kept) :
    (Link.Parts.split (page.path ++ kept)).base = page.path := by
  have noSign (sign : Char) (isSign : sign ∈ "?#".toList) :
      ∀ character ∈ page.path, (character != sign) = true := by
    intro character member
    have notSign := (isPlain.path character member).2.2
    rw [bne_iff_ne]
    rintro rfl
    exact notSign (List.mem_cons_of_mem _ isSign)
  rcases isTail with rfl | ⟨sign, rest, rfl, rfl | rfl⟩
  · simp [Link.Parts.split, List.takeWhile_eq_self_iff.mpr (noSign '#' (by decide)),
      List.takeWhile_eq_self_iff.mpr (noSign '?' (by decide))]
  · simp [Link.Parts.split, List.takeWhile_append_of_pos (noSign '#' (by decide)),
      List.takeWhile_append_of_pos (noSign '?' (by decide))]
  · simp [Link.Parts.split, List.takeWhile_append_of_pos (noSign '#' (by decide)),
      List.takeWhile_eq_self_iff.mpr (noSign '?' (by decide))]

/-- An address that is read has the host of its labels and the path that its text means. -/
theorem exists_of_parse?
    {url : Url}
    (isRead : parse? page.text = some url) :
    ∃ host,
      Host.parse? page.host = some host ∧ url.host = some host ∧
        url.path = readPath isSlash page.path := by
  obtain ⟨kept, isTail, isPrepared⟩ := isPlain.exists_prepared
  obtain ⟨scheme, port, isScheme, isNetwork⟩ := isPlain.exists_scheme kept
  rw [parse?, isPrepared, isScheme, Option.bind_some] at isRead
  dsimp only at isRead
  rw [isNetwork] at isRead
  dsimp only [readNetwork?] at isRead
  obtain ⟨isFirst, isAfter⟩ := isPlain.cut_authority isTail
  rw [isFirst, isAfter] at isRead
  obtain ⟨authority, isAuthority, rfl⟩ := Option.map_eq_some_iff.mp isRead
  obtain ⟨host, isHost, hasHost⟩ := isPlain.host_of_readAuthority? isAuthority
  refine ⟨host, isHost, hasHost, ?_⟩
  rw [withRest, isPlain.base_split isTail]

/-- The path that is read begins as its text does. -/
theorem prefix_path_iff
    (wanted : List Char)
    (wantsSome : wanted ≠ [])
    (stay : ∀ character ∈ wanted, Text.Percent.Stays isCodedInPath character)
    {url : Url}
    (isRead : parse? page.text = some url) :
    '/' :: wanted <+: url.path ↔ '/' :: wanted <+: page.path := by
  obtain ⟨host, -, -, isPath⟩ := isPlain.exists_of_parse? isRead
  rw [isPath]
  rcases isPlain.rooted with isNone | ⟨rest, isRest⟩
  · have isRoot : readPath isSlash [] = ['/'] := rfl
    rw [isNone, isRoot, List.cons_prefix_cons, List.prefix_nil]
    exact iff_of_false (fun isPrefix => wantsSome isPrefix.2) (by simp)
  · have noOther : '\\' ∉ rest := fun member =>
      (isPlain.path '\\' (isRest ▸ List.mem_cons_of_mem _ member)).2.2 (by decide)
    have leadsDown (segment : List Char) (member : segment ∈ rest.splitOn '/') :
        isHere segment = false ∧ isAbove segment = false := by
      refine isPlain.leadsDown segment ?_
      rw [isRest, List.splitOn, List.splitOnP_cons_eq_if_modifyHead]
      exact List.mem_cons_of_mem _ member
    rw [isRest, readPath_of_leadsDown noOther leadsDown, List.cons_prefix_cons,
      List.cons_prefix_cons, Text.Percent.prefix_encode_iff stay]

/--
The host that is read is one of a domain just if the labels are, where the domain has no
label in Punycode and ends with `com`.
-/
theorem isWithin_host_iff
    {domain : List Char}
    (isCom : (domain.splitOn '.').getLast? = some "com".toList)
    (notMarked : ∀ label ∈ domain.splitOn '.', ¬Host.punycodeMark <+: label)
    {url : Url}
    (isRead : parse? page.text = some url) :
    (∃ name, url.host = some (.name name) ∧ Host.IsWithin domain name) ↔
      Host.IsWithin domain page.host := by
  obtain ⟨host, isHost, hasHost, -⟩ := isPlain.exists_of_parse? isRead
  rw [hasHost]
  simp only [Option.some.injEq]
  exact Host.isWithin_iff_of_parse? isCom notMarked isPlain.hasLabels isPlain.areUsual isHost

end Page.IsPlain

end Url

end Untrack
