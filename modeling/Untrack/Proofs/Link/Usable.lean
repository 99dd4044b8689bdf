import Untrack.Link.Extract
import Untrack.Proofs.Host.Ending
import Untrack.Proofs.Link.Strip
import Mathlib.Data.List.Induction

namespace Untrack

/-!
# What makes a link usable

Whether a text is a link is settled by what stands before its query and its
fragment: a scheme of the web, and an authority that can be read. Other queries
and fragments do not matter to that. A link that loses its query and has no
fragment loses the white space before it too; since no host ends with white space,
that is not part of the host either. So a link that is stripped stays a link.
-/

namespace Text

/-! ## Runs at both ends of a text -/

variable {inClass : Char → Bool} {back : List Char}

/-- A run at the start of a text does not go on past a character outside its class. -/
theorem takeWhile_append_of_head
    (stops : ∀ first, back.head? = some first → inClass first = false)
    (front : List Char) :
    (front ++ back).takeWhile inClass = front.takeWhile inClass := by
  induction front with
  | nil =>
      cases back with
      | nil =>
          rfl
      | cons first rest =>
          simp [stops first rfl]
  | cons first rest inductionHypothesis =>
      rw [List.cons_append, List.takeWhile_cons, List.takeWhile_cons, inductionHypothesis]

/-- A run is removed before a character outside its class as if nothing followed. -/
theorem dropWhile_append_of_head
    (stops : ∀ first, back.head? = some first → inClass first = false)
    (front : List Char) :
    (front ++ back).dropWhile inClass = front.dropWhile inClass ++ back := by
  induction front with
  | nil =>
      cases back with
      | nil =>
          rfl
      | cons first rest =>
          simp [stops first rfl]
  | cons first rest inductionHypothesis =>
      rw [List.cons_append, List.dropWhile_cons, List.dropWhile_cons, inductionHypothesis]
      split <;> rfl

/-- What is removed from the end is removed after a character outside the class. -/
theorem dropTrailing_append_cons
    {sign : Char}
    (stops : inClass sign = false)
    (front rest : List Char) :
    dropTrailing inClass (front ++ sign :: rest) =
      front ++ sign :: dropTrailing inClass rest := by
  have turned : (front ++ sign :: rest).reverse = rest.reverse ++ sign :: front.reverse := by
    simp
  have stopsThere (first : Char) (isFirst : (sign :: front.reverse).head? = some first) :
      inClass first = false := by
    cases isFirst
    exact stops
  rw [dropTrailing, turned, dropWhile_append_of_head stopsThere]
  simp [dropTrailing]

/-- What is removed from the end is a run. -/
theorem exists_dropTrailing_append (inClass : Char → Bool) (text : List Char) :
    ∃ run, (∀ character ∈ run, inClass character = true) ∧
      text = dropTrailing inClass text ++ run := by
  refine ⟨(text.reverse.takeWhile inClass).reverse, fun character member => ?_, ?_⟩
  · exact List.mem_takeWhile_imp (List.mem_reverse.mp member)
  · rw [dropTrailing, ← List.reverse_append, List.takeWhile_append_dropWhile,
      List.reverse_reverse]

/-- Of what follows a text some is removed if all of the text is. -/
theorem exists_dropWhile_append (inClass : Char → Bool) (front back : List Char) :
    ∃ rest, rest ⊆ back ∧
      (front ++ back).dropWhile inClass = front.dropWhile inClass ++ rest := by
  induction front with
  | nil =>
      exact ⟨back.dropWhile inClass, List.dropWhile_subset _, rfl⟩
  | cons first others inductionHypothesis =>
      rw [List.cons_append, List.dropWhile_cons, List.dropWhile_cons]
      split
      · exact inductionHypothesis
      · exact ⟨back, List.Subset.refl _, rfl⟩

end Text

namespace Url

/-! ## Web addresses -/

/-- The usual port of the schemes that a browser asks for pages. -/
def webPort? (scheme : List Char) : Option Nat :=
  if scheme = "http".toList then some 80
  else if scheme = "https".toList then some 443
  else none

/-- The text where the user, the host and the port stand, under a known scheme. -/
def authorityText (rest : List Char) : List Char :=
  (rest.dropWhile isSlash).takeWhile (!endsAuthority ·)

/-- A text, without what is dropped from it, opens with a web scheme and a host. -/
def Opens (text : List Char) : Prop :=
  ∃ scheme rest port,
    Link.scheme? text = some (scheme, rest) ∧
      webPort? (scheme.map Char.toLower) = some port ∧
      (readAuthority? port (authorityText rest)).isSome

/-- The address of a file that is read has the scheme it is read after. -/
theorem scheme_of_readFile?
    {scheme rest : List Char}
    {url : Url}
    (isRead : readFile? scheme rest = some url) :
    url.scheme = scheme := by
  unfold readFile? at isRead
  split at isRead
  · dsimp only at isRead
    split at isRead
    · cases isRead
      rfl
    · split at isRead
      · cases isRead
        rfl
      · obtain ⟨host, -, rfl⟩ := Option.map_eq_some_iff.mp isRead
        rfl
  · cases isRead
    rfl

/-- An address that is read under any other scheme has the one it is read after. -/
theorem scheme_of_readOther?
    {scheme rest : List Char}
    {url : Url}
    (isRead : readOther? scheme rest = some url) :
    url.scheme = scheme := by
  unfold readOther? at isRead
  split at isRead
  · obtain ⟨authority, -, rfl⟩ := Option.map_eq_some_iff.mp isRead
    rfl
  · cases isRead
    rfl
  · cases isRead
    rfl

/-- An address has the scheme that its text opens with, in small letters. -/
theorem scheme_of_parse?
    {text scheme rest : List Char}
    {url : Url}
    (isScheme : Link.scheme? (prepared text) = some (scheme, rest))
    (isRead : parse? text = some url) :
    url.scheme = scheme.map Char.toLower := by
  rw [parse?, isScheme, Option.bind_some] at isRead
  dsimp only at isRead
  split at isRead
  · obtain ⟨authority, -, rfl⟩ := Option.map_eq_some_iff.mp isRead
    rfl
  · exact scheme_of_readFile? isRead
  · exact scheme_of_readOther? isRead

/-- An authority that is read names a host. -/
theorem host_of_readAuthority?
    {usualPort : Nat}
    {text : List Char}
    {authority : Authority}
    (isRead : readAuthority? usualPort text = some authority) :
    authority.host.isSome := by
  simp only [readAuthority?, Option.bind_eq_bind] at isRead
  split at isRead
  · cases isRead
  · obtain ⟨host, -, isRead⟩ := Option.bind_eq_some_iff.mp isRead
    obtain ⟨port, -, isRead⟩ := Option.bind_eq_some_iff.mp isRead
    cases isRead
    rfl

/-- Only two schemes are those of the web. -/
theorem scheme_of_webPort?
    {scheme : List Char}
    {port : Nat}
    (isPort : webPort? scheme = some port) :
    scheme = "http".toList ∨ scheme = "https".toList := by
  unfold webPort? at isPort
  split at isPort
  · exact .inl ‹_›
  · split at isPort
    · exact .inr ‹_›
    · cases isPort

/-- An address is one of the web just if its scheme has a port here. -/
theorem isWeb_iff (url : Url) :
    url.isWeb = true ↔ ∃ port, webPort? url.scheme = some port := by
  rw [isWeb, Bool.or_eq_true, decide_eq_true_iff, decide_eq_true_iff]
  constructor
  · rintro (isHttp | isHttps)
    · exact ⟨80, by rw [isHttp]; rfl⟩
    · exact ⟨443, by rw [isHttps]; rfl⟩
  · rintro ⟨port, isPort⟩
    exact scheme_of_webPort? isPort

/-- Web addresses are read as what is on the network, with the same port. -/
theorem kind_of_webPort?
    {scheme : List Char}
    {port : Nat}
    (isPort : webPort? scheme = some port) :
    SchemeKind.of scheme = .network port := by
  rcases scheme_of_webPort? isPort with rfl | rfl <;> cases isPort <;> rfl

/-- A text is a link just if it opens with a web scheme and a host. -/
theorem isLink_iff (text : List Char) :
    Link.isLink text = true ↔ Opens (prepared (Text.trimmed text)) := by
  rw [Link.isLink]
  constructor
  · intro isLink
    split at isLink
    · rename_i url isRead
      have ofWeb := (isWeb_iff url).mp ((Bool.and_eq_true _ _).mp isLink).1
      obtain ⟨⟨scheme, rest⟩, isScheme, isRest⟩ := Option.bind_eq_some_iff.mp isRead
      rw [scheme_of_parse? isScheme isRead] at ofWeb
      obtain ⟨port, isPort⟩ := ofWeb
      dsimp only at isRest
      rw [kind_of_webPort? isPort] at isRest
      obtain ⟨authority, isAuthority, -⟩ := Option.map_eq_some_iff.mp isRest
      exact ⟨scheme, rest, port, isScheme, isPort, by rw [authorityText, isAuthority]; rfl⟩
    · cases isLink
  · rintro ⟨scheme, rest, port, isScheme, isPort, hasAuthority⟩
    obtain ⟨authority, isAuthority⟩ := Option.isSome_iff_exists.mp hasAuthority
    have isRead :
        parse? (Text.trimmed text) =
          some
            (withRest (scheme.map Char.toLower) authority isCodedInKnownQuery
              (readPath isSlash)
              ((rest.dropWhile isSlash).dropWhile (!endsAuthority ·))) := by
      rw [authorityText] at isAuthority
      rw [parse?, isScheme, Option.bind_some]
      dsimp only
      rw [kind_of_webPort? isPort]
      dsimp only [readNetwork?]
      rw [isAuthority]
      rfl
    rw [isRead]
    exact
      (Bool.and_eq_true _ _).mpr
        ⟨(isWeb_iff _).mpr ⟨port, isPort⟩, host_of_readAuthority? isAuthority⟩

/-! ## What follows the host -/

/-- The scheme of a text is settled before a character that no scheme is made of. -/
theorem scheme?_append
    {back : List Char}
    (stops :
      ∀ first, back.head? = some first →
        Link.isSchemeCharacter first = false ∧ first ≠ ':')
    (front : List Char) :
    Link.scheme? (front ++ back) =
      (Link.scheme? front).map fun (scheme, rest) => (scheme, rest ++ back) := by
  have isOther (first : Char) (isFirst : back.head? = some first) :
      Link.isSchemeCharacter first = false :=
    (stops first isFirst).1
  unfold Link.scheme?
  rw [Text.takeWhile_append_of_head isOther, Text.dropWhile_append_of_head isOther]
  rcases front.takeWhile Link.isSchemeCharacter with _ | ⟨letter, others⟩
  · rfl
  · rcases shape : front.dropWhile Link.isSchemeCharacter with _ | ⟨sign, rest⟩
    · rcases back with _ | ⟨first, rest⟩
      · rfl
      · have notColon := (stops first rfl).2
        simp [notColon]
    · by_cases isColon : sign = ':'
      · by_cases isLetter : Link.isLetter letter = true <;> simp [isColon, isLetter]
      · simp [isColon]

/-- A query or a fragment begins here. -/
def BeginsTail (text : List Char) : Prop :=
  ∃ sign rest, text = sign :: rest ∧ (sign = '?' ∨ sign = '#')

/-- Neither a query nor a fragment matters to what a text opens with. -/
theorem opens_append_iff
    {tail : List Char}
    (begins : BeginsTail tail)
    (front : List Char) :
    Opens (front ++ tail) ↔ Opens front := by
  obtain ⟨sign, rest, rfl, isSign⟩ := begins
  have facts :
      Link.isSchemeCharacter sign = false ∧ sign ≠ ':' ∧ isSlash sign = false ∧
        endsAuthority sign = true := by
    rcases isSign with rfl | rfl <;> decide
  obtain ⟨notInScheme, notColon, notSlash, ends⟩ := facts
  have sameScheme :
      Link.scheme? (front ++ sign :: rest) =
        (Link.scheme? front).map fun (scheme, text) => (scheme, text ++ sign :: rest) := by
    refine scheme?_append (fun first isFirst => ?_) front
    cases isFirst
    exact ⟨notInScheme, notColon⟩
  have sameAuthority (text : List Char) :
      authorityText (text ++ sign :: rest) = authorityText text := by
    rw [authorityText, Text.dropWhile_append_of_head, Text.takeWhile_append_of_head,
      authorityText]
    · rintro first ⟨⟩
      rw [ends]
      rfl
    · rintro first ⟨⟩
      exact notSlash
  unfold Opens
  rw [sameScheme]
  constructor
  · rintro ⟨scheme, text, port, isScheme, isPort, isAuthority⟩
    obtain ⟨⟨scheme, text⟩, inFront, ⟨⟩⟩ := Option.map_eq_some_iff.mp isScheme
    rw [sameAuthority] at isAuthority
    exact ⟨scheme, text, port, inFront, isPort, isAuthority⟩
  · rintro ⟨scheme, text, port, isScheme, isPort, isAuthority⟩
    refine ⟨scheme, text ++ sign :: rest, port, ?_, isPort, ?_⟩
    · rw [isScheme]
      rfl
    · rwa [sameAuthority]

/-- White space at the end is no part of what a text opens with. -/
theorem Edge.opens_of_append
    {character : Char}
    (edge : Edge character)
    {front : List Char}
    (opens : Opens (front ++ [character])) :
    Opens front := by
  have notColon : character ≠ ':' := by
    rintro rfl
    exact edge.noSign (by decide)
  have notSlash : isSlash character = false := by
    have noSign := edge.noSign
    simp at noSign
    simp [isSlash, noSign]
  have endsNothing : endsAuthority character = false := by
    have noSign := edge.noSign
    simp at noSign
    simp [endsAuthority, notSlash, noSign]
  obtain ⟨scheme, rest, port, isScheme, isPort, isAuthority⟩ := opens
  rw [scheme?_append] at isScheme
  · obtain ⟨⟨scheme, text⟩, inFront, ⟨⟩⟩ := Option.map_eq_some_iff.mp isScheme
    refine ⟨scheme, text, port, inFront, isPort, ?_⟩
    rw [authorityText, Text.dropWhile_append_of_head, List.takeWhile_append] at isAuthority
    · split at isAuthority
      · -- The authority goes on to the end, so it would end with the character.
        rename_i reachesEnd
        have unread := edge.readAuthority?_append port (text.dropWhile isSlash)
        simp [endsNothing, unread] at isAuthority
      · exact isAuthority
    · rintro first ⟨⟩
      exact notSlash
  · rintro first ⟨⟩
    exact ⟨edge.notInScheme, notColon⟩

/-- No run of white space at the end is part of what a text opens with. -/
theorem opens_of_append_edges
    {front run : List Char}
    (areEdges : ∀ character ∈ run, isEdge character = true)
    (opens : Opens (front ++ run)) :
    Opens front := by
  induction run using List.reverseRecOn with
  | nil =>
      rwa [List.append_nil] at opens
  | append_singleton run character inductionHypothesis =>
      rw [← List.append_assoc] at opens
      have edge := edge_of_isEdge (areEdges character (by simp))
      refine inductionHypothesis (fun other member => ?_) (edge.opens_of_append opens)
      exact areEdges other (List.mem_append_left _ member)

/-! ## What is dropped from an address -/

/-- A text without what is dropped at its start. -/
def begun (text : List Char) : List Char :=
  (text.dropWhile Text.isBlank).dropWhile isMargin

/-- A text without what is dropped at its end, and without breaks. -/
def ended (text : List Char) : List Char :=
  (Text.dropTrailing isMargin (Text.dropTrailing Text.isBlank text)).filter (!isBreak ·)

/-- A sign that is not dropped parts what is dropped at the start and at the end. -/
theorem prepared_append_cons
    {sign : Char}
    (notBlank : Text.isBlank sign = false)
    (notMargin : isMargin sign = false)
    (front rest : List Char) :
    prepared (Text.trimmed (front ++ sign :: rest)) =
      (begun front).filter (!isBreak ·) ++ sign :: ended rest := by
  have stops (inClass : Char → Bool)
      (notIn : inClass sign = false)
      (after : List Char)
      (first : Char)
      (isFirst : (sign :: after).head? = some first) :
      inClass first = false := by
    cases isFirst
    exact notIn
  have notBreak : isBreak sign = false := by
    refine Bool.eq_false_iff.mpr fun isOne => ?_
    simp only [isBreak, Bool.or_eq_true, beq_iff_eq] at isOne
    rcases isOne with (rfl | rfl) | rfl <;> exact absurd notMargin (by decide)
  rw [Text.trimmed, Text.dropWhile_append_of_head (stops _ notBlank _),
    Text.dropTrailing_append_cons notBlank, prepared,
    Text.dropWhile_append_of_head (stops _ notMargin _),
    Text.dropTrailing_append_cons notMargin, List.filter_append, begun,
    List.filter_cons_of_pos (by simp [notBreak]), ended]

/-- White space is all that a text loses at its end. -/
theorem exists_prepared_append (text : List Char) :
    ∃ run, (∀ character ∈ run, isEdge character = true) ∧
      (begun text).filter (!isBreak ·) = prepared (Text.trimmed text) ++ run := by
  -- Where a text is all white space, its start takes from what its end would lose.
  obtain ⟨blanks, areBlank, isWhole⟩ :=
    Text.exists_dropTrailing_append Text.isBlank (text.dropWhile Text.isBlank)
  obtain ⟨left, isLeft, isBegun⟩ :=
    Text.exists_dropWhile_append isMargin (Text.trimmed text) blanks
  obtain ⟨margins, areMargins, isInner⟩ :=
    Text.exists_dropTrailing_append isMargin ((Text.trimmed text).dropWhile isMargin)
  refine ⟨(margins ++ left).filter (!isBreak ·), fun character member => ?_, ?_⟩
  · obtain ⟨among, notBreak⟩ := List.mem_filter.mp member
    have isDropped : (Text.isBlank character || isMargin character) = true := by
      rcases List.mem_append.mp among with isMargin | isBlank
      · simp [areMargins character isMargin]
      · simp [areBlank character (isLeft isBlank)]
    rw [isEdge, isDropped, Bool.true_and]
    exact notBreak
  · rw [begun, isWhole, ← Text.trimmed, isBegun]
    conv_lhs => rw [isInner]
    rw [List.append_assoc, List.filter_append, prepared]

/-! ## Links -/

/-- Whether a text with a query or a fragment is a link is settled before these. -/
theorem isLink_append_iff
    {tail : List Char}
    (begins : BeginsTail tail)
    (front : List Char) :
    Link.isLink (front ++ tail) = true ↔ Opens ((begun front).filter (!isBreak ·)) := by
  obtain ⟨sign, rest, rfl, isSign⟩ := begins
  have kept : Text.isBlank sign = false ∧ isMargin sign = false := by
    rcases isSign with rfl | rfl <;> decide
  rw [isLink_iff, prepared_append_cons kept.1 kept.2]
  exact opens_append_iff ⟨sign, ended rest, rfl, isSign⟩ _

/-- A link is one still without its query and its fragment. -/
theorem isLink_of_append
    {tail : List Char}
    (begins : BeginsTail tail)
    {front : List Char}
    (usable : Link.isLink (front ++ tail) = true) :
    Link.isLink front = true := by
  have opens := (isLink_append_iff begins front).mp usable
  obtain ⟨run, areEdges, isWhole⟩ := exists_prepared_append front
  rw [isWhole] at opens
  exact (isLink_iff front).mpr (opens_of_append_edges areEdges opens)

end Url

namespace Link

/-- What follows the base of a link begins a query or a fragment, if there is any. -/
theorem beginsTail
    {link : List Char}
    (query : Option (List Char))
    (hasTail :
      (query.map ('?' :: ·)).getD [] ++ (Parts.split link).fragment ≠ []) :
    Url.BeginsTail ((query.map ('?' :: ·)).getD [] ++ (Parts.split link).fragment) := by
  cases query with
  | some text =>
      exact ⟨'?', _, rfl, .inl rfl⟩
  | none =>
      rcases (Parts.isCut_split link).opened with empty | ⟨rest, isFragment⟩
      · exact absurd empty hasTail
      · exact ⟨'#', rest, isFragment, .inr rfl⟩

/-- A link is one still when segments are taken out of its query. -/
theorem isLink_strip
    {link : List Char}
    (usable : isLink link = true)
    (isTracking : List Char → Bool) :
    isLink (strip isTracking link) = true := by
  rw [strip_eq]
  split
  · rename_i tracks
    obtain ⟨text, isQuery⟩ : ∃ text, (Parts.split link).query = some text := by
      cases query : (Parts.split link).query with
      | none =>
          simp [pairs, query] at tracks
      | some text =>
          exact ⟨text, rfl⟩
    have hadTail :
        Url.BeginsTail
          (((Parts.split link).query.map ('?' :: ·)).getD [] ++
            (Parts.split link).fragment) :=
      beginsTail _ (by simp [isQuery])
    rw [← Parts.join_split link, Parts.join, List.append_assoc] at usable
    rw [keeping, Parts.join, List.append_assoc]
    generalize rejoined _ = query
    by_cases noTail : (query.map ('?' :: ·)).getD [] ++ (Parts.split link).fragment = []
    · dsimp only
      rw [noTail, List.append_nil]
      exact Url.isLink_of_append hadTail usable
    · rw [Url.isLink_append_iff hadTail] at usable
      exact (Url.isLink_append_iff (beginsTail query noTail) _).mpr usable
  · exact usable

/-! ## Schemes -/

/-- A scheme is a letter and what else it can hold, up to a colon. -/
theorem scheme?_eq_some_iff
    {text scheme rest : List Char} :
    scheme? text = some (scheme, rest) ↔
      text = scheme ++ ':' :: rest ∧
        (∀ character ∈ scheme, isSchemeCharacter character = true) ∧
        ∃ letter others, scheme = letter :: others ∧ isLetter letter = true := by
  constructor
  · intro isScheme
    have whole :
        text.takeWhile isSchemeCharacter ++ text.dropWhile isSchemeCharacter = text :=
      List.takeWhile_append_dropWhile
    unfold scheme? at isScheme
    split at isScheme
    · rename_i letter others after isTaken isLeft
      split at isScheme
      · rename_i opensWell
        cases isScheme
        refine ⟨by rw [← isTaken, ← isLeft, whole], ?_, letter, others, rfl, opensWell⟩
        rw [← isTaken]
        exact fun _ member => List.mem_takeWhile_imp member
      · cases isScheme
    · cases isScheme
  · rintro ⟨rfl, inScheme, letter, others, rfl, opensWell⟩
    have stops (first : Char) (isFirst : (':' :: rest).head? = some first) :
        isSchemeCharacter first = false := by
      cases isFirst
      decide
    rw [scheme?, Text.takeWhile_append_of_head stops, Text.dropWhile_append_of_head stops,
      List.takeWhile_eq_self_iff.mpr inScheme, List.dropWhile_eq_nil_iff.mpr inScheme]
    exact if_pos opensWell

/-- What a scheme is made of is not dropped from an address. -/
theorem kept_of_isSchemeCharacter
    {character : Char}
    (inScheme : isSchemeCharacter character = true) :
    Text.isBlank character = false ∧ Url.isMargin character = false ∧
      Url.isBreak character = false := by
  have notBreak : Url.isBreak character = false := by
    refine Bool.eq_false_iff.mpr fun isOne => ?_
    simp only [Url.isBreak, Bool.or_eq_true, beq_iff_eq] at isOne
    rcases isOne with (rfl | rfl) | rfl <;> exact absurd inScheme (by decide)
  have notEdge : Url.isEdge character = false := by
    refine Bool.eq_false_iff.mpr fun isOne => ?_
    rw [(Url.edge_of_isEdge isOne).notInScheme] at inScheme
    cases inScheme
  rw [Url.isEdge, notBreak, Bool.not_false, Bool.and_true, Bool.or_eq_false_iff] at notEdge
  exact ⟨notEdge.1, notEdge.2, notBreak⟩

/-- A text that begins with a scheme keeps it when white space is dropped. -/
theorem scheme?_prepared
    {text scheme rest : List Char}
    (isScheme : scheme? text = some (scheme, rest)) :
    scheme? (Url.prepared (Text.trimmed text)) = some (scheme, Url.ended rest) := by
  obtain ⟨rfl, inScheme, letter, others, rfl, isLetter⟩ := scheme?_eq_some_iff.mp isScheme
  obtain ⟨notBlank, notMargin, -⟩ :=
    kept_of_isSchemeCharacter (inScheme letter List.mem_cons_self)
  have isWhole :
      (Url.begun (letter :: others)).filter (!Url.isBreak ·) = letter :: others := by
    rw [Url.begun, List.dropWhile_cons_of_neg (by simp [notBlank]),
      List.dropWhile_cons_of_neg (by simp [notMargin]), List.filter_eq_self]
    intro character member
    rw [(kept_of_isSchemeCharacter (inScheme character member)).2.2]
    rfl
  rw [Url.prepared_append_cons (by decide) (by decide), isWhole]
  exact scheme?_eq_some_iff.mpr ⟨rfl, inScheme, letter, others, rfl, isLetter⟩

/-- The scheme that a link can lend is one of the web. -/
theorem web_of_scheme?
    {link scheme rest : List Char}
    (usable : isLink link = true)
    (isScheme : scheme? link = some (scheme, rest)) :
    ∃ port, Url.webPort? (scheme.map Char.toLower) = some port := by
  obtain ⟨found, text, port, isFound, isPort, -⟩ := (Url.isLink_iff link).mp usable
  rw [scheme?_prepared isScheme] at isFound
  cases isFound
  exact ⟨port, isPort⟩

/-- A text with a web scheme is a link just if a host can be read after that. -/
theorem isLink_iff_of_scheme?
    {text scheme rest : List Char}
    {port : Nat}
    (isScheme : scheme? text = some (scheme, rest))
    (isPort : Url.webPort? (scheme.map Char.toLower) = some port) :
    isLink text = true ↔
      (Url.readAuthority? port (Url.authorityText (Url.ended rest))).isSome := by
  rw [Url.isLink_iff, Url.Opens, scheme?_prepared isScheme]
  constructor
  · rintro ⟨found, others, usualPort, ⟨⟩, isUsual, isAuthority⟩
    rw [isPort] at isUsual
    cases isUsual
    exact isAuthority
  · exact fun isAuthority => ⟨scheme, _, port, rfl, isPort, isAuthority⟩

end Link

end Untrack
