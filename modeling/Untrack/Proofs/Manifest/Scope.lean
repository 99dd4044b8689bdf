import Untrack.Proofs.Builtin
import Untrack.Proofs.Manifest.ParameterRules
import Untrack.Proofs.Pattern.Spelling
import Untrack.Proofs.Url.Pages

namespace Untrack.Manifest

/-!
# Scope of the built-in providers

The pattern of a built-in provider is meant for the pages of one domain and of those below
it, apart from its redirections. What the pattern says is less: it lets any sign stand for
the dot before `com`, it does not say where the host ends, and its exception is for the
domain alone and not for those below it. The pages that are written plainly and belong to
the domain are all the provider's, and a page of the provider belongs to the domain just
if its text says so.
-/

open Pattern (Expr Spells)
open Computability

/-! ## What the patterns say -/

/-- The sites with a built-in provider. -/
def sites : List String :=
  ["vxtwitter", "fxtwitter"]

/-- The domain of a site. -/
def domainOf (site : String) : List Char :=
  site.toList ++ ".com".toList

/-- Where the redirections of a site are. -/
def redirectPath : List Char :=
  "/i/redirect".toList

/--
The link begins with an opening, labels before the name of the site, and behind that any
sign but a line break, and some text.
-/
def StartsWith
    (labels : List (List Char))
    (site : String)
    (text link : List Char) :
    Prop :=
  ∃ opening ∈ Link.openings, ∃ sign, sign ≠ '\n' ∧
    opening ++ (labels.flatMap (· ++ ['.']) ++ (site.toList ++ sign :: text)) <+: link

/-- The link begins as the address of the site does, with usual labels before it. -/
def LeadsTo (site : String) (link : List Char) : Prop :=
  ∃ labels : List (List Char),
    (∀ label ∈ labels, Host.IsUsual label) ∧ StartsWith labels site "com".toList link

/-- The link begins as the exception of the site does. -/
def IsExcepted (site : String) (link : List Char) : Prop :=
  StartsWith [] site ("com".toList ++ redirectPath) link

/-! ## The expressions -/

/-- The expressions for an opening. -/
def openingExprs : List Expr :=
  "http".toList.map .sign ++
    ([.repeated 0 (some 1) true (.sign 's')] ++ "://".toList.map .sign)

/-- The expression for labels with a dot behind each. -/
def labelsExpr : Expr :=
  .repeated 0 none false (.seq (.repeated 1 none true (.set Host.usual)) (.sign '.'))

/-- Every character but a line break. -/
def withinLine : Text.CharSet :=
  [⟨0, 9⟩, ⟨11, 0x10FFFF⟩]

/-- The expressions for a site, the sign behind it, and some text. -/
def siteExprs (site : String) (text : List Char) : List Expr :=
  site.toList.map .sign ++ ([.set withinLine] ++ text.map .sign)

/-- The openings of links. -/
def openingTexts : Language Char :=
  {"http".toList} * ((1 + {['s']}) * {"://".toList})

/-- Usual labels with a dot behind each. -/
def labelTexts : Language Char :=
  (Pattern.someOf Host.usual * {['.']})∗

/-- A site, one sign behind it, and some text. -/
def siteTexts (site : String) (text : List Char) : Language Char :=
  {site.toList} * (Pattern.oneOf withinLine * {text})

/-- The expressions for an opening spell the openings of links. -/
theorem spells_openingExprs : Spells openingExprs openingTexts :=
  (Spells.signs _).append (((Spells.signs ['s']).optional true).append (Spells.signs _))

/-- The expression for labels spells usual labels. -/
theorem spells_labelsExpr : Spells [labelsExpr] labelTexts :=
  ((Spells.set_repeated Host.usual true).seq (Spells.signs ['.'])).star false

/-- The expressions for a site spell it with one sign behind it, and the text. -/
theorem spells_siteExprs (site : String) (text : List Char) :
    Spells (siteExprs site text) (siteTexts site text) :=
  (Spells.signs _).append ((Spells.set withinLine).append (Spells.signs _))

/-- The openings that are spelled are those of links. -/
theorem mem_openingTexts {run : List Char} :
    run ∈ openingTexts ↔ run ∈ Link.openings := by
  simp only [openingTexts, Language.mem_mul, Language.mem_add, Language.mem_one]
  constructor
  · rintro ⟨_, rfl, _, ⟨_, (rfl | rfl), _, rfl, rfl⟩, rfl⟩
    · exact List.mem_cons_self
    · exact List.mem_cons_of_mem _ List.mem_cons_self
  · intro isOpening
    rcases List.mem_cons.mp isOpening with rfl | isHttps
    · exact ⟨_, rfl, _, ⟨_, .inl rfl, _, rfl, rfl⟩, rfl⟩
    · rw [List.mem_singleton.mp isHttps]
      exact ⟨_, rfl, _, ⟨_, .inr rfl, _, rfl, rfl⟩, rfl⟩

/-- The labels that are spelled are usual ones. -/
theorem mem_labelTexts {run : List Char} :
    run ∈ labelTexts ↔
      ∃ labels : List (List Char),
        (∀ label ∈ labels, Host.IsUsual label) ∧ run = labels.flatMap (· ++ ['.']) := by
  simp only [labelTexts, Language.mem_kstar, Language.mem_mul, Pattern.mem_someOf]
  constructor
  · rintro ⟨pieces, rfl, arePieces⟩
    induction pieces with
    | nil =>
        exact ⟨[], nofun, rfl⟩
    | cons piece pieces inductionHypothesis =>
        obtain ⟨isPiece, othersPieces⟩ := List.forall_mem_cons.mp arePieces
        obtain ⟨label, ⟨isSome, allIn⟩, _, rfl, rfl⟩ := isPiece
        obtain ⟨labels, areUsual, isRest⟩ := inductionHypothesis othersPieces
        refine ⟨label :: labels, List.forall_mem_cons.mpr ⟨⟨isSome, allIn⟩, areUsual⟩, ?_⟩
        rw [List.flatten_cons, List.flatMap_cons, isRest]
  · rintro ⟨labels, areUsual, rfl⟩
    refine ⟨labels.map (· ++ ['.']), List.flatMap_def, fun piece member => ?_⟩
    obtain ⟨label, isLabel, rfl⟩ := List.mem_map.mp member
    have isUsual := areUsual label isLabel
    exact ⟨label, ⟨isUsual.ne_nil, isUsual.usual⟩, ['.'], rfl, rfl⟩

/-- The sign behind a site that is spelled is any but a line break. -/
theorem mem_siteTexts {site : String} {text run : List Char} :
    run ∈ siteTexts site text ↔
      ∃ sign, sign ≠ '\n' ∧ run = site.toList ++ sign :: text := by
  have within (sign : Char) : withinLine.has sign = true ↔ sign ≠ '\n' := by
    have isBreak : sign = '\n' ↔ sign.toNat = 10 := Char.toNat_inj.symm
    have inRange :
        sign.toNat < 0xD800 ∨ 0xDFFF < sign.toNat ∧ sign.toNat < 0x110000 :=
      sign.valid
    simp only [withinLine, Text.CharSet.has, Text.CharSet.hasCode, Text.CharRange.has,
      List.any_cons, List.any_nil, Bool.or_false, Bool.or_eq_true, Bool.and_eq_true,
      decide_eq_true_eq, ne_eq, isBreak]
    omega
  simp only [siteTexts, Language.mem_mul, Pattern.mem_oneOf]
  constructor
  · rintro ⟨_, rfl, _, ⟨_, ⟨sign, isWithin, rfl⟩, _, rfl, rfl⟩, rfl⟩
    exact ⟨sign, (within sign).mp isWithin, rfl⟩
  · rintro ⟨sign, notBreak, rfl⟩
    exact ⟨_, rfl, _, ⟨_, ⟨sign, (within sign).mpr notBreak, rfl⟩, _, rfl, rfl⟩, rfl⟩

/-! ## What the providers match -/

/-- The pattern of a site's address. -/
def addressText (site : String) : String :=
  "^https?:\\/\\/(?:[a-z0-9-]+\\.)*?" ++ site ++ ".com"

/-- The pattern of a site's exception. -/
def exceptionText (site : String) : String :=
  "^https?:\\/\\/" ++ site ++ ".com\\/i\\/redirect"

/-- The address of a site begins the links that lead to it. -/
theorem begins_addressText_iff
    {site : String}
    (isSite : site ∈ sites)
    {link : List Char} :
    Pattern.Begins (addressText site) link ↔ LeadsTo site link := by
  have isRead :
      ∀ site ∈ sites,
        (Pattern.read (addressText site).toList).toOption =
          some
            (.concat
              (.assertion .textStart ::
                (openingExprs ++ ([labelsExpr] ++ siteExprs site "com".toList)))) := by
    decide +kernel
  have spells :=
    spells_openingExprs.append
      (spells_labelsExpr.append (spells_siteExprs site "com".toList))
  rw [spells.begins_iff (isRead site isSite)]
  simp only [Language.mem_mul, mem_openingTexts, mem_labelTexts, mem_siteTexts]
  constructor
  · rintro ⟨_, ⟨opening, opens, _, ⟨_, ⟨labels, areUsual, rfl⟩, _, ⟨sign, notBreak, rfl⟩, rfl⟩,
      rfl⟩, begins⟩
    exact ⟨labels, areUsual, opening, opens, sign, notBreak, begins⟩
  · rintro ⟨labels, areUsual, opening, opens, sign, notBreak, begins⟩
    exact
      ⟨_, ⟨opening, opens, _, ⟨_, ⟨labels, areUsual, rfl⟩, _, ⟨sign, notBreak, rfl⟩, rfl⟩, rfl⟩,
        begins⟩

/-- The exception of a site begins the links that are excepted. -/
theorem begins_exceptionText_iff
    {site : String}
    (isSite : site ∈ sites)
    {link : List Char} :
    Pattern.Begins (exceptionText site) link ↔ IsExcepted site link := by
  have isRead :
      ∀ site ∈ sites,
        (Pattern.read (exceptionText site).toList).toOption =
          some
            (.concat
              (.assertion .textStart ::
                (openingExprs ++ siteExprs site ("com".toList ++ redirectPath)))) := by
    decide +kernel
  have spells :=
    spells_openingExprs.append (spells_siteExprs site ("com".toList ++ redirectPath))
  rw [spells.begins_iff (isRead site isSite)]
  simp only [Language.mem_mul, mem_openingTexts, mem_siteTexts]
  constructor
  · rintro ⟨_, ⟨opening, opens, _, ⟨sign, notBreak, rfl⟩, rfl⟩, begins⟩
    exact ⟨opening, opens, sign, notBreak, begins⟩
  · rintro ⟨opening, opens, sign, notBreak, begins⟩
    exact ⟨_, ⟨opening, opens, _, ⟨sign, notBreak, rfl⟩, rfl⟩, begins⟩

/-- What the definition of a site is read as. -/
theorem ofValue_previewDefinition (site : String) :
    Definition.ofValue (previewDefinition site) =
      .ok
        { urlPattern := addressText site
          rules := some ["(?:ref_?)?src", "s", "cn", "ref_url", "t"]
          rawRules := none
          referralMarketing := none
          redirections := none
          exceptions := some [exceptionText site] } := by
  rfl

/-- The provider of a site matches the links that lead there and are not excepted. -/
theorem isMatch_previewDefinition_iff
    {site : String}
    (isSite : site ∈ sites)
    {provider : Provider}
    (compiles : compileEntry site (previewDefinition site) = .ok provider)
    (link : List Char) :
    provider.isMatch link = true ↔
      LeadsTo site (Text.trimmed link) ∧ ¬IsExcepted site (Text.trimmed link) := by
  rw [compileEntry_of_ofValue (ofValue_previewDefinition site)] at compiles
  have compiled := compiled_of_compileDefinition compiles
  have arePatterns :
      ∀ site ∈ sites,
        Provider.ArePatterns (addressText site) ["(?:ref_?)?src", "s", "cn", "ref_url", "t"] []
          [exceptionText site] := by
    decide +kernel
  have isMatch := compiled.isMatch_iff (arePatterns site isSite) link
  rw [isMatch, begins_addressText_iff isSite]
  simp [begins_exceptionText_iff isSite]

/-! ## Pages of a domain -/

/-- The address is one of the domain, and none of its redirections. -/
def Covers (domain : List Char) (url : Url) : Prop :=
  (∃ name, url.host = some (.name name) ∧ Host.IsWithin domain name) ∧
    ¬redirectPath <+: url.path

/-- The text of an address names the domain, and none of its redirections. -/
def Names (domain : List Char) (page : Url.Page) : Prop :=
  Host.IsWithin domain page.host ∧ ¬redirectPath <+: page.path

/-- A page that is read is covered just if its text says so. -/
theorem covers_iff_names
    {site : String}
    (isSite : site ∈ sites)
    {page : Url.Page}
    (isPlain : page.IsPlain)
    {url : Url}
    (isRead : Url.parse? page.text = some url) :
    Covers (domainOf site) url ↔ Names (domainOf site) page := by
  have facts :
      ∀ site ∈ sites,
        ((domainOf site).splitOn '.').getLast? = some "com".toList ∧
          ∀ label ∈ (domainOf site).splitOn '.', ¬Host.punycodeMark <+: label := by
    decide +kernel
  have stay : ∀ sign ∈ "i/redirect".toList, Text.Percent.Stays Url.isCodedInPath sign :=
    List.forall_iff_forall_mem.mp (by decide)
  have isPath : redirectPath <+: url.path ↔ redirectPath <+: page.path :=
    isPlain.prefix_path_iff "i/redirect".toList (by decide) stay isRead
  rw [Covers, Names, isPath,
    isPlain.isWithin_host_iff (facts site isSite).1 (facts site isSite).2 isRead]

/-- Labels with those of a domain behind them are written one after another. -/
theorem intercalate_append_pair (labels : List (List Char)) (first last : List Char) :
    ['.'].intercalate (labels ++ [first, last]) =
      labels.flatMap (· ++ ['.']) ++ (first ++ '.' :: last) := by
  induction labels with
  | nil =>
      simp
  | cons label rest inductionHypothesis =>
      rw [List.cons_append, List.intercalate_cons_of_ne_nil (by simp), inductionHypothesis]
      simp

/-- The host of a page of a domain is written as the address of the site has it. -/
theorem exists_host_eq
    {site : String}
    (isSite : site ∈ sites)
    {page : Url.Page}
    (isPlain : page.IsPlain)
    (isWithin : Host.IsWithin (domainOf site) page.host) :
    ∃ labels : List (List Char),
      (∀ label ∈ labels, Host.IsUsual label) ∧
        page.host = labels.flatMap (· ++ ['.']) ++ domainOf site := by
  have isSplit :
      ∀ site ∈ sites, (domainOf site).splitOn '.' = [site.toList, "com".toList] := by
    decide +kernel
  rw [Host.IsWithin, isSplit site isSite, Url.Page.host,
    Host.splitOn_of_usual isPlain.hasLabels isPlain.areUsual] at isWithin
  obtain ⟨labels, areLabels⟩ := isWithin
  refine ⟨labels, fun label member => ?_, ?_⟩
  · exact isPlain.areUsual label (areLabels ▸ List.mem_append_left _ member)
  · rw [Url.Page.host, ← areLabels, intercalate_append_pair]
    rfl

/-- Text that stops before some sign is no more than what stands before the sign. -/
theorem prefix_of_prefix_append
    {wanted front back : List Char}
    (stops : ∀ first, back.head? = some first → first ∉ wanted)
    (isPrefix : wanted <+: front ++ back) :
    wanted <+: front := by
  induction wanted generalizing front with
  | nil =>
      exact List.nil_prefix
  | cons character rest inductionHypothesis =>
      cases front with
      | nil =>
          obtain ⟨others, isBack⟩ := isPrefix
          refine absurd List.mem_cons_self (stops character ?_)
          rw [List.nil_append] at isBack
          rw [← isBack]
          rfl
      | cons first others =>
          rw [List.cons_append, List.cons_prefix_cons] at isPrefix
          rw [List.cons_prefix_cons]
          refine ⟨isPrefix.1, inductionHypothesis (fun sign isFirst => ?_) isPrefix.2⟩
          exact fun member => stops sign isFirst (List.mem_cons_of_mem _ member)

/-- Where a sign is met behind a text that has none, the text is over before the sign. -/
theorem prefix_of_append_cons
    {wanted rest front back : List Char}
    {sign : Char}
    (hasNone : sign ∉ front)
    (isPrefix : wanted ++ sign :: rest <+: front ++ back) :
    front <+: wanted := by
  rcases List.prefix_or_prefix_of_prefix isPrefix (List.prefix_append front back) with
    inFront | inWanted
  · exact absurd (inFront.subset (List.mem_append_right _ List.mem_cons_self)) hasNone
  · refine prefix_of_prefix_append (fun first isFirst => ?_) inWanted
    cases isFirst
    exact hasNone

/-- What follows an opening in one text follows it in another that begins with that text. -/
theorem prefix_of_opening_append
    {opening other : List Char}
    (opens : opening ∈ Link.openings)
    (othersOpen : other ∈ Link.openings)
    {wanted rest : List Char}
    (isPrefix : opening ++ wanted <+: other ++ rest) :
    wanted <+: rest := by
  simp only [Link.openings, List.mem_cons, List.not_mem_nil, or_false] at opens othersOpen
  rcases opens with rfl | rfl <;> rcases othersOpen with rfl | rfl
  · exact (List.prefix_append_right_inj _).mp isPrefix
  · simp at isPrefix
  · simp at isPrefix
  · exact (List.prefix_append_right_inj _).mp isPrefix

/-- A page of a domain is no redirection of the site unless its path says so. -/
theorem not_isExcepted_of_names
    {site : String}
    (isSite : site ∈ sites)
    {page : Url.Page}
    (isPlain : page.IsPlain)
    (names : Names (domainOf site) page)
    {kept : List Char}
    (isTail : Url.IsTail kept) :
    ¬IsExcepted site (page.front ++ kept) := by
  rintro ⟨opening, opens, sign, -, begins⟩
  obtain ⟨labels, -, isHost⟩ := exists_host_eq isSite isPlain names.1
  have isRest :
      page.front ++ kept = page.opening ++ (page.host ++ (page.port ++ (page.path ++ kept))) := by
    simp [Url.Page.front, Url.Page.authority]
  rw [isRest, List.flatMap_nil, List.nil_append] at begins
  have behind := prefix_of_opening_append opens isPlain.opens begins
  -- The host has no slash, so it ends before the path of the exception.
  have noSlash : '/' ∉ page.host :=
    Host.not_mem_intercalate isPlain.areUsual '/' (by decide) (by decide)
  let named := site.toList ++ sign :: "com".toList
  have isNamed :
      site.toList ++ sign :: ("com".toList ++ redirectPath) = named ++ redirectPath := by
    simp [named]
  rw [isNamed] at behind
  have isWhole : page.host = named := by
    refine (prefix_of_append_cons noSlash behind).eq_of_length_le ?_
    rw [isHost]
    simp [named, domainOf]
  rw [isWhole, List.prefix_append_right_inj] at behind
  have inPath : redirectPath <+: page.path ++ kept := by
    rcases isPlain.port with noPort | ⟨digits, isPort, -⟩
    · rwa [noPort, List.nil_append] at behind
    · have isSlash : redirectPath = '/' :: "i/redirect".toList := rfl
      rw [isPort, isSlash, List.cons_append, List.cons_prefix_cons] at behind
      exact absurd behind.1 (by decide)
  refine names.2 (prefix_of_prefix_append (fun first isFirst => ?_) inPath)
  rcases isTail with rfl | ⟨mark, rest, rfl, rfl | rfl⟩
  · cases isFirst
  · cases isFirst
    decide
  · cases isFirst
    decide

/--
The provider of a site matches the links that begin as its pages do and are not excepted.
A plainly written page is matched and belongs to the domain, apart from redirections,
just if its text says so: all these pages are matched, and a page that is matched is
covered by the domain only if its text names the domain.
-/
theorem builtin_scope
    {entry : String × Json.Value}
    (isBuiltin : entry ∈ builtins) :
    ∃ provider,
      compileEntry entry.1 entry.2 = .ok provider ∧
        (∀ link,
          provider.isMatch link = true ↔
            LeadsTo entry.1 (Text.trimmed link) ∧
              ¬IsExcepted entry.1 (Text.trimmed link)) ∧
        ∀ (page : Url.Page) (url : Url),
          page.IsPlain →
          Url.parse? page.text = some url →
            (provider.isMatch page.text = true ∧ Covers (domainOf entry.1) url ↔
              Names (domainOf entry.1) page) := by
  obtain ⟨site, isSite, rfl⟩ :
      ∃ site ∈ sites, entry = (site, previewDefinition site) := by
    simpa [builtins, sites] using isBuiltin
  obtain ⟨provider, compiles⟩ := exists_compileEntry_builtin isBuiltin
  have isMatch := isMatch_previewDefinition_iff isSite compiles
  refine ⟨provider, compiles, isMatch, fun page url isPlain isRead => ?_⟩
  rw [covers_iff_names isSite isPlain isRead, and_iff_right_iff_imp, isMatch]
  intro names
  obtain ⟨kept, isTail, isTrimmed⟩ := isPlain.exists_trimmed
  obtain ⟨labels, areUsual, isHost⟩ := exists_host_eq isSite isPlain names.1
  rw [isTrimmed]
  refine ⟨⟨labels, areUsual, page.opening, isPlain.opens, '.', by decide, ?_⟩, ?_⟩
  · refine ⟨page.port ++ page.path ++ kept, ?_⟩
    simp [Url.Page.front, Url.Page.authority, isHost, domainOf]
  · exact not_isExcepted_of_names isSite isPlain names isTail

/-- A page below a domain is matched, and the host that is read for it is below the domain. -/
theorem builtin_scope_of_subdomain :
    ("fxtwitter", previewDefinition "fxtwitter") ∈ builtins ∧
      ∃ provider url,
        compileEntry "fxtwitter" (previewDefinition "fxtwitter") = .ok provider ∧
          Url.parse? "https://d.fxtwitter.com:8443/u?t=a b".toList = some url ∧
          provider.isMatch "https://d.fxtwitter.com:8443/u?t=a b".toList = true ∧
          Covers (domainOf "fxtwitter") url := by
  have isBuiltin : ("fxtwitter", previewDefinition "fxtwitter") ∈ builtins := by
    simp [builtins]
  obtain ⟨provider, compiles, -, scope⟩ := builtin_scope isBuiltin
  let page : Url.Page :=
    { opening := "https://".toList
      labels := ["d".toList, "fxtwitter".toList, "com".toList]
      port := ":8443".toList
      path := "/u".toList
      tail := "?t=a b".toList }
  have isPlain : page.IsPlain :=
    { opens := by decide
      hasLabels := by decide
      areUsual := by decide
      port := .inr ⟨"8443".toList, rfl, List.forall_iff_forall_mem.mp (by decide)⟩
      rooted := .inr ⟨"u".toList, rfl⟩
      path := List.forall_iff_forall_mem.mp (by decide)
      leadsDown := by decide
      tail := .inr ⟨'?', "t=a b".toList, rfl, .inl rfl⟩ }
  have isRead : (Url.parse? page.text).isSome := by
    decide +kernel
  have names : Names (domainOf "fxtwitter") page :=
    ⟨by decide +kernel, by decide +kernel⟩
  obtain ⟨url, isRead⟩ := Option.isSome_iff_exists.mp isRead
  obtain ⟨isMatch, covers⟩ := (scope page url isPlain isRead).mpr names
  exact ⟨isBuiltin, provider, url, compiles, isRead, isMatch, covers⟩

/-- A host that only begins as the domain does is matched as well. -/
theorem builtin_matches_other_host :
    ∃ provider url,
      compileEntry "vxtwitter" (previewDefinition "vxtwitter") = .ok provider ∧
        Url.parse? "https://vxtwitter.com.evil.test/".toList = some url ∧
        provider.isMatch "https://vxtwitter.com.evil.test/".toList = true ∧
        ¬Covers (domainOf "vxtwitter") url := by
  let link := "https://vxtwitter.com.evil.test/".toList
  have isMatch :
      (compileEntry "vxtwitter" (previewDefinition "vxtwitter")).toOption.map
        (·.isMatch link) = some true := by
    decide +kernel
  have hasHost :
      (Url.parse? link).map (·.host) =
        some (some (.name "vxtwitter.com.evil.test".toList)) := by
    decide +kernel
  have isOutside :
      ¬Host.IsWithin (domainOf "vxtwitter") "vxtwitter.com.evil.test".toList := by
    decide +kernel
  obtain ⟨provider, compiles, isMatch⟩ := Option.map_eq_some_iff.mp isMatch
  obtain ⟨url, isRead, isHost⟩ := Option.map_eq_some_iff.mp hasHost
  refine ⟨provider, url, Pattern.eq_ok_of_toOption compiles, isRead, isMatch, ?_⟩
  rintro ⟨⟨name, isName, isWithin⟩, -⟩
  rw [isHost] at isName
  cases isName
  exact isOutside isWithin

end Untrack.Manifest
