import Untrack.Proofs.Cleaning

namespace Untrack

/-!
# What stripping leaves of a query

A query is looked at in two ways. Stripping cuts it at its ampersands and works
on the segments as they stand, while whoever gets the link reads the query as
form data, field by field. `parse` is such a reader, which knows nothing of
segments; it finds one field in every segment and none elsewhere. So taking out
the segments that track takes out the fields with a name that some rule matches,
and leaves all others as they were.
-/

namespace Text.Form

/-- The field in a piece of a query; an empty piece holds none. -/
def fieldIn (piece : List Char) : List (List Char × List Char) :=
  if piece.isEmpty then [] else [readField piece]

/-- Read a query on from a piece that has been begun. -/
def parseFrom : (piece query : List Char) → List (List Char × List Char)
  | piece, [] => fieldIn piece
  | piece, sign :: rest =>
      if sign = '&' then
        fieldIn piece ++ parseFrom [] rest
      else
        parseFrom (piece ++ [sign]) rest

/-- The names and values that a query holds when it is read as form data. -/
def parse (query : List Char) : List (List Char × List Char) :=
  parseFrom [] query

/-- Some pieces of a query hold the fields of those that are not empty. -/
private theorem flatMap_fieldIn (pieces : List (List Char)) :
    pieces.flatMap fieldIn =
      (pieces.filter (!·.isEmpty)).map readField := by
  induction pieces with
  | nil =>
      rfl
  | cons piece rest inductionHypothesis =>
      rw [List.flatMap_cons, inductionHypothesis, fieldIn, List.filter_cons]
      cases piece <;> rfl

/-- Reading on from a piece is reading the pieces that it and the query make. -/
private theorem parseFrom_eq (piece query : List Char) :
    parseFrom piece query =
      ((query.splitOn '&').modifyHead (piece ++ ·)).flatMap fieldIn := by
  induction query generalizing piece with
  | nil =>
      simp [parseFrom]
  | cons sign rest inductionHypothesis =>
      rw [parseFrom, List.splitOn_cons_eq_if_modifyHead]
      have nonempty := List.splitOn_ne_nil '&' rest
      obtain ⟨first, others, shape⟩ := List.exists_cons_of_ne_nil nonempty
      by_cases isEnd : sign = '&'
      · simp [isEnd, inductionHypothesis, shape]
      · simp [isEnd, inductionHypothesis, shape]

/-- The fields of a query are read from its segments, one from each. -/
theorem parse_eq_fields (query : List Char) : parse query = fields query := by
  obtain ⟨first, others, shape⟩ :=
    List.exists_cons_of_ne_nil (List.splitOn_ne_nil '&' query)
  rw [parse, parseFrom_eq, shape, List.modifyHead_cons, List.nil_append,
    flatMap_fieldIn, ← shape, fields, segments]

/-- A segment is read as one field. -/
theorem parse_segment
    {query segment : List Char}
    (member : segment ∈ segments query) :
    parse segment = [readField segment] := by
  obtain ⟨someText, noAmpersand, -⟩ := Link.segment_shape member
  have whole : segments (['&'].intercalate [segment]) = [segment] :=
    Link.segments_intercalate (by simpa using member) (by simp)
  rw [parse_eq_fields, fields]
  rw [List.intercalate_singleton] at whole
  rw [whole, List.map_singleton]

end Text.Form

namespace Link

/-- The fields of a link are read from its segments. -/
theorem parse_query (link : List Char) :
    Text.Form.parse ((Parts.split link).query.getD []) =
      (pairs link).map Text.Form.readField := by
  rw [Text.Form.parse_eq_fields, Text.Form.fields, pairs]
  cases (Parts.split link).query <;> rfl

/-- A link that was stripped differs from the link in its query alone. -/
theorem strip_eq_join (isTracking : List Char → Bool) (link : List Char) :
    strip isTracking link =
      Parts.join
        { Parts.split link with
          query := (Parts.split (strip isTracking link)).query } := by
  have sameOthers :
      Parts.split (strip isTracking link) =
        { Parts.split link with
          query := (Parts.split (strip isTracking link)).query } := by
    rw [strip_eq]
    split
    · rw [split_keeping List.filter_sublist.subset]
    · rfl
  exact (Parts.join_split _).symm.trans (congrArg Parts.join sameOthers)

/-- The query of a stripped link follows from the query of the link. -/
theorem query_strip_congr
    (isTracking : List Char → Bool)
    {first second : List Char}
    (sameQuery : (Parts.split first).query = (Parts.split second).query) :
    (Parts.split (strip isTracking first)).query =
      (Parts.split (strip isTracking second)).query := by
  have samePairs : pairs first = pairs second := by
    rw [pairs, pairs, sameQuery]
  rw [strip_eq, strip_eq, samePairs]
  split
  · have inFirst :
        (pairs second).filter (fun segment => !isTracking segment) ⊆
          pairs first := by
      rw [samePairs]
      exact List.filter_sublist.subset
    rw [split_keeping inFirst, split_keeping List.filter_sublist.subset]
  · exact sameQuery

end Link

namespace Provider

/--
Stripping a link takes out the pairs of its query whose name some rule matches,
and nothing else. The base and the fragment stay and have no say in it. Without
such a pair the link stays as it is; else the other pairs are joined again in
their order. Whoever reads the query as form data finds all fields but those with
a name that a rule matches, and stripping again changes nothing.
-/
theorem strip_takes_tracking_pairs (provider : Provider) (link : List Char) :
    ∃ (parts : Link.Parts) (query : Option (List Char)),
      let pairs := Text.Form.segments (parts.query.getD [])
      let kept := pairs.filter fun pair => !provider.isTracking pair
      (parts.IsCut ∧ parts.join = link) ∧
        (Link.Parts.IsCut { parts with query } ∧
          provider.strip link = Link.Parts.join { parts with query }) ∧
        (∀ others : Link.Parts,
          others.IsCut →
          others.query = parts.query →
          provider.strip others.join = Link.Parts.join { others with query }) ∧
        (∀ pair ∈ pairs, ∃ field,
          Text.Form.parse pair = [field] ∧
            provider.isTracking pair = provider.marks field.1) ∧
        ((∀ pair ∈ pairs, provider.isTracking pair = false) →
          provider.strip link = link) ∧
        ((∃ pair ∈ pairs, provider.isTracking pair = true) →
          query = if kept.isEmpty then none else some (['&'].intercalate kept)) ∧
        Text.Form.parse (query.getD []) =
          (Text.Form.parse (parts.query.getD [])).filter
            (fun field => !provider.marks field.1) ∧
        provider.strip (provider.strip link) = provider.strip link := by
  refine
    ⟨Link.Parts.split link, (Link.Parts.split (provider.strip link)).query, ?_⟩
  intro pairs kept
  have isPairs : pairs = Link.pairs link := by
    simp only [pairs, Link.pairs]
    cases (Link.Parts.split link).query <;> rfl
  have stripped := Link.strip_eq_join provider.isTracking link
  refine
    ⟨⟨Link.Parts.isCut_split link, Link.Parts.join_split link⟩, ⟨?_, stripped⟩,
      ?_, ?_, ?_, ?_, ?_, ?_⟩
  · have cut := Link.Parts.isCut_split (provider.strip link)
    have given := Link.Parts.isCut_split link
    exact ⟨given.noMark, given.noSign, cut.queryNoSign, given.opened⟩
  · intro others cut sameQuery
    have parts := Link.Parts.split_join cut
    have sameLeft :
        (Link.Parts.split (Link.strip provider.isTracking others.join)).query =
          (Link.Parts.split (Link.strip provider.isTracking link)).query :=
      Link.query_strip_congr provider.isTracking (by rw [parts, sameQuery])
    rw [Provider.strip, Link.strip_eq_join, parts, sameLeft]
    rfl
  · intro pair member
    exact ⟨_, Text.Form.parse_segment member, rfl⟩
  · intro untracked
    rw [isPairs] at untracked
    exact Link.strip_of_untracked untracked
  · rintro ⟨pair, member, tracks⟩
    rw [isPairs] at member
    have someTracks : (Link.pairs link).any provider.isTracking = true :=
      List.any_eq_true.mpr ⟨pair, member, tracks⟩
    rw [Provider.strip, Link.strip_eq, if_pos someTracks,
      Link.split_keeping List.filter_sublist.subset, ← isPairs]
    rfl
  · rw [Link.parse_query, Link.parse_query, Provider.strip, Link.pairs_strip,
      List.filter_map]
    rfl
  · have twice : (fun pair => provider.isTracking pair || provider.isTracking pair) =
        provider.isTracking := by
      funext pair
      exact Bool.or_self _
    rw [Provider.strip, Provider.strip, Link.strip_strip, twice]

end Provider

end Untrack
