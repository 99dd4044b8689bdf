import Untrack.Link.Parts
import Mathlib.Data.List.TakeWhile

namespace Untrack.Link

/-!
# Taking tracking segments out of a link

A link is stripped in one of three ways: it stays as it is, its query is joined
again from the segments that are left, or its query goes with its question mark.
In each of them the segments of the result are those of the link that do not
track, and so stripping twice is stripping once with both kinds of segments.
-/

/-- The segments in the query of a link. -/
def pairs (link : List Char) : List (List Char) :=
  match (Parts.split link).query with
  | none => []
  | some query => Text.Form.segments query

/-! ## Cutting a joined link -/

namespace Parts

/-- The parts are where cutting a link would put them. -/
structure IsCut (parts : Parts) : Prop where
  noMark :
    '?' ∉ parts.base
  noSign :
    '#' ∉ parts.base
  queryNoSign :
    ∀ query, parts.query = some query → '#' ∉ query
  opened :
    parts.fragment = [] ∨ ∃ rest, parts.fragment = '#' :: rest

/-- The part before the first sign does not hold it. -/
private theorem not_mem_takeWhile (sign : Char) (text : List Char) :
    sign ∉ text.takeWhile (· != sign) := by
  intro member
  have passed := List.mem_takeWhile_imp member
  simp at passed

/-- The part from the first sign on opens with it, if there is one. -/
private theorem dropWhile_opened (sign : Char) (text : List Char) :
    text.dropWhile (· != sign) = [] ∨
      ∃ rest, text.dropWhile (· != sign) = sign :: rest := by
  cases shape : text.dropWhile (· != sign) with
  | nil =>
      exact .inl rfl
  | cons first rest =>
      exact .inr ⟨rest, by rw [dropWhile_eq_cons shape]⟩

/-- A text that is put together at a sign is cut there again. -/
private theorem cut_append
    {sign : Char}
    {front back : List Char}
    (absent : sign ∉ front)
    (opened : back = [] ∨ ∃ rest, back = sign :: rest) :
    (front ++ back).takeWhile (· != sign) = front ∧
      (front ++ back).dropWhile (· != sign) = back := by
  have passes : ∀ character ∈ front, (character != sign) = true := by
    intro character member
    have differs : character ≠ sign := fun same => absent (same ▸ member)
    simpa using differs
  rw [List.takeWhile_append_of_pos passes, List.dropWhile_append_of_pos passes]
  rcases opened with empty | ⟨rest, shape⟩
  · simp [empty]
  · simp [shape]

/-- The parts of a link are where cutting puts them. -/
theorem isCut_split (link : List Char) : (split link).IsCut where
  noMark :=
    not_mem_takeWhile '?' _
  noSign member :=
    not_mem_takeWhile '#' link
      (List.takeWhile_subset _ member)
  queryNoSign query isQuery member := by
    have inBody : '#' ∈ link.takeWhile (· != '#') := by
      have isTail :
          ((link.takeWhile (· != '#')).dropWhile (· != '?')).tail = query := by
        rw [List.tail_eq_tail?]
        exact congrArg (Option.getD · []) isQuery
      rw [← isTail] at member
      exact List.dropWhile_subset _ (List.mem_of_mem_tail member)
    exact not_mem_takeWhile '#' link inBody
  opened :=
    dropWhile_opened '#' link

/-- Cutting a link gives the parts that it was joined from. -/
theorem split_join
    {parts : Parts}
    (cut : parts.IsCut) :
    split parts.join = parts := by
  rcases parts with ⟨base, query, fragment⟩
  obtain ⟨noMark, noSign, queryNoSign, opened⟩ := cut
  have queryOpened :
      (query.map ('?' :: ·)).getD [] = [] ∨
        ∃ rest, (query.map ('?' :: ·)).getD [] = '?' :: rest := by
    cases query with
    | none =>
        exact .inl rfl
    | some text =>
        exact .inr ⟨text, rfl⟩
  have bodyNoSign : '#' ∉ base ++ (query.map ('?' :: ·)).getD [] := by
    cases query with
    | none =>
        simpa using noSign
    | some text =>
        simpa [noSign] using queryNoSign text rfl
  obtain ⟨body, fragmentAgain⟩ := cut_append bodyNoSign opened
  obtain ⟨baseAgain, queryAgain⟩ := cut_append noMark queryOpened
  simp only [split, join, body, fragmentAgain, baseAgain, queryAgain]
  cases query <;> rfl

end Parts

/-! ## Segments -/

/-- What stands between ampersands is part of the text and holds none of them. -/
private theorem mem_splitOn
    {text segment : List Char}
    (member : segment ∈ text.splitOn '&') :
    '&' ∉ segment ∧ segment ⊆ text := by
  induction text generalizing segment with
  | nil =>
      simp_all
  | cons first rest inductionHypothesis =>
      rw [List.splitOn_cons_eq_if_modifyHead] at member
      have later (among : segment ∈ rest.splitOn '&') :
          '&' ∉ segment ∧ segment ⊆ first :: rest := by
        obtain ⟨noAmpersand, inRest⟩ := inductionHypothesis among
        exact ⟨noAmpersand, fun _ inside => List.mem_cons_of_mem _ (inRest inside)⟩
      split at member
      · rcases List.mem_cons.mp member with isEmpty | among
        · simp [isEmpty]
        · exact later among
      · rename_i notAmpersand
        rcases shape : rest.splitOn '&' with _ | ⟨head, tail⟩
        · exact (List.splitOn_ne_nil '&' rest shape).elim
        · rw [shape, List.modifyHead_cons] at member
          rcases List.mem_cons.mp member with isHead | among
          · obtain ⟨noAmpersand, inRest⟩ :=
              inductionHypothesis (shape ▸ List.mem_cons_self)
            rw [isHead]
            refine ⟨?_, List.cons_subset_cons first inRest⟩
            simp only [beq_iff_eq] at notAmpersand
            simp [noAmpersand, Ne.symm notAmpersand]
          · exact later (shape ▸ List.mem_cons_of_mem head among)

/-- A segment holds some text, and no ampersand. -/
theorem segment_shape
    {query segment : List Char}
    (member : segment ∈ Text.Form.segments query) :
    segment ≠ [] ∧ '&' ∉ segment ∧ segment ⊆ query := by
  obtain ⟨between, someText⟩ := List.mem_filter.mp member
  exact ⟨by simpa using someText, mem_splitOn between⟩

/-- Some segments of a query, joined, are the segments of what they make. -/
theorem segments_intercalate
    {query : List Char}
    {kept : List (List Char)}
    (inQuery : kept ⊆ Text.Form.segments query)
    (hasSegments : kept ≠ []) :
    Text.Form.segments (['&'].intercalate kept) = kept := by
  have noAmpersand (segment : List Char) (member : segment ∈ kept) :
      '&' ∉ segment :=
    (segment_shape (inQuery member)).2.1
  rw [Text.Form.segments, List.splitOn_intercalate '&' noAmpersand hasSegments]
  refine List.filter_eq_self.mpr ?_
  intro segment member
  simpa using (segment_shape (inQuery member)).1

/-- Joining segments brings in no sign but the ampersand. -/
theorem not_mem_intercalate
    {kept : List (List Char)}
    {sign : Char}
    (notAmpersand : sign ≠ '&')
    (absent : ∀ segment ∈ kept, sign ∉ segment) :
    sign ∉ ['&'].intercalate kept := by
  induction kept with
  | nil =>
      simp
  | cons first rest inductionHypothesis =>
      have inRest :=
        inductionHypothesis fun segment member =>
          absent segment (List.mem_cons_of_mem first member)
      have inFirst := absent first List.mem_cons_self
      by_cases isLast : rest = []
      · simpa [isLast] using inFirst
      · rw [List.intercalate_cons_of_ne_nil isLast]
        simp [inFirst, notAmpersand, inRest]

/-! ## The three ways to strip a link -/

/-- The query that is left when only some segments are. -/
def rejoined (kept : List (List Char)) : Option (List Char) :=
  if kept.isEmpty then none else some (['&'].intercalate kept)

/-- A link with some of its segments. -/
def keeping (link : List Char) (kept : List (List Char)) : List Char :=
  Parts.join { Parts.split link with query := rejoined kept }

/-- Stripping depends on nothing but which segments track. -/
theorem strip_eq (isTracking : List Char → Bool) (link : List Char) :
    strip isTracking link =
      if (pairs link).any isTracking then
        keeping link ((pairs link).filter fun segment => !isTracking segment)
      else
        link := by
  unfold strip pairs
  cases query : (Parts.split link).query with
  | none =>
      simp only [query]
      rfl
  | some text =>
      simp only [query]
      rfl

/-- A link without tracking segments stays as it is. -/
theorem strip_of_untracked
    {isTracking : List Char → Bool}
    {link : List Char}
    (untracked : ∀ segment ∈ pairs link, isTracking segment = false) :
    strip isTracking link = link := by
  have noneTracks : (pairs link).any isTracking = false := by
    simpa using untracked
  rw [strip_eq, noneTracks]
  rfl

/-- The parts of a link with some of its segments. -/
theorem split_keeping
    {link : List Char}
    {kept : List (List Char)}
    (inLink : kept ⊆ pairs link) :
    Parts.split (keeping link kept) =
      { Parts.split link with query := rejoined kept } := by
  obtain ⟨noMark, noSign, queryNoSign, opened⟩ := Parts.isCut_split link
  refine Parts.split_join ⟨noMark, noSign, ?_, opened⟩
  intro text isJoined
  cases query : (Parts.split link).query with
  | none =>
      have nothing : kept = [] := by
        simpa [pairs, query] using inLink
      simp [rejoined, nothing] at isJoined
  | some whole =>
      unfold rejoined at isJoined
      split at isJoined
      · cases isJoined
      · cases isJoined
        refine not_mem_intercalate (by decide) ?_
        intro segment member inSegment
        have inQuery : segment ∈ Text.Form.segments whole := by
          simpa [pairs, query] using inLink member
        exact queryNoSign whole query ((segment_shape inQuery).2.2 inSegment)

/-- A link with some of its segments has just these. -/
theorem pairs_keeping
    {link : List Char}
    {kept : List (List Char)}
    (inLink : kept ⊆ pairs link) :
    pairs (keeping link kept) = kept := by
  rw [pairs, split_keeping inLink, rejoined]
  by_cases nothing : kept = []
  · simp [nothing]
  · simp only [List.isEmpty_iff, nothing, ↓reduceIte]
    cases query : (Parts.split link).query with
    | none =>
        simp [pairs, query, nothing] at inLink
    | some whole =>
        have inQuery : kept ⊆ Text.Form.segments whole := by
          simpa [pairs, query] using inLink
        exact segments_intercalate inQuery nothing

/-- Stripping a link with some of its segments keeps those that do not track. -/
theorem strip_keeping
    {link : List Char}
    {kept : List (List Char)}
    (isTracking : List Char → Bool)
    (inLink : kept ⊆ pairs link) :
    strip isTracking (keeping link kept) =
      keeping link (kept.filter fun segment => !isTracking segment) := by
  have again (fewer : List (List Char)) :
      keeping (keeping link kept) fewer = keeping link fewer := by
    rw [keeping, split_keeping inLink, keeping]
  rw [strip_eq, pairs_keeping inLink, again]
  split
  · rfl
  · rename_i noneTracks
    have allKept : (kept.filter fun segment => !isTracking segment) = kept := by
      refine List.filter_eq_self.mpr ?_
      simpa using noneTracks
    rw [allKept]

/-! ## Stripping twice -/

/-- The segments of a stripped link are those of the link that do not track. -/
theorem pairs_strip (isTracking : List Char → Bool) (link : List Char) :
    pairs (strip isTracking link) =
      (pairs link).filter fun segment => !isTracking segment := by
  rw [strip_eq]
  split
  · exact pairs_keeping (List.filter_sublist.subset)
  · rename_i noneTracks
    symm
    refine List.filter_eq_self.mpr ?_
    simpa using noneTracks

/-- Segments that a link does not have do not matter when it is stripped. -/
theorem strip_congr
    {first second : List Char → Bool}
    {link : List Char}
    (agree : ∀ segment ∈ pairs link, first segment = second segment) :
    strip first link = strip second link := by
  have sameAny : (pairs link).any first = (pairs link).any second := by
    rw [Bool.eq_iff_iff, List.any_eq_true, List.any_eq_true]
    refine exists_congr fun segment => and_congr_right fun member => ?_
    rw [agree segment member]
  have sameKept :
      ((pairs link).filter fun segment => !first segment) =
        (pairs link).filter fun segment => !second segment :=
    List.filter_congr fun segment member => by rw [agree segment member]
  rw [strip_eq, strip_eq, sameAny, sameKept]

/-- Stripping twice is stripping once of the segments that either would take. -/
theorem strip_strip
    (first second : List Char → Bool)
    (link : List Char) :
    strip second (strip first link) =
      strip (fun segment => first segment || second segment) link := by
  by_cases firstTracks : (pairs link).any first = true
  · have eitherTracks :
        ((pairs link).any fun segment => first segment || second segment) =
          true := by
      obtain ⟨segment, member, tracks⟩ := List.any_eq_true.mp firstTracks
      exact List.any_eq_true.mpr ⟨segment, member, by simp [tracks]⟩
    rw [strip_eq first, if_pos firstTracks,
      strip_keeping second List.filter_sublist.subset, List.filter_filter,
      strip_eq, if_pos eitherTracks]
    simp [Bool.and_comm]
  · have untracked : ∀ segment ∈ pairs link, first segment = false := by
      simpa using firstTracks
    rw [strip_of_untracked untracked]
    refine strip_congr fun segment member => ?_
    rw [untracked segment member, Bool.false_or]

end Untrack.Link
