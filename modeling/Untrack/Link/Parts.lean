import Untrack.Text.Form

namespace Untrack.Link

/-!
# The parts of a link

For its parameters a link has three parts: the base before its query, the query,
and the fragment from the first number sign on. The query begins after the first
question mark that stands before the fragment. `join` puts the parts together
again, and nothing is lost in between.
-/

/-- The parts of a link; the fragment keeps its sign, the query does not. -/
structure Parts where
  base : List Char
  query : Option (List Char)
  fragment : List Char
  deriving Repr, DecidableEq

namespace Parts

/-- Cut a link into its parts. -/
def split (link : List Char) : Parts :=
  let body := link.takeWhile (· != '#')
  let fragment := link.dropWhile (· != '#')
  { base := body.takeWhile (· != '?')
    query := (body.dropWhile (· != '?')).tail?
    fragment }

/-- The link that has the parts. -/
def join (parts : Parts) : List Char :=
  parts.base ++ (parts.query.map ('?' :: ·)).getD [] ++ parts.fragment

/-- A sign opens what is left after everything before it. -/
theorem dropWhile_eq_cons
    {sign : Char}
    {text rest : List Char}
    {first : Char}
    (shape : text.dropWhile (· != sign) = first :: rest) :
    first = sign := by
  induction text with
  | nil => simp at shape
  | cons head tail inductionHypothesis =>
      rw [List.dropWhile_cons] at shape
      split at shape
      · exact inductionHypothesis shape
      · rename_i isSign
        simp only [List.cons.injEq] at shape
        simpa [← shape.1] using isSign

/-- Joining the parts of a link gives the link. -/
theorem join_split (link : List Char) : (split link).join = link := by
  have whole : link.takeWhile (· != '#') ++ link.dropWhile (· != '#') = link :=
    List.takeWhile_append_dropWhile
  have body :
      (link.takeWhile (· != '#')).takeWhile (· != '?') ++
          (link.takeWhile (· != '#')).dropWhile (· != '?') =
        link.takeWhile (· != '#') :=
    List.takeWhile_append_dropWhile
  simp only [join, split]
  cases shape : (link.takeWhile (· != '#')).dropWhile (· != '?') with
  | nil =>
      rw [shape, List.append_nil] at body
      simp [body, whole]
  | cons first rest =>
      have isMark := dropWhile_eq_cons shape
      rw [shape, isMark] at body
      simp [body, whole]

end Parts

/--
Take the tracking segments out of the query of a link. A link without any stays
as it is; else the segments that are left are joined again, and a query of which
nothing is left goes with its question mark.
-/
def strip (isTracking : List Char → Bool) (link : List Char) : List Char :=
  let parts := Parts.split link
  match parts.query with
  | none => link
  | some query =>
      let segments := Text.Form.segments query
      if segments.any isTracking then
        let kept := segments.filter fun segment => !isTracking segment
        Parts.join
          { parts with
            query :=
              if kept.isEmpty then none else some (['&'].intercalate kept) }
      else
        link

end Untrack.Link
