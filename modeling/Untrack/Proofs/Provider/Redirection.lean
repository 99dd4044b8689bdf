import Untrack.Proofs.Link.Schemes

namespace Untrack

/-!
# Which redirection decides

The redirections of a provider are tried in order. One that does not match, or whose
group takes no part, is passed over, and the first other one decides alone. It leads
to its decoded target if that has a scheme of its own, else to the target behind the
scheme of the link, and nowhere if the link has no scheme to lend.
-/

namespace Link

/-- Pairs of slashes are taken off a text until it begins with none. -/
theorem exists_dropSlashPairs (text : List Char) :
    (∃ pairs, text = (List.replicate pairs "//".toList).flatten ++ dropSlashPairs text) ∧
      ¬"//".toList <+: dropSlashPairs text := by
  fun_induction dropSlashPairs text with
  | case1 rest inductionHypothesis =>
      obtain ⟨⟨pairs, isRest⟩, noPair⟩ := inductionHypothesis
      refine ⟨⟨pairs + 1, ?_⟩, noPair⟩
      rw [List.replicate_succ, List.flatten_cons, List.append_assoc, ← isRest]
      rfl
  | case2 text noPair =>
      refine ⟨⟨0, rfl⟩, ?_⟩
      rintro ⟨rest, isText⟩
      exact noPair rest isText.symm

end Link

namespace Provider

/-- The redirection does not match the link, or its group takes no part in the match. -/
def PassesOver (redirection : Pattern) (link : List Char) : Prop :=
  ∀ found, redirection.find link = some found → found.group? link 1 = none

/--
The redirection is the first one that matches the link with its group taking part,
and the target is what the group takes part with.
-/
def Decides
    (redirections : List Pattern)
    (link : List Char)
    (redirection : Pattern)
    (target : List Char) :
    Prop :=
  ∃ passed later,
    redirections = passed ++ redirection :: later ∧
      (∀ earlier ∈ passed, PassesOver earlier link) ∧
      ∃ found,
        redirection.find link = some found ∧ found.group? link 1 = some target

/--
Where a decoded target leads from a link. One pattern tells which targets have a scheme
of their own, and the group of the other which scheme the link has.
-/
inductive Leads
    (absolute scheme : Pattern)
    (link : List Char) :
    (target address : List Char) → Prop where
  | itself {target : List Char} :
      absolute.isMatch target = true →
      Leads absolute scheme link target target
  | borrowing {target name rest : List Char} {pairs : Nat} :
      absolute.isMatch target = false →
      capture? scheme link = some name →
      target = (List.replicate pairs "//".toList).flatten ++ rest →
      ¬"//".toList <+: rest →
      Leads absolute scheme link target (name ++ "://".toList ++ rest)
  | nowhere {target : List Char} :
      absolute.isMatch target = false →
      capture? scheme link = none →
      Leads absolute scheme link target link

variable {redirections : List Pattern} {redirection : Pattern} {link target : List Char}

/-- A redirection is passed over just if it captures nothing. -/
theorem capture?_eq_none_iff :
    capture? redirection link = none ↔ PassesOver redirection link :=
  Option.bind_eq_none_iff

/-- The target of the redirections is that of the one that decides. -/
theorem findSome?_capture?_eq_some_iff :
    redirections.findSome? (capture? · link) = some target ↔
      ∃ redirection, Decides redirections link redirection target := by
  simp only [List.findSome?_eq_some_iff, capture?_eq_none_iff]
  constructor
  · rintro ⟨passed, redirection, later, isList, isCaptured, arePassed⟩
    exact
      ⟨redirection, passed, later, isList, arePassed,
        Option.bind_eq_some_iff.mp isCaptured⟩
  · rintro ⟨redirection, passed, later, isList, arePassed, isCaptured⟩
    exact
      ⟨passed, redirection, later, isList, Option.bind_eq_some_iff.mpr isCaptured,
        arePassed⟩

/-- Without a redirection that captures something the link stays as it is. -/
theorem redirect_of_passesOver
    {provider : Provider}
    (arePassed : ∀ redirection ∈ provider.redirections, PassesOver redirection link) :
    provider.redirect link = link := by
  have noTarget : provider.target? link = none := by
    refine List.findSome?_eq_none_iff.mpr fun redirection member => ?_
    exact capture?_eq_none_iff.mpr (arePassed redirection member)
  rw [redirect, noTarget]

/-- A redirection is followed to what its target makes of the link. -/
theorem redirect_of_decides
    {provider : Provider}
    (decides : Decides provider.redirections link redirection target) :
    provider.redirect link =
      (Link.absolute? (Text.Percent.decodeFully target) link).getD link := by
  have isTarget : provider.target? link = some target :=
    findSome?_capture?_eq_some_iff.mpr ⟨redirection, decides⟩
  rw [redirect, isTarget]

/-- A target leads where the rule for targets says. -/
theorem leads_absolute? (target link : List Char) :
    Leads (.ofExpr Pattern.absoluteStart) (.ofExpr Pattern.schemeStart) link target
      ((Link.absolute? target link).getD link) := by
  have isAbsolute := Pattern.isMatch_absoluteStart target
  have isScheme := capture?_schemeStart link
  rw [Link.absolute?]
  cases ownScheme : Link.isAbsolute target with
  | true =>
      exact .itself (isAbsolute.trans ownScheme)
  | false =>
      rw [ownScheme] at isAbsolute
      cases lent : Link.scheme? link with
      | none =>
          rw [lent] at isScheme
          exact .nowhere isAbsolute isScheme
      | some parts =>
          rw [lent] at isScheme
          obtain ⟨⟨pairs, isTarget⟩, noPair⟩ := Link.exists_dropSlashPairs target
          exact .borrowing isAbsolute isScheme isTarget noPair

/-- What a target leads to is the link or has a scheme of its own. -/
theorem Leads.eq_or_isMatch
    {address : List Char}
    (leads :
      Leads (.ofExpr Pattern.absoluteStart) (.ofExpr Pattern.schemeStart) link target
        address) :
    address = link ∨ (Pattern.ofExpr Pattern.absoluteStart).isMatch address = true := by
  cases leads with
  | itself isAbsolute =>
      exact .inr isAbsolute
  | borrowing _ isScheme =>
      rw [capture?_schemeStart] at isScheme
      obtain ⟨⟨name, rest⟩, isOpened, rfl⟩ := Option.map_eq_some_iff.mp isScheme
      rw [Pattern.isMatch_absoluteStart, Link.isAbsolute_iff]
      exact .inr ⟨name, (Link.scheme?_eq_some_iff.mp isOpened).2, List.prefix_append _ _⟩
  | nowhere =>
      exact .inl rfl

/--
Following the redirections of a link gives the link or an address with a scheme of its
own. Either all redirections are passed over and the link stays as it is, or the first
other one decides: neither redirections after it nor others that are passed over make
any difference, and what its decoded target leads to is the result.
-/
theorem redirect_by_first (provider : Provider) (link : List Char) :
    ∃ absolute scheme : Pattern,
      Pattern.ofText "^[A-Za-z][A-Za-z0-9+.\\-]*://".toList = .ok absolute ∧
        Pattern.ofText "^([A-Za-z][A-Za-z0-9+.\\-]*):".toList = .ok scheme ∧
        (provider.redirect link = link ∨
          absolute.isMatch (provider.redirect link) = true) ∧
        ((∀ redirection ∈ provider.redirections, PassesOver redirection link) ∧
            provider.redirect link = link ∨
          ∃ redirection target,
            Decides provider.redirections link redirection target ∧
              (∀ passed later,
                (∀ earlier ∈ passed, PassesOver earlier link) →
                redirect
                    { provider with redirections := passed ++ redirection :: later }
                    link =
                  provider.redirect link) ∧
              Leads absolute scheme link (Text.Percent.decodeFully target)
                (provider.redirect link)) := by
  refine ⟨_, _, Pattern.ofText_absoluteStart, Pattern.ofText_schemeStart, ?_⟩
  cases isTarget : provider.target? link with
  | none =>
      have arePassed : ∀ redirection ∈ provider.redirections, PassesOver redirection link :=
        fun redirection member =>
          capture?_eq_none_iff.mp (List.findSome?_eq_none_iff.mp isTarget redirection member)
      have stays := redirect_of_passesOver arePassed
      exact ⟨.inl stays, .inl ⟨arePassed, stays⟩⟩
  | some target =>
      obtain ⟨redirection, decides⟩ := findSome?_capture?_eq_some_iff.mp isTarget
      have leads :
          Leads (.ofExpr Pattern.absoluteStart) (.ofExpr Pattern.schemeStart) link
            (Text.Percent.decodeFully target) (provider.redirect link) := by
        rw [redirect_of_decides decides]
        exact leads_absolute? _ link
      refine ⟨leads.eq_or_isMatch, .inr ⟨redirection, target, decides, ?_, leads⟩⟩
      intro passed later arePassed
      rw [redirect_of_decides decides]
      obtain ⟨-, -, -, -, isCaptured⟩ := decides
      exact redirect_of_decides ⟨passed, later, rfl, arePassed, isCaptured⟩

end Provider

end Untrack
