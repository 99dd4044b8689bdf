import Untrack.Proofs.Link.Usable
import Untrack.Provider.Basic

namespace Untrack.Provider

/-!
# Where cleaning leads

Stripping a link leaves a link, so what cleaning makes of a link is one too, unless
a redirection leads away from it. A redirection leads to what its group took part
with, decoded: as it stands if it has a scheme of its own, whichever that is, and
else after the scheme of the link, which is one of the web. Nothing checks that this
is a link again.
-/

/-- The address that the redirection of a link leads to. -/
def destination? (provider : Provider) (link : List Char) : Option (List Char) :=
  (provider.target? link).bind fun target =>
    Link.absolute? (Text.Percent.decodeFully target) link

/-- A link is redirected to its destination, if it has one. -/
theorem redirect_eq (provider : Provider) (link : List Char) :
    provider.redirect link = (provider.destination? link).getD link := by
  unfold redirect destination?
  cases provider.target? link <;> rfl

/--
For a target without a scheme of its own, an address begins with the scheme of a
link, which is one of the web, and goes on with the target; it is a link just if a
host can be read at the start of the target.
-/
def Borrows (link target address : List Char) : Prop :=
  Link.isAbsolute target = false ∧
    ∃ scheme rest port,
      Link.scheme? link = some (scheme, rest) ∧
        Url.webPort? (scheme.map Char.toLower) = some port ∧
        address = scheme ++ "://".toList ++ Link.dropSlashPairs target ∧
        (Link.isLink address = true ↔
          (Url.readAuthority? port
            (Url.authorityText
              (Url.ended ("//".toList ++ Link.dropSlashPairs target)))).isSome)

/-- A target has a scheme of its own, or it gets the one of the link. -/
theorem absolute?_eq_some
    {target link address : List Char}
    (usable : Link.isLink link = true)
    (leads : Link.absolute? target link = some address) :
    Link.isAbsolute target = true ∧ address = target ∨ Borrows link target address := by
  unfold Link.absolute? at leads
  split at leads
  · rename_i isAbsolute
    exact .inl ⟨isAbsolute, (Option.some.inj leads).symm⟩
  · rename_i noScheme
    obtain ⟨⟨scheme, rest⟩, isScheme, rfl⟩ := Option.map_eq_some_iff.mp leads
    obtain ⟨port, isPort⟩ := Link.web_of_scheme? usable isScheme
    obtain ⟨-, inScheme, opensWell⟩ := Link.scheme?_eq_some_iff.mp isScheme
    refine .inr ⟨Bool.eq_false_iff.mpr noScheme, scheme, rest, port, isScheme, isPort, rfl, ?_⟩
    refine Link.isLink_iff_of_scheme? ?_ isPort
    exact Link.scheme?_eq_some_iff.mpr ⟨by simp, inScheme, opensWell⟩

/--
A link is one still after stripping, and what cleaning makes of it is a link just if
the redirection of the stripped link, where there is one, leads to a link. It leads
to the decoded target, which has a scheme of its own or gets that of the link.
-/
theorem clean_usable
    (provider : Provider)
    {link : List Char}
    (usable : Link.isLink link = true) :
    let stripped := provider.strip link
    Link.isLink stripped = true ∧
      (Link.isLink (provider.clean link) = true ↔
        ∀ address,
          provider.destination? stripped = some address →
          Link.isLink address = true) ∧
      ∀ address,
        provider.destination? stripped = some address →
        provider.clean link = address ∧
          ∃ target,
            (provider.target? stripped).map Text.Percent.decodeFully = some target ∧
              (Link.isAbsolute target = true ∧ address = target ∨
                Borrows stripped target address) := by
  intro stripped
  have strippedUsable : Link.isLink stripped = true :=
    Link.isLink_strip usable provider.isTracking
  have isCleaned : provider.clean link = (provider.destination? stripped).getD stripped :=
    redirect_eq provider stripped
  refine ⟨strippedUsable, ?_, fun address leads => ?_⟩
  · rw [isCleaned]
    cases provider.destination? stripped with
    | none =>
        simpa using strippedUsable
    | some address =>
        simp
  · obtain ⟨target, isTarget, isAbsolute⟩ := Option.bind_eq_some_iff.mp leads
    refine ⟨?_, Text.Percent.decodeFully target, ?_,
      absolute?_eq_some strippedUsable isAbsolute⟩
    · rw [isCleaned, leads]
      rfl
    · rw [isTarget]
      rfl

/-- A provider that leads to what follows a question mark and the name `u`. -/
def leading : Except Refusal Provider :=
  compile "leading" "https?://a\\.test/" ["x"] ["https?://a\\.test/\\?u=(.*)"] []

/-- A target without a scheme makes a link again with the scheme that it borrows. -/
theorem clean_usable_of_borrowed :
    let link := "https://a.test/?u=%2F%2Fb.test&x=1".toList
    Link.isLink link = true ∧
      ∃ provider,
        leading = .ok provider ∧
          provider.clean link = "https://b.test".toList ∧
          Link.isLink (provider.clean link) = true := by
  intro link
  have usable : Link.isLink link = true := by
    decide +kernel
  have facts :
      leading.toOption.map (fun provider => provider.destination? (provider.strip link)) =
        some (some "https://b.test".toList) := by
    decide +kernel
  refine ⟨usable, ?_⟩
  generalize leading = made at facts ⊢
  cases made with
  | error refusal =>
      cases facts
  | ok provider =>
      have leads :
          provider.destination? (provider.strip link) = some "https://b.test".toList :=
        Option.some.inj facts
      obtain ⟨-, isLinkIff, leadsTo⟩ := clean_usable provider usable
      refine ⟨provider, rfl, (leadsTo _ leads).1, isLinkIff.mpr fun address isAddress => ?_⟩
      rw [leads] at isAddress
      cases isAddress
      decide +kernel

/-- A link that leads to another scheme is none any more once it has been cleaned. -/
theorem clean_leaves_web :
    let link := "https://a.test/?u=ftp://b.test/x".toList
    Link.isLink link = true ∧
      ∃ provider,
        leading = .ok provider ∧
          provider.clean link = "ftp://b.test/x".toList ∧
          Link.isLink (provider.clean link) = false := by
  intro link
  have facts :
      leading.toOption.map (·.clean link) = some "ftp://b.test/x".toList := by
    decide +kernel
  refine ⟨by decide +kernel, ?_⟩
  generalize leading = made at facts ⊢
  cases made with
  | error refusal =>
      cases facts
  | ok provider =>
      have isCleaned : provider.clean link = "ftp://b.test/x".toList :=
        Option.some.inj facts
      refine ⟨provider, rfl, isCleaned, ?_⟩
      rw [isCleaned]
      decide +kernel

end Untrack.Provider
