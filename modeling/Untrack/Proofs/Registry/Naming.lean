import Untrack.Proofs.Registry.Turn

namespace Untrack.Cleaner

open Untrack.Rules (Fetcher Registry)

/-!
# What a checksum on record says

A source records the checksum of a text before anyone knows whether the text
compiles, and the registry puts its providers in force only afterwards. Between
two calls the two agree all the same: whoever asks for the checksum learns which
of the texts that were downloaded the providers in force are from. Two texts with
the same checksum do no harm to this, for the second one is not compiled, and the
first one stays the one that is named.
-/

/-- What a call downloads has no white space around it. -/
theorem Turn.trim_of_mem_texts
    {σ : Type}
    {fetcher : Fetcher σ}
    {turn : Turn}
    {registry : Registry}
    {state : σ}
    {text : String}
    (member : text ∈ turn.texts fetcher registry state) :
    Text.trim text = text := by
  unfold Turn.texts at member
  split at member
  · cases downloaded : (registry.fetched fetcher state).result with
    | error failure =>
        rw [downloaded] at member
        cases member
    | ok body =>
        rw [downloaded, Registry.textsOf, List.mem_singleton] at member
        subst member
        simp [Text.trim, Text.trimmed_trimmed]
  · cases member

/-- No text on the list of what calls downloaded has white space around it. -/
theorem LeadsTo.trim_of_mem
    {start registry : Registry}
    {texts : List String}
    (leads : LeadsTo start texts registry)
    {text : String}
    (member : text ∈ texts) :
    Text.trim text = text := by
  induction leads with
  | refl =>
      cases member
  | call fetcher turn state leads inductionHypothesis =>
      rcases List.mem_append.mp member with isEarlier | isNew
      · exact inductionHypothesis isEarlier
      · exact Turn.trim_of_mem_texts isNew

/--
Whatever calls have led to a registry, a checksum on record is that of a text that
one of them downloaded, and just the providers of this text are in force. A time
is on record only where some providers are.
-/
theorem checksum_names_manifest
    {config : Config}
    {interval : Nat}
    {seed : List Provider}
    {texts : List String}
    {registry : Registry}
    (leads : LeadsTo (initial config interval seed) texts registry) :
    (∀ checksum,
      registry.source.checksum = some checksum →
      ∃ text ∈ texts,
        text.isEmpty = false ∧ Text.trim text = text ∧
          Digest.Sha256.checksum text = checksum ∧
          (Manifest.compile text).result = .ok registry.providers) ∧
      (registry.refreshedAt ≠ none → registry.providers ≠ []) := by
  have sound := leads.sound (sound_initial config interval seed)
  rw [List.nil_append] at sound
  refine ⟨fun checksum recorded => ?_, sound.timed⟩
  obtain ⟨text, member, isText, isChecksum, compiled⟩ := sound.named recorded
  exact ⟨text, member, isText, leads.trim_of_mem member, isChecksum, compiled⟩

/--
A text loads, then one comes that does not compile, and then the first one again
with white space around it: what is in force is named once more.
-/
theorem checksum_names_manifest_of_restored_text :
    let seeded :=
      initial { Config.standard with retry := .never } 0
        [{ name := "any"
           address := Pattern.ofExpr .empty
           parameters := []
           redirections := []
           exceptions := [] }]
    let text := "\x7b\"providers\":\x7b\"a\":\x7b\"urlPattern\":\"a\"\x7d\x7d\x7d"
    let first := (Turn.mk .ensureFresh 6).answer scripted seeded [.ok text]
    let second := (Turn.mk .refresh 7).answer scripted first.registry [.ok "broken"]
    let third :=
      (Turn.mk .refresh 8).answer scripted second.registry [.ok (" " ++ text)]
    second.registry.source.checksum = none ∧
      third.registry.source.checksum = some (Digest.Sha256.checksum text) ∧
      (∃ named ∈ [text, "broken", text],
        Digest.Sha256.checksum named = Digest.Sha256.checksum text ∧
          (Manifest.compile named).result = .ok third.registry.providers) ∧
      third.registry.providers ≠ [] := by
  intro seeded text first second third
  have facts :
      second.registry.source.checksum = none ∧
        third.registry.source.checksum = some (Digest.Sha256.checksum text) ∧
        third.registry.refreshedAt = some 8 := by
    decide +kernel
  obtain ⟨forgotten, recorded, isTimed⟩ := facts
  have leads : LeadsTo seeded _ third.registry :=
    .call scripted ⟨.refresh, 8⟩ _
      (.call scripted ⟨.refresh, 7⟩ _ (.call scripted ⟨.ensureFresh, 6⟩ _ .refl))
  have areTexts :
      [] ++ Turn.texts scripted ⟨.ensureFresh, 6⟩ seeded [.ok text] ++
          Turn.texts scripted ⟨.refresh, 7⟩ first.registry [.ok "broken"] ++
          Turn.texts scripted ⟨.refresh, 8⟩ second.registry [.ok (" " ++ text)] =
        [text, "broken", text] := by
    decide +kernel
  obtain ⟨isNamed, hasProviders⟩ := checksum_names_manifest leads
  obtain ⟨named, member, -, -, isChecksum, compiled⟩ := isNamed _ recorded
  rw [areTexts] at member
  exact
    ⟨forgotten, recorded, ⟨named, member, isChecksum, compiled⟩,
      hasProviders (by rw [isTimed]; nofun)⟩

end Untrack.Cleaner
