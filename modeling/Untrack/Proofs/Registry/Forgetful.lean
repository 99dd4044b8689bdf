import Untrack.Proofs.Registry.Turn

namespace Untrack.Rules

/-!
# A registry without checksums

A registry compiles a text only if its checksum differs from the recorded one.
`Forgetful` is the registry that this saves from work: it records no checksum,
and compiles whatever text it downloads. Callers cannot tell the two apart, as
long as no two texts that were downloaded have the same checksum.
-/

/-- A registry that does not remember which text its providers are from. -/
structure Forgetful where
  addresses : List String
  patience : Patience
  providers : List Provider
  refreshedAt : Option Nat
  interval : Nat

/-- The registry without its checksum. -/
def Registry.withoutChecksum (registry : Registry) : Forgetful where
  addresses := registry.source.addresses
  patience := registry.source.patience
  providers := registry.providers
  refreshedAt := registry.refreshedAt
  interval := registry.interval

namespace Forgetful

/-- What a call gave, and the registry and the fetcher's state after it. -/
structure Answer (σ α : Type) where
  result : α
  registry : Forgetful
  state : σ

/-- The providers were never refreshed, or not for as long as the interval. -/
def isStale (registry : Forgetful) (now : Nat) : Bool :=
  match registry.refreshedAt with
  | none => true
  | some last => registry.interval ≤ now - last

/-- Record the time of a refresh if there are providers after it. -/
def refreshed (registry : Forgetful) (now : Nat) : Forgetful :=
  match registry.providers with
  | [] => registry
  | _ :: _ => { registry with refreshedAt := some now }

/-- Keep the old providers, or give up if there are none. -/
def keep
    (registry : Forgetful)
    (now : Nat)
    (failure : Failure) :
    Except Failure Unit × Forgetful :=
  match registry.providers with
  | [] => (.error failure, registry)
  | _ :: _ => (.ok (), registry.refreshed now)

/-- What a refresh makes of a download: any text is compiled. -/
def settle
    (registry : Forgetful)
    (now : Nat) :
    Except Failure String → Except Failure Unit × Forgetful
  | .error failure => registry.keep now failure
  | .ok body =>
      if (Text.trim body).isEmpty then
        (.ok (), registry.refreshed now)
      else
        match (Manifest.compile (Text.trim body)).result with
        | .ok providers => (.ok (), { registry with providers }.refreshed now)
        | .error failure => registry.keep now failure

/-- Download a text and put its providers in force. -/
def refresh
    {σ : Type}
    (fetcher : Fetcher σ)
    (registry : Forgetful)
    (now : Nat)
    (state : σ) :
    Answer σ (Except Failure Unit) :=
  let downloaded :=
    download fetcher registry.patience registry.addresses state
  let (result, registry) := registry.settle now downloaded.result
  { result, registry, state := downloaded.state }

end Forgetful

/-- No two of the texts have the same checksum. -/
def Distinguished (texts : List String) : Prop :=
  ∀ first ∈ texts, ∀ second ∈ texts,
    Digest.Sha256.checksum first = Digest.Sha256.checksum second →
    first = second

instance (texts : List String) : Decidable (Distinguished texts) :=
  inferInstanceAs
    (Decidable
      (∀ first ∈ texts, ∀ second ∈ texts,
        Digest.Sha256.checksum first = Digest.Sha256.checksum second →
        first = second))

/-- Fewer texts are told apart as well. -/
theorem Distinguished.of_append
    {first second : List String}
    (distinguished : Distinguished (first ++ second)) :
    Distinguished first := by
  intro text inFirst other otherInFirst same
  exact
    distinguished text (List.mem_append_left second inFirst) other
      (List.mem_append_left second otherInFirst) same

namespace Registry

/-- Both registries call the same times stale. -/
theorem isStale_withoutChecksum (registry : Registry) :
    registry.withoutChecksum.isStale = registry.isStale := by
  rfl

/-- Both registries record the time of a refresh alike. -/
theorem withoutChecksum_refreshed (registry : Registry) (now : Nat) :
    (registry.refreshed now).withoutChecksum =
      registry.withoutChecksum.refreshed now := by
  rcases registry with ⟨source, providers, refreshedAt, interval⟩
  cases providers <;> rfl

/-- Both registries keep their old providers alike. -/
theorem keep_withoutChecksum
    (registry : Registry)
    (now : Nat)
    (failure : Failure) :
    registry.withoutChecksum.keep now failure =
      (registry.verdict failure, (registry.refreshed now).withoutChecksum) := by
  rcases registry with ⟨source, providers, refreshedAt, interval⟩
  cases providers <;> rfl

/-- A checksum that is known is that of the text whose providers are in force. -/
theorem Sound.compile_of_known
    {texts : List String}
    {registry : Registry}
    {text : String}
    (sound : Sound texts registry)
    (distinguished : Distinguished (texts ++ [text]))
    (known : registry.source.checksum = some (Digest.Sha256.checksum text)) :
    (Manifest.compile text).result = .ok registry.providers := by
  obtain ⟨original, member, -, sameChecksum, compiled⟩ := sound.named known
  have sameText : original = text :=
    distinguished original (List.mem_append_left [text] member) text
      (by simp) sameChecksum
  rw [← sameText]
  exact compiled

/-- Any outcome of a refresh is what comes of it without the checksum. -/
theorem Outcome.settle_withoutChecksum
    {registry after : Registry}
    {now : Nat}
    {downloaded : Except Failure String}
    {result : Except Failure Unit}
    {texts : List String}
    (outcome : Outcome registry now downloaded result after)
    (sound : Sound texts registry)
    (distinguished : Distinguished (texts ++ textsOf downloaded)) :
    registry.withoutChecksum.settle now downloaded =
      (result, after.withoutChecksum) := by
  cases outcome with
  | failed failure =>
      exact registry.keep_withoutChecksum now failure
  | empty isEmpty =>
      simp only [Forgetful.settle, isEmpty, ↓reduceIte, withoutChecksum_refreshed]
  | unchanged isText known =>
      have compiled := sound.compile_of_known distinguished known
      simp only [Forgetful.settle, isText, compiled, Bool.false_eq_true,
        ↓reduceIte, withoutChecksum_refreshed]
      rfl
  | broken isText refused =>
      simp only [Forgetful.settle, isText, refused, Bool.false_eq_true,
        ↓reduceIte]
      exact registry.forgetting.keep_withoutChecksum now _
  | loaded isText compiled =>
      simp only [Forgetful.settle, isText, compiled, Bool.false_eq_true,
        ↓reduceIte, withoutChecksum_refreshed]
      rfl

/-- A refresh gives and leaves behind what it does without the checksum. -/
theorem refresh_withoutChecksum
    {σ : Type}
    (fetcher : Fetcher σ)
    (registry : Registry)
    (now : Nat)
    (state : σ)
    {texts : List String}
    (sound : Sound texts registry)
    (distinguished :
      Distinguished
        (texts ++ textsOf (registry.fetched fetcher state).result)) :
    let answer := registry.refresh fetcher now state
    registry.withoutChecksum.refresh fetcher now state =
      { result := answer.result
        registry := answer.registry.withoutChecksum
        state := answer.state } := by
  have outcome := refresh_outcome fetcher registry now state
  have settled := outcome.settle_withoutChecksum sound distinguished
  have sameState := registry.state_refresh fetcher now state
  rw [fetched] at settled sameState
  simp only [Forgetful.refresh, withoutChecksum] at settled ⊢
  rw [settled, sameState]

end Registry

end Untrack.Rules

namespace Untrack.Cleaner

open Untrack.Rules (Answer Distinguished Fetcher Forgetful Registry)

/-! ## Calls without checksums -/

/-- A call to a registry without checksums starts a fetch. -/
def Turn.fetchesForgetful (turn : Turn) (registry : Forgetful) : Bool :=
  match turn.call with
  | .refresh => true
  | _ => registry.isStale turn.now

/-- The answer to a call to a registry without checksums. -/
def Turn.answerForgetful
    {σ : Type}
    (fetcher : Fetcher σ)
    (turn : Turn)
    (registry : Forgetful)
    (state : σ) :
    Forgetful.Answer σ (Except Failure Reply) :=
  let attempt : Forgetful.Answer σ (Except Failure Unit) :=
    if turn.fetchesForgetful registry then
      registry.refresh fetcher turn.now state
    else
      { result := .ok (), registry, state }
  { attempt with
    result := turn.call.conclude attempt.result attempt.registry.providers }

/-- The answers of a registry without checksums to some calls, one after another. -/
def runForgetful
    {σ : Type}
    (fetcher : Fetcher σ) :
    (registry : Forgetful) → List Turn → σ →
      List (Forgetful.Answer σ (Except Failure Reply))
  | _, [], _ => []
  | registry, turn :: rest, state =>
      let answer := turn.answerForgetful fetcher registry state
      answer :: runForgetful fetcher answer.registry rest answer.state

/-- What a caller can tell after a call. -/
structure View where
  result : Except Failure Reply
  providers : List Provider
  isStale : Nat → Bool

/-- What a caller can tell from an answer. -/
def View.ofAnswer
    {σ : Type}
    (answer : Answer σ (Except Failure Reply)) :
    View where
  result := answer.result
  providers := answer.registry.providers
  isStale := answer.registry.isStale

/-- What a caller can tell from an answer of a registry without checksums. -/
def View.ofForgetful
    {σ : Type}
    (answer : Forgetful.Answer σ (Except Failure Reply)) :
    View where
  result := answer.result
  providers := answer.registry.providers
  isStale := answer.registry.isStale

/-- The texts that some calls download, one after another. -/
def textsIn
    {σ : Type}
    (fetcher : Fetcher σ) :
    (registry : Registry) → List Turn → σ → List String
  | _, [], _ => []
  | registry, turn :: rest, state =>
      let answer := turn.answer fetcher registry state
      turn.texts fetcher registry state ++
        textsIn fetcher answer.registry rest answer.state

/-- A call to a sound registry is answered as it is without the checksum. -/
theorem Turn.answer_withoutChecksum
    {σ : Type}
    (fetcher : Fetcher σ)
    (turn : Turn)
    (registry : Registry)
    (state : σ)
    {texts : List String}
    (sound : registry.Sound texts)
    (distinguished :
      Distinguished (texts ++ turn.texts fetcher registry state)) :
    let answer := turn.answer fetcher registry state
    turn.answerForgetful fetcher registry.withoutChecksum state =
      { result := answer.result
        registry := answer.registry.withoutChecksum
        state := answer.state } := by
  have concludes := turn.answer_concludes fetcher registry state
  have sameFetches :
      turn.fetchesForgetful registry.withoutChecksum =
        turn.fetches registry := rfl
  simp only [concludes.result, concludes.registry, concludes.state,
    answerForgetful, attempt, sameFetches]
  split
  · rename_i begins
    rw [Turn.texts, if_pos begins] at distinguished
    rw [registry.refresh_withoutChecksum fetcher turn.now state sound distinguished]
    rfl
  · rfl

/-- From a sound registry on, calls look the same as without checksums. -/
private theorem views_run
    {σ : Type}
    (fetcher : Fetcher σ)
    (turns : List Turn)
    (registry : Registry)
    (state : σ)
    {texts : List String}
    (sound : registry.Sound texts)
    (distinguished :
      Distinguished (texts ++ textsIn fetcher registry turns state)) :
    (run fetcher registry turns state).map View.ofAnswer =
      (runForgetful fetcher registry.withoutChecksum turns state).map
        View.ofForgetful := by
  induction turns generalizing registry state texts with
  | nil =>
      rfl
  | cons turn rest inductionHypothesis =>
      -- Texts of earlier calls stay on the list: a checksum may be of any of them.
      simp only [textsIn, ← List.append_assoc] at distinguished
      have sameAnswer :=
        turn.answer_withoutChecksum fetcher registry state sound
          distinguished.of_append
      have later :=
        inductionHypothesis _ _ (turn.sound_answer fetcher registry state sound)
          distinguished
      simp only [run, runForgetful, sameAnswer, List.map_cons, later,
        View.ofAnswer, View.ofForgetful, Registry.isStale_withoutChecksum]
      rfl

/--
Whatever is called, at whatever times, and whatever is downloaded, a registry
gives the same answers, has the same providers in force and is stale at the same
times as one that records no checksum, unless two of the texts have the same one.
-/
theorem checksum_transparent
    (config : Config)
    (interval : Nat)
    (seed : List Provider)
    {σ : Type}
    (fetcher : Fetcher σ)
    (turns : List Turn)
    (state : σ)
    (distinguished :
      Distinguished
        (textsIn fetcher (initial config interval seed) turns state)) :
    (run fetcher (initial config interval seed) turns state).map View.ofAnswer =
      (runForgetful fetcher (initial config interval seed).withoutChecksum turns
        state).map View.ofForgetful :=
  views_run fetcher turns _ state (sound_initial config interval seed)
    distinguished

/-- A broken text, one that loads, and the same one again. -/
theorem checksum_transparent_of_repaired_text :
    let fresh := initial { Config.standard with retry := .never } 0 []
    let text := "\x7b\"providers\":\x7b\"a\":\x7b\"urlPattern\":\"a\"\x7d\x7d\x7d"
    let turns : List Turn :=
      [⟨.ensureFresh, 0⟩, ⟨.refresh, 1⟩, ⟨.refresh, 2⟩, ⟨.refresh, 3⟩,
        ⟨.strip "http://a.test/", 4⟩]
    let replies := [.ok "broken", .ok " broken", .ok text, .ok text]
    (run scripted fresh turns replies).map View.ofAnswer =
      (runForgetful scripted fresh.withoutChecksum turns replies).map
        View.ofForgetful := by
  intro fresh text turns replies
  have distinguished :
      Distinguished (textsIn scripted fresh turns replies) := by
    decide +kernel
  exact checksum_transparent _ 0 [] scripted turns replies distinguished

end Untrack.Cleaner
