import Untrack.Rules.Source

namespace Untrack.Rules

/-!
# What a source takes for a change

A source is used in two ways: its rules are fetched, and its last text is forgotten.
`useAll` follows a new source through any such uses, and keeps a log of what was
downloaded and when the source was reset.

The checksum on record is that of the last body in this log that was more than white
space, as long as no reset came after it. `Remembers` says so. One use keeps it, and
so does any number of them.
-/

/-- What can be done with a source. -/
inductive Use where
  | fetch
  | reset
  deriving Repr, DecidableEq

/-- What came of a use of a source. -/
inductive Entry where
  | downloaded (result : Except Failure String)
  | reset

/-- A source after some uses, the state of its fetcher, and what came of the uses. -/
structure Used (σ : Type) where
  source : Source
  state : σ
  log : List Entry

/-- The body of a download is nothing but white space. -/
def IsBlankBody (body : String) : Prop :=
  Text.trim body = ""

/-- The download failed or brought only white space, so there is nothing to remember. -/
def Entry.IsIdle : Entry → Prop
  | .downloaded (.error _) => True
  | .downloaded (.ok body) => IsBlankBody body
  | .reset => False

/-- The body is the last one that was more than white space, and no reset came after it. -/
def IsLast (log : List Entry) (body : String) : Prop :=
  ¬IsBlankBody body ∧
    ∃ earlier later,
      log = earlier ++ .downloaded (.ok body) :: later ∧
        ∀ entry ∈ later, entry.IsIdle

/-- Two bodies are the same but for the white space around them. -/
def SameButBlanks (first second : String) : Prop :=
  ∃ core front back front' back' : List Char,
    (∀ blanks ∈ [front, back, front', back'],
        ∀ character ∈ blanks, Text.isBlank character = true) ∧
      first.toList = front ++ core ++ back ∧
        second.toList = front' ++ core ++ back'

/-- The checksum of a body without the white space around it. -/
def checksumOf (body : String) : String :=
  Digest.Sha256.checksum (Text.trim body)

variable {σ : Type}

/-- The download that a source makes when its rules are fetched. -/
def Source.asked (fetcher : Fetcher σ) (source : Source) (state : σ) : Download σ :=
  download fetcher source.patience source.addresses state

namespace Used

/-- Use a source once. -/
def next (fetcher : Fetcher σ) (used : Used σ) : Use → Used σ
  | .fetch =>
      let fetched := used.source.fetch fetcher used.state
      { source := fetched.source
        state := fetched.state
        log :=
          used.log ++
            [.downloaded (used.source.asked fetcher used.state).result] }
  | .reset =>
      { used with
        source := used.source.reset
        log := used.log ++ [.reset] }

/-- The checksum on record is that of the last body, if there is one. -/
def Remembers (used : Used σ) : Prop :=
  ∀ checksum,
    used.source.checksum = some checksum ↔
      ∃ body, IsLast used.log body ∧ checksumOf body = checksum

end Used

/-- Use a new source several times. -/
def useAll
    (fetcher : Fetcher σ)
    (config : Config)
    (uses : List Use)
    (state : σ) :
    Used σ :=
  uses.foldl (Used.next fetcher)
    { source := Source.ofConfig config, state, log := [] }

/-! ## Bodies and logs -/

/-- Bodies that are the same but for white space around them have the same text. -/
theorem SameButBlanks.trim_eq
    {first second : String}
    (same : SameButBlanks first second) :
    Text.trim first = Text.trim second := by
  obtain ⟨core, front, back, front', back', areBlank, isFirst, isSecond⟩ := same
  simp only [List.forall_mem_cons] at areBlank
  obtain ⟨frontBlank, backBlank, frontBlank', backBlank', -⟩ := areBlank
  rw [Text.trim, Text.trim, isFirst, isSecond,
    Text.trimmed_append_append frontBlank backBlank,
    Text.trimmed_append_append frontBlank' backBlank']

/-- In a new log there is no last body. -/
theorem not_isLast_nil (body : String) : ¬IsLast [] body := by
  rintro ⟨-, earlier, later, noLog, -⟩
  simp at noLog

/-- The last body is that of the last entry, or of an earlier one if that is idle. -/
theorem isLast_append_singleton_iff
    {log : List Entry}
    {entry : Entry}
    {body : String} :
    IsLast (log ++ [entry]) body ↔
      (entry = .downloaded (.ok body) ∧ ¬IsBlankBody body) ∨
        (entry.IsIdle ∧ IsLast log body) := by
  constructor
  · rintro ⟨isText, earlier, later, isLog, areIdle⟩
    rcases List.eq_nil_or_concat later with rfl | ⟨between, last, rfl⟩
    · obtain ⟨-, sameEntry⟩ := List.append_inj' isLog rfl
      exact .inl ⟨List.singleton_inj.mp sameEntry, isText⟩
    · rw [List.concat_eq_append, ← List.cons_append, ← List.append_assoc] at isLog
      obtain ⟨sameLog, sameEntry⟩ := List.append_inj' isLog rfl
      rw [List.concat_eq_append] at areIdle
      refine .inr ⟨?_, isText, earlier, between, sameLog, fun other member => ?_⟩
      · rw [List.singleton_inj.mp sameEntry]
        exact areIdle last (by simp)
      · exact areIdle other (List.mem_append_left _ member)
  · rintro (⟨rfl, isText⟩ | ⟨isIdle, isText, earlier, later, rfl, areIdle⟩)
    · exact ⟨isText, log, [], rfl, nofun⟩
    · refine ⟨isText, earlier, later ++ [entry], by simp, fun other member => ?_⟩
      rcases List.mem_append.mp member with isLater | isEntry
      · exact areIdle other isLater
      · rw [List.mem_singleton.mp isEntry]
        exact isIdle

/-! ## One fetch -/

/-- What a source makes of a body, and what it is afterwards. -/
inductive Receives (source : Source) (body : String) : Found → Source → Prop where
  | empty
      (isBlank : IsBlankBody body) :
      Receives source body .empty source
  | unchanged
      (isText : ¬IsBlankBody body)
      (known : source.checksum = some (checksumOf body)) :
      Receives source body .unchanged source
  | updated
      (isText : ¬IsBlankBody body)
      (isNew : source.checksum ≠ some (checksumOf body)) :
      Receives source body (.updated (Text.trim body))
        { source with checksum := some (checksumOf body) }

namespace Source

/-- Receiving a body has one of the three outcomes. -/
theorem receive_receives (source : Source) (body : String) :
    Receives source body (source.receive body).1 (source.receive body).2 := by
  rw [receive]
  split
  case isTrue isBlank =>
    exact .empty (String.isEmpty_iff.mp isBlank)
  case isFalse isText =>
    have isText : ¬IsBlankBody body := fun isBlank =>
      isText (String.isEmpty_iff.mpr isBlank)
    split
    case isTrue known =>
      exact .unchanged isText known
    case isFalse isNew =>
      exact .updated isText isNew

/-- A failed download is passed on and leaves the source as it was. -/
theorem fetch_of_error
    {fetcher : Fetcher σ}
    {source : Source}
    {state : σ}
    {failure : Failure}
    (failed : (source.asked fetcher state).result = .error failure) :
    (source.fetch fetcher state).result = .error failure ∧
      (source.fetch fetcher state).source = source := by
  rw [asked] at failed
  simp only [fetch, failed, and_self]

/-- A download that succeeds is received. -/
theorem fetch_of_ok
    {fetcher : Fetcher σ}
    {source : Source}
    {state : σ}
    {body : String}
    (answered : (source.asked fetcher state).result = .ok body) :
    ∃ found,
      (source.fetch fetcher state).result = .ok found ∧
        Receives source body found (source.fetch fetcher state).source := by
  rw [asked] at answered
  simp only [fetch, answered]
  exact ⟨_, rfl, source.receive_receives body⟩

end Source

namespace Receives

variable {source after : Source} {body : String} {found : Found}

/-- White space alone leaves the source as it was. -/
theorem eq_of_blank
    (receives : Receives source body found after)
    (isBlank : IsBlankBody body) :
    after = source := by
  cases receives with
  | empty =>
      rfl
  | unchanged =>
      rfl
  | updated isText =>
      exact (isText isBlank).elim

/-- Any other body leaves its checksum on record. -/
theorem checksum_of_text
    (receives : Receives source body found after)
    (isText : ¬IsBlankBody body) :
    after.checksum = some (checksumOf body) := by
  cases receives with
  | empty isBlank =>
      exact (isText isBlank).elim
  | unchanged _ known =>
      exact known
  | updated =>
      rfl

/-- Nothing but the checksum of a source changes. -/
theorem reset_eq (receives : Receives source body found after) :
    after.reset = source.reset := by
  cases receives with
  | _ =>
      rfl

/-- A text is new if it is more than white space and has another checksum. -/
theorem updated_iff
    (receives : Receives source body found after)
    (text : String) :
    found = .updated text ↔
      text = Text.trim body ∧
        ¬IsBlankBody body ∧ source.checksum ≠ some (checksumOf body) := by
  cases receives with
  | empty isBlank =>
      exact ⟨nofun, fun ⟨_, isText, _⟩ => (isText isBlank).elim⟩
  | unchanged _ known =>
      exact ⟨nofun, fun ⟨_, _, isNew⟩ => (isNew known).elim⟩
  | updated isText isNew =>
      constructor
      · rintro ⟨⟩
        exact ⟨rfl, isText, isNew⟩
      · rintro ⟨rfl, -⟩
        rfl

/-- A text has not changed if it is more than white space and has the same checksum. -/
theorem unchanged_iff (receives : Receives source body found after) :
    found = .unchanged ↔
      ¬IsBlankBody body ∧ source.checksum = some (checksumOf body) := by
  cases receives with
  | empty isBlank =>
      exact ⟨nofun, fun ⟨isText, _⟩ => (isText isBlank).elim⟩
  | unchanged isText known =>
      exact ⟨fun _ => ⟨isText, known⟩, fun _ => rfl⟩
  | updated _ isNew =>
      exact ⟨nofun, fun ⟨_, known⟩ => (isNew known).elim⟩

/-- There is no text if there is only white space. -/
theorem empty_iff (receives : Receives source body found after) :
    found = .empty ↔ IsBlankBody body := by
  cases receives with
  | empty isBlank =>
      exact ⟨fun _ => isBlank, fun _ => rfl⟩
  | unchanged isText =>
      exact ⟨nofun, fun isBlank => (isText isBlank).elim⟩
  | updated isText =>
      exact ⟨nofun, fun isBlank => (isText isBlank).elim⟩

end Receives

/-! ## Many uses -/

namespace Used

/-- The record stays right where neither the checksum nor the last body changes. -/
private theorem Remembers.idle
    {used after : Used σ}
    {entry : Entry}
    (remembers : used.Remembers)
    (sameSource : after.source = used.source)
    (isLog : after.log = used.log ++ [entry])
    (isIdle : entry.IsIdle) :
    after.Remembers := by
  intro checksum
  rw [sameSource, remembers checksum, isLog]
  refine exists_congr fun body => and_congr_left' ?_
  rw [isLast_append_singleton_iff]
  constructor
  · exact fun isLast => .inr ⟨isIdle, isLast⟩
  · rintro (⟨rfl, isText⟩ | ⟨-, isLast⟩)
    · exact (isText isIdle).elim
    · exact isLast

/-- One use of a source keeps its record right. -/
theorem Remembers.next
    {used : Used σ}
    (remembers : used.Remembers)
    (fetcher : Fetcher σ)
    (use : Use) :
    (used.next fetcher use).Remembers := by
  cases use with
  | reset =>
      intro checksum
      constructor
      · nofun
      · rintro ⟨body, isLast, -⟩
        rcases isLast_append_singleton_iff.mp isLast with ⟨noBody, -⟩ | ⟨isIdle, -⟩
        · cases noBody
        · exact isIdle.elim
  | fetch =>
      cases result : (used.source.asked fetcher used.state).result with
      | error failure =>
          have isLog :
              (used.next fetcher .fetch).log =
                used.log ++ [.downloaded (.error failure)] := by
            simp only [Used.next, result]
          exact remembers.idle (Source.fetch_of_error result).2 isLog trivial
      | ok body =>
          obtain ⟨found, -, receives⟩ := Source.fetch_of_ok result
          have isLog :
              (used.next fetcher .fetch).log = used.log ++ [.downloaded (.ok body)] := by
            simp only [Used.next, result]
          by_cases isBlank : IsBlankBody body
          · exact remembers.idle (receives.eq_of_blank isBlank) isLog isBlank
          · have recorded := receives.checksum_of_text isBlank
            have onlyThis (other : String) :
                IsLast (used.log ++ [.downloaded (.ok body)]) other ↔ other = body := by
              rw [isLast_append_singleton_iff]
              constructor
              · rintro (⟨same, -⟩ | ⟨isIdle, -⟩)
                · cases same
                  rfl
                · exact (isBlank isIdle).elim
              · rintro rfl
                exact .inl ⟨rfl, isBlank⟩
            intro checksum
            simp only [Used.next, recorded, result, onlyThis, exists_eq_left,
              Option.some.injEq]

/-- One use of a source changes nothing of it but its checksum. -/
theorem reset_source_next (fetcher : Fetcher σ) (used : Used σ) (use : Use) :
    (used.next fetcher use).source.reset = used.source.reset := by
  cases use with
  | reset =>
      rfl
  | fetch =>
      cases result : (used.source.asked fetcher used.state).result with
      | error failure =>
          exact congrArg Source.reset (Source.fetch_of_error result).2
      | ok body =>
          obtain ⟨found, -, receives⟩ := Source.fetch_of_ok result
          exact receives.reset_eq

end Used

/-- What holds of a new source and is kept by every use holds after any uses. -/
theorem useAll_of_next
    {fetcher : Fetcher σ}
    {config : Config}
    {state : σ}
    (holds : Used σ → Prop)
    (atStart : holds { source := Source.ofConfig config, state, log := [] })
    (isKept : ∀ used use, holds used → holds (used.next fetcher use))
    (uses : List Use) :
    holds (useAll fetcher config uses state) := by
  have fromAny (used : Used σ) (holdsBefore : holds used) :
      holds (uses.foldl (Used.next fetcher) used) := by
    induction uses generalizing used with
    | nil =>
        exact holdsBefore
    | cons use rest inductionHypothesis =>
        exact inductionHypothesis _ (isKept used use holdsBefore)
  exact fromAny _ atStart

/-- The record of a source is right after any uses. -/
theorem remembers_useAll
    (fetcher : Fetcher σ)
    (config : Config)
    (uses : List Use)
    (state : σ) :
    (useAll fetcher config uses state).Remembers := by
  have atStart :
      Used.Remembers { source := Source.ofConfig config, state, log := [] } := by
    refine fun checksum => ⟨nofun, ?_⟩
    rintro ⟨body, isLast, -⟩
    exact (not_isLast_nil body isLast).elim
  exact
    useAll_of_next Used.Remembers atStart
      (fun _ use remembers => remembers.next fetcher use) uses

/-- Uses change nothing of a source but its checksum. -/
theorem reset_source_useAll
    (fetcher : Fetcher σ)
    (config : Config)
    (uses : List Use)
    (state : σ) :
    (useAll fetcher config uses state).source.reset = Source.ofConfig config := by
  refine
    useAll_of_next (fun used => used.source.reset = Source.ofConfig config) rfl
      (fun used use isSame => ?_) uses
  exact (used.reset_source_next fetcher use).trans isSame

/--
However a new source was used, the checksum on record is that of the last body since
the last reset that was more than white space, and no other setting has changed. The
next fetch passes a failure on and leaves the source as it was. It reports a new text
just if there is a text and its checksum is another one, no change just if the
checksum is the same, and no text just if there is only white space, which leaves the
source as it was too. So a body that differs from the last one only in the white space
around it is no change.
-/
theorem changes_by_checksum
    (fetcher : Fetcher σ)
    (config : Config)
    (uses : List Use)
    (state : σ) :
    let used := useAll fetcher config uses state
    let recorded := used.source.checksum
    let asked := download fetcher used.source.patience used.source.addresses used.state
    let fetched := used.source.fetch fetcher used.state
    used.source.reset = Source.ofConfig config ∧
      (∀ checksum,
        recorded = some checksum ↔
          ∃ body, IsLast used.log body ∧ checksumOf body = checksum) ∧
      (∀ failure,
        asked.result = .error failure →
          fetched.result = .error failure ∧ fetched.source = used.source) ∧
      ∀ body,
        asked.result = .ok body →
          (IsBlankBody body → fetched.source = used.source) ∧
            (∀ text,
              fetched.result = .ok (.updated text) ↔
                text = Text.trim body ∧
                  ¬IsBlankBody body ∧ recorded ≠ some (checksumOf body)) ∧
            (fetched.result = .ok .unchanged ↔
              ¬IsBlankBody body ∧ recorded = some (checksumOf body)) ∧
            (fetched.result = .ok .empty ↔ IsBlankBody body) ∧
            ∀ last,
              IsLast used.log last →
                SameButBlanks last body → fetched.result = .ok .unchanged := by
  intro used recorded asked fetched
  have remembers : used.Remembers := remembers_useAll fetcher config uses state
  refine
    ⟨reset_source_useAll fetcher config uses state, remembers,
      fun failure failed => Source.fetch_of_error failed, fun body answered => ?_⟩
  obtain ⟨found, result, receives⟩ := Source.fetch_of_ok answered
  have unchanged := receives.unchanged_iff
  refine ⟨receives.eq_of_blank, fun text => ?_, ?_, ?_, fun last isLast same => ?_⟩
  · rw [← receives.updated_iff text, result, Except.ok.injEq]
  · rw [← unchanged, result, Except.ok.injEq]
  · rw [← receives.empty_iff, result, Except.ok.injEq]
  · have sameText := same.trim_eq
    have isText : ¬IsBlankBody body := by
      rw [IsBlankBody, ← sameText]
      exact isLast.1
    have known : recorded = some (checksumOf body) := by
      rw [checksumOf, ← sameText]
      exact (remembers _).mpr ⟨last, isLast, rfl⟩
    rw [result, unchanged.mpr ⟨isText, known⟩]

end Untrack.Rules
