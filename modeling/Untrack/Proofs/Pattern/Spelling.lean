import Untrack.Proofs.Pattern.Runs
import Untrack.Proofs.Provider.Anchoring
import Mathlib.Computability.Language

namespace Untrack.Pattern

open Untrack.Text (CharSet)
open Computability

/-!
# Expressions that spell texts

An expression without groups and assertions says no more than which texts it reads. It
spells the texts of a language: it reads just those, wherever they stand. The language is
put together as the expression is, one lemma for each way, and a pattern anchored before
such an expression begins just the texts that begin with a text of the language.
-/

/-- The texts of one character of a set. -/
def oneOf (characters : CharSet) : Language Char :=
  fun text => ∃ character, characters.has character = true ∧ text = [character]

/-- The texts made of characters of a set, with one of them at least. -/
def someOf (characters : CharSet) : Language Char :=
  fun text => text ≠ [] ∧ ∀ character ∈ text, characters.has character = true

/-- A text of one character of a set. -/
theorem mem_oneOf {characters : CharSet} {text : List Char} :
    text ∈ oneOf characters ↔
      ∃ character, characters.has character = true ∧ text = [character] :=
  Iff.rfl

/-- A text made of characters of a set. -/
theorem mem_someOf {characters : CharSet} {text : List Char} :
    text ∈ someOf characters ↔
      text ≠ [] ∧ ∀ character ∈ text, characters.has character = true :=
  Iff.rfl

/-- The expressions read, one after another, just the texts of the language. -/
structure Spells (exprs : List Expr) (texts : Language Char) : Prop where
  readsAll_iff :
    ∀ {text : List Char} {first last : Cursor},
      ReadsAll text exprs first last ↔
        ∃ run ∈ texts, first.Sees text run ∧ last = first.beyond run

namespace Spells

variable {exprs others : List Expr} {expr other : Expr} {texts rests : Language Char}

/-- Signs spell the one text that they make. -/
theorem signs (run : List Char) : Spells (run.map .sign) {run} := by
  refine ⟨fun {text first last} => ?_⟩
  rw [readsAll_signs_iff]
  exact ⟨fun reads => ⟨run, rfl, reads⟩, fun ⟨_, isRun, reads⟩ => isRun ▸ reads⟩

/-- What is read one after another spells texts one after another. -/
theorem append
    (spells : Spells exprs texts)
    (spellOthers : Spells others rests) :
    Spells (exprs ++ others) (texts * rests) := by
  refine ⟨fun {text first last} => ?_⟩
  rw [readsAll_append]
  simp only [spells.readsAll_iff, spellOthers.readsAll_iff, Language.mem_mul]
  constructor
  · rintro ⟨_, ⟨front, isFront, seesFront, rfl⟩, back, isBack, seesBack, rfl⟩
    exact
      ⟨front ++ back, ⟨front, isFront, back, isBack, rfl⟩,
        sees_append_iff.mpr ⟨seesFront, seesBack⟩, beyond_beyond _ front back⟩
  · rintro ⟨_, ⟨front, isFront, back, isBack, rfl⟩, sees, rfl⟩
    obtain ⟨seesFront, seesBack⟩ := sees_append_iff.mp sees
    exact
      ⟨_, ⟨front, isFront, seesFront, rfl⟩, back, isBack, seesBack,
        (beyond_beyond _ front back).symm⟩

/-- The two parts of a sequence. -/
theorem seq
    (spells : Spells [expr] texts)
    (spellsOther : Spells [other] rests) :
    Spells [.seq expr other] (texts * rests) := by
  refine ⟨fun {text first last} => ?_⟩
  rw [← (spells.append spellsOther).readsAll_iff, readsAll_singleton]
  simp [ReadsAll, Expr.Reads]

/-- A set spells its characters. -/
theorem set (characters : CharSet) : Spells [.set characters] (oneOf characters) := by
  refine ⟨fun {text first last} => ?_⟩
  rw [readsAll_singleton, reads_set_iff]
  constructor
  · rintro ⟨character, sees, inSet, isLast⟩
    exact ⟨[character], ⟨character, inSet, rfl⟩, sees, isLast⟩
  · rintro ⟨_, ⟨character, inSet, rfl⟩, sees, isLast⟩
    exact ⟨character, sees, inSet, isLast⟩

/-- A set that has to be repeated spells what is made of its characters. -/
theorem set_repeated (characters : CharSet) (greedy : Bool) :
    Spells [.repeated 1 none greedy (.set characters)] (someOf characters) := by
  refine ⟨fun {text first last} => ?_⟩
  rw [readsAll_singleton, reads_repeated_set_iff]
  constructor
  · rintro ⟨run, ⟨enough, -⟩, sees, allIn, isLast⟩
    exact ⟨run, ⟨List.ne_nil_of_length_pos enough, allIn⟩, sees, isLast⟩
  · rintro ⟨run, ⟨isSome, allIn⟩, sees, isLast⟩
    exact ⟨run, ⟨List.length_pos_iff.mpr isSome, nofun⟩, sees, allIn, isLast⟩

/-- A chain of readings spells texts one after another. -/
theorem times
    (spells : Spells [expr] texts)
    {text : List Char}
    {count : Nat}
    {first last : Cursor} :
    Times (fun first last => expr.Reads text first last) count first last ↔
      ∃ runs : List (List Char),
        runs.length = count ∧ (∀ run ∈ runs, run ∈ texts) ∧
          first.Sees text runs.flatten ∧ last = first.beyond runs.flatten := by
  have reads_iff {first last : Cursor} :
      expr.Reads text first last ↔
        ∃ run ∈ texts, first.Sees text run ∧ last = first.beyond run := by
    rw [← readsAll_singleton, spells.readsAll_iff]
  induction count generalizing first with
  | zero =>
      constructor
      · intro isFirst
        exact ⟨[], rfl, nofun, List.nil_prefix, isFirst⟩
      · rintro ⟨runs, isEmpty, -, -, isLast⟩
        rw [List.length_eq_zero_iff.mp isEmpty] at isLast
        exact isLast
  | succ count inductionHypothesis =>
      rw [Times]
      constructor
      · rintro ⟨_, isRead, chain⟩
        obtain ⟨run, isRun, sees, rfl⟩ := reads_iff.mp isRead
        obtain ⟨runs, rfl, areRuns, seesOthers, rfl⟩ := inductionHypothesis.mp chain
        exact
          ⟨run :: runs, rfl, List.forall_mem_cons.mpr ⟨isRun, areRuns⟩,
            sees_append_iff.mpr ⟨sees, seesOthers⟩, beyond_beyond _ run runs.flatten⟩
      · rintro ⟨runs, isLong, areRuns, sees, rfl⟩
        obtain ⟨run, others, rfl⟩ := List.exists_cons_of_length_eq_add_one isLong
        obtain ⟨isRun, areOthers⟩ := List.forall_mem_cons.mp areRuns
        rw [List.flatten_cons, sees_append_iff] at sees
        refine
          ⟨_, reads_iff.mpr ⟨run, isRun, sees.1, rfl⟩,
            inductionHypothesis.mpr ⟨others, Nat.succ.inj isLong, areOthers, sees.2, ?_⟩⟩
        rw [List.flatten_cons, beyond_beyond]

/-- What can be repeated at will spells any number of texts one after another. -/
theorem star (spells : Spells [expr] texts) (greedy : Bool) :
    Spells [.repeated 0 none greedy expr] texts∗ := by
  refine ⟨fun {text first last} => ?_⟩
  rw [readsAll_singleton, Expr.Reads]
  simp only [spells.times, Language.mem_kstar]
  constructor
  · rintro ⟨_, -, -, runs, -, areRuns, sees, isLast⟩
    exact ⟨_, ⟨runs, rfl, areRuns⟩, sees, isLast⟩
  · rintro ⟨_, ⟨runs, rfl, areRuns⟩, sees, isLast⟩
    refine ⟨runs.length, Nat.zero_le _, ?_, runs, rfl, areRuns, sees, isLast⟩
    rintro limit ⟨⟩

/-- What can be left out spells nothing as well. -/
theorem optional (spells : Spells [expr] texts) (greedy : Bool) :
    Spells [.repeated 0 (some 1) greedy expr] (1 + texts) := by
  refine ⟨fun {text first last} => ?_⟩
  rw [readsAll_singleton, Expr.Reads]
  simp only [spells.times, Language.mem_add, Language.mem_one]
  constructor
  · rintro ⟨_, -, few, runs, rfl, areRuns, sees, isLast⟩
    rcases runs with _ | ⟨run, _ | ⟨next, runs⟩⟩
    · exact ⟨[], .inl rfl, sees, isLast⟩
    · rw [List.flatten_singleton] at sees isLast
      exact ⟨run, .inr (areRuns run List.mem_cons_self), sees, isLast⟩
    · exact absurd (few 1 rfl) (by simp)
  · rintro ⟨run, (rfl | isRun), sees, isLast⟩
    · refine ⟨0, Nat.le_refl _, fun _ _ => Nat.zero_le _, [], rfl, ?_, sees, isLast⟩
      exact List.forall_mem_nil _
    · refine ⟨1, Nat.zero_le _, ?_, [run], rfl, ?_, ?_⟩
      · rintro limit ⟨⟩
        exact Nat.le_refl _
      · exact List.forall_mem_singleton.mpr isRun
      · simpa using And.intro sees isLast

/-- An anchored pattern that spells texts begins what begins with one of them. -/
theorem begins_iff
    {source : String}
    (isRead :
      (read source.toList).toOption = some (.concat (.assertion .textStart :: exprs)))
    (spells : Spells exprs texts)
    {text : List Char} :
    Begins source text ↔ ∃ run ∈ texts, run <+: text := by
  have reads :
      read source.toList = .ok (.concat (.assertion .textStart :: exprs)) :=
    eq_ok_of_toOption isRead
  have reads_iff (slots : List (Option Nat)) (last : Cursor) :
      (Expr.concat (.assertion .textStart :: exprs)).Reads text ⟨0, slots⟩ last ↔
        ReadsAll text exprs ⟨0, slots⟩ last := by
    rw [Expr.reads_concat]
    simp [ReadsAll, Expr.Reads, Assertion.holds, before?]
  constructor
  · rintro ⟨expr, stop, isExpr, slots, isMatch⟩
    rw [reads] at isExpr
    cases isExpr
    obtain ⟨run, isRun, sees, -⟩ := spells.readsAll_iff.mp ((reads_iff _ _).mp isMatch)
    exact ⟨run, isRun, sees⟩
  · rintro ⟨run, isRun, begins⟩
    let start : Cursor := ⟨0, (Expr.concat (.assertion .textStart :: exprs)).blank⟩
    have isMatch : ReadsAll text exprs start (start.beyond run) :=
      spells.readsAll_iff.mpr ⟨run, isRun, begins, rfl⟩
    exact ⟨_, _, reads, _, (reads_iff _ _).mpr isMatch⟩

end Spells

end Untrack.Pattern
