import Mathlib.Logic.Relation
import Untrack.Pattern.Program
import Untrack.Proofs.Pattern.Meaning

namespace Untrack.Pattern

open Relation (ReflTransGen)

/-!
# Paths through a program

A program is run step by step, each from an instruction and a cursor to the next
ones. The code that is emitted for an expression leads from its beginning to
where it goes on just if the expression reads what lies between, so a program
accepts what its expression reads.

Code is emitted from the end of an expression to its beginning, onto code that
is there already. Therefore each lemma speaks of any code that agrees with what
was emitted from the old end of the code on.
-/

/-- What an instruction does at a cursor: where it goes on, and the cursor then. -/
def Instruction.Leads (text : List Char) :
    Instruction → Cursor → (next : Nat) → Cursor → Prop
  | .consume characters following, here, next, there =>
      next = following ∧ (Expr.set characters).Reads text here there
  | .fork first second, here, next, there =>
      (next = first ∨ next = second) ∧ there = here
  | .mark slot following, here, next, there =>
      next = following ∧ there = here.note slot
  | .require required following, here, next, there =>
      next = following ∧ (Expr.assertion required).Reads text here there
  | .accept, _, _, _ => False

/-- One step of a program: the instruction at an index is done. -/
def Step (code : Code) (text : List Char) (here there : Nat × Cursor) : Prop :=
  ∃ instruction,
    code[here.1]? = some instruction ∧
      instruction.Leads text here.2 there.1 there.2

/-- From an index and a cursor the code accepts in so many steps. -/
def Accepts
    (code : Code)
    (text : List Char)
    (count index : Nat)
    (first last : Cursor) :
    Prop :=
  ∃ stop,
    Times (Step code text) count (index, first) (stop, last) ∧
      code[stop]? = some .accept

/-- What emits the code of an expression: where to go on, and the code so far. -/
abbrev Fragment : Type :=
  Nat → Code → Nat × Code

/-- The code agrees with other code from an index up to the end of the other. -/
def Agrees (code other : Code) (low : Nat) : Prop :=
  ∀ index, low ≤ index → index < other.size → code[index]? = other[index]?

/-- The code was added to, and nothing that was there has changed. -/
structure Grown (before after : Code) : Prop where
  size_le : before.size ≤ after.size
  keeps : ∀ index, index < before.size → after[index]? = before[index]?

/-- The fragment emits code that leads from one cursor to another as a reading does. -/
structure Emits
    (text : List Char)
    (fragment : Fragment)
    (reads : Cursor → Cursor → Prop) :
    Prop where
  grown : ∀ next before, Grown before (fragment next before).2
  /-- What can be read, the code leads through. -/
  leads :
    ∀ {next before code},
      Agrees code (fragment next before).2 before.size →
      ∀ {first last},
        reads first last →
        ReflTransGen (Step code text) ((fragment next before).1, first) (next, last)
  /-- What the code accepts begins with a reading. -/
  follows :
    ∀ {next before code},
      Agrees code (fragment next before).2 before.size →
      ∀ {count first last},
        Accepts code text count (fragment next before).1 first last →
        ∃ middle rest,
          reads first middle ∧ rest ≤ count ∧
            Accepts code text rest next middle last

/-! ## Single steps -/

/-- What accepts at an instruction that goes on accepts where it leads to. -/
theorem Accepts.next
    {code : Code}
    {text : List Char}
    {count index : Nat}
    {first last : Cursor}
    {instruction : Instruction}
    (accepts : Accepts code text count index first last)
    (isThere : code[index]? = some instruction)
    (goesOn : instruction ≠ .accept) :
    ∃ rest next middle,
      rest < count ∧ instruction.Leads text first next middle ∧
        Accepts code text rest next middle last := by
  obtain ⟨stop, chain, isAccept⟩ := accepts
  cases count with
  | zero =>
      obtain ⟨rfl, -⟩ : stop = index ∧ last = first := Prod.mk.inj chain
      rw [isThere, Option.some.injEq] at isAccept
      exact absurd isAccept goesOn
  | succ rest =>
      obtain ⟨⟨next, middle⟩, ⟨done, isDone, leads⟩, chain⟩ := chain
      have same : done = instruction :=
        Option.some.inj (isDone.symm.trans isThere)
      rw [same] at leads
      exact ⟨rest, next, middle, Nat.lt_succ_self rest, leads, stop, chain, isAccept⟩

/-- Where the program accepts, it goes no further. -/
theorem Accepts.eq_of_accept
    {code : Code}
    {text : List Char}
    {count index : Nat}
    {first last : Cursor}
    (accepts : Accepts code text count index first last)
    (isAccept : code[index]? = some .accept) :
    last = first := by
  obtain ⟨stop, chain, -⟩ := accepts
  cases count with
  | zero =>
      exact (Prod.mk.inj chain).2
  | succ rest =>
      obtain ⟨_, ⟨done, isDone, leads⟩, -⟩ := chain
      obtain rfl : done = .accept := Option.some.inj (isDone.symm.trans isAccept)
      exact leads.elim

/-- A path of any length is a chain of steps. -/
theorem exists_times
    {code : Code}
    {text : List Char}
    {here there : Nat × Cursor}
    (path : ReflTransGen (Step code text) here there) :
    ∃ count, Times (Step code text) count here there := by
  induction path using ReflTransGen.head_induction_on with
  | refl =>
      exact ⟨0, rfl⟩
  | head isStep path inductionHypothesis =>
      obtain ⟨count, chain⟩ := inductionHypothesis
      exact ⟨count + 1, _, isStep, chain⟩

/-! ## Code that is added -/

namespace Agrees

variable {code after : Code} {low high : Nat}

/-- Code that agrees from one index on agrees from a later one on. -/
theorem later (agrees : Agrees code after low) (isLater : low ≤ high) :
    Agrees code after high :=
  fun index fromHigh inAfter => agrees index (Nat.le_trans isLater fromHigh) inAfter

/-- Code that agrees with what was added to other code agrees with the other. -/
theorem earlier
    {before : Code}
    (agrees : Agrees code after low)
    (grown : Grown before after) :
    Agrees code before low := by
  intro index fromLow inBefore
  have inAfter := Nat.lt_of_lt_of_le inBefore grown.size_le
  rw [agrees index fromLow inAfter, grown.keeps index inBefore]

/-- The instruction that was placed last is there. -/
theorem placed
    {before : Code}
    {instruction : Instruction}
    (agrees : Agrees code (place instruction before).2 low)
    (isLater : low ≤ before.size) :
    code[(place instruction before).1]? = some instruction := by
  have isIn : (place instruction before).1 < (place instruction before).2.size := by
    simp [place]
  exact (agrees _ isLater isIn).trans (by simp [place])

end Agrees

namespace Grown

variable {before middle after : Code}

/-- Nothing was added. -/
theorem refl : Grown before before :=
  ⟨Nat.le_refl _, fun _ _ => rfl⟩

/-- Code was added twice. -/
theorem trans (early : Grown before middle) (late : Grown middle after) :
    Grown before after where
  size_le := Nat.le_trans early.size_le late.size_le
  keeps index inBefore := by
    have inMiddle := Nat.lt_of_lt_of_le inBefore early.size_le
    rw [late.keeps index inMiddle, early.keeps index inBefore]

/-- An instruction was added. -/
theorem place (instruction : Instruction) :
    Grown before (Pattern.place instruction before).2 where
  size_le := by
    simp [Pattern.place]
  keeps index inBefore := by
    simp [Pattern.place, Array.getElem?_push, Nat.ne_of_lt inBefore]

/-- An instruction that was added is changed. -/
theorem set
    (grown : Grown before after)
    {index : Nat}
    (isNew : before.size ≤ index)
    (instruction : Instruction) :
    Grown before (after.setIfInBounds index instruction) where
  size_le := by
    simpa using grown.size_le
  keeps other inBefore := by
    have isOther := Nat.ne_of_gt (Nat.lt_of_lt_of_le inBefore isNew)
    rw [Array.getElem?_setIfInBounds_ne isOther, grown.keeps other inBefore]

end Grown

/-! ## Fragments -/

/-- Two fragments, where the first goes on with the second. -/
def andThen (left right : Fragment) : Fragment :=
  fun next code => left (right next code).1 (right next code).2

/-- A choice between two fragments. -/
def orElse (left right : Fragment) : Fragment :=
  fun next code =>
    let (second, code) := right next code
    let (first, code) := left next code
    place (.fork first second) code

/-- A fragment behind a fork that can leave it out. -/
def optional (once : Fragment) (greedy : Bool) (exit : Nat) : Fragment :=
  fun next code =>
    let (start, code) := once next code
    place (choose greedy start exit) code

/-- A fork between a body and an exit leads to either. -/
theorem leads_choose
    {text : List Char}
    {greedy : Bool}
    {body exit next : Nat}
    {here there : Cursor} :
    (choose greedy body exit).Leads text here next there ↔
      (next = body ∨ next = exit) ∧ there = here := by
  cases greedy with
  | true =>
      exact Iff.rfl
  | false =>
      exact and_congr_left fun _ => or_comm

/-- A fork takes a step to its body and one to its exit. -/
theorem step_choose
    {code : Code}
    {text : List Char}
    {greedy : Bool}
    {index body exit : Nat}
    (isThere : code[index]? = some (choose greedy body exit))
    (here : Cursor) :
    Step code text (index, here) (body, here) ∧
      Step code text (index, here) (exit, here) :=
  ⟨⟨_, isThere, leads_choose.mpr ⟨.inl rfl, rfl⟩⟩,
    ⟨_, isThere, leads_choose.mpr ⟨.inr rfl, rfl⟩⟩⟩

/-- A fork does not accept. -/
theorem choose_ne_accept (greedy : Bool) (body exit : Nat) :
    choose greedy body exit ≠ .accept := by
  cases greedy <;> nofun

namespace Emits

variable {text : List Char} {left right once : Fragment}
variable {leftReads rightReads reads : Cursor → Cursor → Prop}

/-- A fragment emits the code of every reading that is the same. -/
theorem congr
    {others : Cursor → Cursor → Prop}
    (emits : Emits text once reads)
    (same : ∀ first last, reads first last ↔ others first last) :
    Emits text once others := by
  rwa [show others = reads from funext₂ fun first last => propext (same first last).symm]

/-- Nothing reads nothing. -/
theorem nothing :
    Emits text (fun next code => (next, code)) (fun first last => last = first) where
  grown _ _ := .refl
  leads _ _ _ same := same ▸ .refl
  follows _ count first _ accepts := ⟨first, count, rfl, Nat.le_refl count, accepts⟩

/-- One instruction that reads something and goes on. -/
theorem place
    {instruction : Nat → Instruction}
    (goesOn : ∀ following, instruction following ≠ .accept)
    (leads : ∀ {following here next there},
      (instruction following).Leads text here next there ↔
        next = following ∧ reads here there) :
    Emits text (fun next code => Pattern.place (instruction next) code) reads where
  grown next before := .place _
  leads agrees first last isRead :=
    .single ⟨_, agrees.placed (Nat.le_refl _), leads.mpr ⟨rfl, isRead⟩⟩
  follows agrees count first last accepts := by
    obtain ⟨rest, next, middle, isLess, goes, others⟩ :=
      accepts.next (agrees.placed (Nat.le_refl _)) (goesOn _)
    obtain ⟨rfl, isRead⟩ := leads.mp goes
    exact ⟨middle, rest, isRead, Nat.le_of_lt isLess, others⟩

/-- The code of one fragment after another holds the code of each. -/
theorem agrees_andThen
    {next : Nat}
    {before code : Code}
    (emitsLeft : Emits text left leftReads)
    (emitsRight : Emits text right rightReads)
    (agrees : Agrees code (Pattern.andThen left right next before).2 before.size) :
    Agrees code (right next before).2 before.size ∧
      Agrees code (Pattern.andThen left right next before).2
        (right next before).2.size :=
  ⟨agrees.earlier (emitsLeft.grown _ _), agrees.later (emitsRight.grown _ _).size_le⟩

/-- One fragment after another. -/
theorem andThen
    (emitsLeft : Emits text left leftReads)
    (emitsRight : Emits text right rightReads) :
    Emits text (Pattern.andThen left right)
      (fun first last => ∃ middle, leftReads first middle ∧ rightReads middle last) where
  grown next before := (emitsRight.grown next before).trans (emitsLeft.grown _ _)
  leads := by
    rintro next before code agrees first last ⟨middle, readLeft, readRight⟩
    obtain ⟨agreesRight, agreesLeft⟩ := agrees_andThen emitsLeft emitsRight agrees
    exact (emitsLeft.leads agreesLeft readLeft).trans
      (emitsRight.leads agreesRight readRight)
  follows := by
    intro next before code agrees count first last accepts
    obtain ⟨agreesRight, agreesLeft⟩ := agrees_andThen emitsLeft emitsRight agrees
    obtain ⟨middle, rest, readLeft, isLess, accepts⟩ :=
      emitsLeft.follows agreesLeft accepts
    obtain ⟨stop, later, readRight, isLess', accepts⟩ :=
      emitsRight.follows agreesRight accepts
    exact
      ⟨stop, later, ⟨middle, readLeft, readRight⟩, Nat.le_trans isLess' isLess, accepts⟩

/-- The code of a choice holds the code of both fragments and a fork before them. -/
theorem agrees_orElse
    {next : Nat}
    {before code : Code}
    (emitsLeft : Emits text left leftReads)
    (emitsRight : Emits text right rightReads)
    (agrees : Agrees code (Pattern.orElse left right next before).2 before.size) :
    Agrees code (right next before).2 before.size ∧
      Agrees code (left next (right next before).2).2 (right next before).2.size ∧
      code[(Pattern.orElse left right next before).1]? =
        some
          (choose true (left next (right next before).2).1 (right next before).1) := by
  have grownRight := emitsRight.grown next before
  have grownLeft := emitsLeft.grown next (right next before).2
  have agreesBoth : Agrees code (left next (right next before).2).2 before.size :=
    agrees.earlier (.place _)
  exact
    ⟨agreesBoth.earlier grownLeft, agreesBoth.later grownRight.size_le,
      agrees.placed (grownRight.trans grownLeft).size_le⟩

/-- Either of two fragments. -/
theorem orElse
    (emitsLeft : Emits text left leftReads)
    (emitsRight : Emits text right rightReads) :
    Emits text (Pattern.orElse left right)
      (fun first last => leftReads first last ∨ rightReads first last) where
  grown next before :=
    ((emitsRight.grown next before).trans (emitsLeft.grown _ _)).trans (.place _)
  leads := by
    intro next before code agrees first last isRead
    obtain ⟨agreesRight, agreesLeft, isFork⟩ :=
      agrees_orElse emitsLeft emitsRight agrees
    rcases isRead with readLeft | readRight
    · have path := emitsLeft.leads agreesLeft readLeft
      exact path.head (step_choose isFork first).1
    · have path := emitsRight.leads agreesRight readRight
      exact path.head (step_choose isFork first).2
  follows := by
    intro next before code agrees count first last accepts
    obtain ⟨agreesRight, agreesLeft, isFork⟩ :=
      agrees_orElse emitsLeft emitsRight agrees
    obtain ⟨rest, goal, middle, isLess, ⟨isGoal, rfl⟩, accepts⟩ :=
      accepts.next isFork nofun
    rcases isGoal with rfl | rfl
    · obtain ⟨stop, later, readLeft, isLess', accepts⟩ :=
        emitsLeft.follows agreesLeft accepts
      exact ⟨stop, later, .inl readLeft, by omega, accepts⟩
    · obtain ⟨stop, later, readRight, isLess', accepts⟩ :=
        emitsRight.follows agreesRight accepts
      exact ⟨stop, later, .inr readRight, by omega, accepts⟩

/-- A fragment so many times. -/
theorem times (emits : Emits text once reads) (count : Nat) :
    Emits text (emitTimes once count) (Times reads count) := by
  induction count with
  | zero =>
      exact nothing
  | succ count inductionHypothesis =>
      refine (inductionHypothesis.andThen emits).congr fun first last => ?_
      rw [times_add]
      simp only [times_one]

/-! ## Repetitions -/

/-- The code of a loop holds the code of its body and the fork that ends it. -/
theorem agrees_loop
    {greedy : Bool}
    {next : Nat}
    {before code : Code}
    (emits : Emits text once reads)
    (agrees : Agrees code (emitLoop once greedy next before).2 before.size) :
    let opened := (Pattern.place (.fork next next) before).2
    Agrees code (once before.size opened).2 opened.size ∧
      code[before.size]? =
        some (choose greedy (emitLoop once greedy next before).1 next) := by
  intro opened
  have grown : Grown opened (once before.size opened).2 := emits.grown _ _
  have isOpened : opened.size = before.size + 1 := Array.size_push _
  have sameSize :
      (emitLoop once greedy next before).2.size = (once before.size opened).2.size :=
    Array.size_setIfInBounds
  have inBody : before.size < (once before.size opened).2.size := by
    have := grown.size_le
    omega
  refine ⟨fun index isLater inAfter => ?_, ?_⟩
  · rw [agrees index (by omega) (by omega)]
    exact Array.getElem?_setIfInBounds_ne (by omega)
  · rw [agrees _ (Nat.le_refl _) (by omega)]
    exact Array.getElem?_setIfInBounds_self_of_lt inBody

/-- A loop reads what its body reads once or more often. -/
theorem loop (emits : Emits text once reads) (greedy : Bool) :
    Emits text (emitLoop once greedy)
      (fun first last => ∃ count, Times reads (count + 1) first last) where
  grown next before :=
    ((Grown.place (.fork next next)).trans (emits.grown _ _)).set (Nat.le_refl _) _
  leads := by
    rintro next before code agrees first last ⟨count, chain⟩
    obtain ⟨agreesBody, isFork⟩ := emits.agrees_loop agrees
    clear agrees
    induction count generalizing first with
    | zero =>
        have toFork := emits.leads agreesBody (times_one.mp chain)
        exact toFork.tail (step_choose isFork last).2
    | succ count inductionHypothesis =>
        obtain ⟨middle, isRead, chain⟩ := chain
        have toFork := emits.leads agreesBody isRead
        have again := toFork.tail (step_choose isFork middle).1
        exact again.trans (inductionHypothesis chain)
  follows := by
    intro next before code agrees count
    obtain ⟨agreesBody, isFork⟩ := emits.agrees_loop agrees
    clear agrees
    -- Each round of the loop takes the fork, so that fewer steps are left.
    induction count using Nat.strongRecOn with
    | ind count inductionHypothesis =>
        intro first last accepts
        obtain ⟨middle, rest, isRead, isLess, accepts⟩ :=
          emits.follows agreesBody accepts
        obtain ⟨left, goal, here, fewer, leads, goesOn⟩ :=
          accepts.next isFork (choose_ne_accept _ _ _)
        obtain ⟨isGoal, rfl⟩ := leads_choose.mp leads
        rcases isGoal with rfl | rfl
        · obtain ⟨stop, later, ⟨rounds, chain⟩, isLess', ends⟩ :=
            inductionHypothesis left (by omega) goesOn
          exact ⟨stop, later, ⟨rounds + 1, here, isRead, chain⟩, by omega, ends⟩
        · exact ⟨here, left, ⟨0, times_one.mpr isRead⟩, by omega, goesOn⟩

/-- The code of an optional fragment holds its code and the fork before it. -/
theorem agrees_optional
    {greedy : Bool}
    {exit next : Nat}
    {before code : Code}
    (emits : Emits text once reads)
    (agrees : Agrees code (optional once greedy exit next before).2 before.size) :
    Agrees code (once next before).2 before.size ∧
      code[(optional once greedy exit next before).1]? =
        some (choose greedy (once next before).1 exit) :=
  ⟨agrees.earlier (.place _), agrees.placed (emits.grown next before).size_le⟩

/-- Optional fragments in a row add their code. -/
theorem grown_optionals
    (emits : Emits text once reads)
    (greedy : Bool)
    (exit count next : Nat)
    (before : Code) :
    Grown before (emitTimes (optional once greedy exit) count next before).2 := by
  induction count generalizing next before with
  | zero =>
      exact .refl
  | succ count inductionHypothesis =>
      have grownFirst : Grown before (optional once greedy exit next before).2 :=
        (emits.grown next before).trans (.place _)
      exact grownFirst.trans (inductionHypothesis _ _)

/-- The code of one more optional fragment holds its code and that of the others. -/
theorem agrees_optionals
    {greedy : Bool}
    {exit count next : Nat}
    {before code : Code}
    (emits : Emits text once reads)
    (agrees :
      Agrees code (emitTimes (optional once greedy exit) (count + 1) next before).2
        before.size) :
    let added := optional once greedy exit next before
    Agrees code added.2 before.size ∧
      Agrees code (emitTimes (optional once greedy exit) count added.1 added.2).2
        added.2.size := by
  intro added
  have grown : Grown before added.2 := emits.grown_optionals greedy exit 1 next before
  exact ⟨agrees.earlier (emits.grown_optionals _ _ _ _ _), agrees.later grown.size_le⟩

/--
Where one can read so many times or fewer, the code of that many optional
fragments leads: with fewer readings to the exit, else to what follows.
-/
theorem leads_optionals
    (emits : Emits text once reads)
    {greedy : Bool}
    {exit count rounds next : Nat}
    {before code : Code}
    (agrees :
      Agrees code (emitTimes (optional once greedy exit) count next before).2
        before.size)
    {first last : Cursor}
    (isUpTo : rounds ≤ count)
    (chain : Times reads rounds first last) :
    ReflTransGen (Step code text)
      ((emitTimes (optional once greedy exit) count next before).1, first)
      (if rounds < count then exit else next, last) := by
  induction count generalizing rounds next before last with
  | zero =>
      obtain rfl : rounds = 0 := Nat.le_zero.mp isUpTo
      rw [show last = first from chain]
      exact .refl
  | succ count inductionHypothesis =>
      obtain ⟨agreesFirst, agreesOthers⟩ := emits.agrees_optionals agrees
      obtain ⟨agreesBody, isFork⟩ := emits.agrees_optional agreesFirst
      rcases Nat.lt_trichotomy rounds count with isLess | isSame | isMore
      · have toExit := inductionHypothesis agreesOthers (Nat.le_of_lt isLess) chain
        rw [if_pos isLess] at toExit
        rw [if_pos (by omega)]
        exact toExit
      · have toFork := inductionHypothesis agreesOthers (Nat.le_of_eq isSame) chain
        rw [if_neg (by omega)] at toFork
        rw [if_pos (by omega)]
        exact toFork.tail (step_choose isFork last).2
      · obtain rfl : rounds = count + 1 := by omega
        obtain ⟨middle, chain, isRead⟩ := times_add.mp chain
        have toFork := inductionHypothesis agreesOthers (Nat.le_refl _) chain
        rw [if_neg (Nat.lt_irrefl _)] at toFork
        rw [if_neg (Nat.lt_irrefl _)]
        have toBody := toFork.tail (step_choose isFork middle).1
        exact toBody.trans (emits.leads agreesBody (times_one.mp isRead))

/--
What optional fragments in a row accept begins with so many readings or fewer:
with fewer the rest is accepted from the exit, else from what follows.
-/
theorem follows_optionals
    (emits : Emits text once reads)
    {greedy : Bool}
    {exit count next : Nat}
    {before code : Code}
    (agrees :
      Agrees code (emitTimes (optional once greedy exit) count next before).2
        before.size)
    {steps : Nat}
    {first last : Cursor}
    (accepts :
      Accepts code text steps
        (emitTimes (optional once greedy exit) count next before).1 first last) :
    ∃ rounds middle rest,
      rounds ≤ count ∧ Times reads rounds first middle ∧ rest ≤ steps ∧
        Accepts code text rest (if rounds < count then exit else next) middle last := by
  induction count generalizing next before with
  | zero =>
      exact ⟨0, first, steps, Nat.le_refl _, rfl, Nat.le_refl _, accepts⟩
  | succ count inductionHypothesis =>
      obtain ⟨agreesFirst, agreesOthers⟩ := emits.agrees_optionals agrees
      obtain ⟨agreesBody, isFork⟩ := emits.agrees_optional agreesFirst
      obtain ⟨rounds, middle, rest, isUpTo, chain, isLess, ends⟩ :=
        inductionHypothesis agreesOthers accepts
      by_cases isFewer : rounds < count
      · rw [if_pos isFewer] at ends
        refine ⟨rounds, middle, rest, by omega, chain, isLess, ?_⟩
        rwa [if_pos (by omega)]
      · obtain rfl : rounds = count := by omega
        rw [if_neg isFewer] at ends
        obtain ⟨left, goal, here, fewer, leads, goesOn⟩ :=
          ends.next isFork (choose_ne_accept _ _ _)
        obtain ⟨isGoal, rfl⟩ := leads_choose.mp leads
        rcases isGoal with rfl | rfl
        · obtain ⟨stop, later, isRead, isLess', ends⟩ := emits.follows agreesBody goesOn
          refine ⟨rounds + 1, stop, later, Nat.le_refl _, ?_, by omega, ?_⟩
          · exact times_add.mpr ⟨here, chain, times_one.mpr isRead⟩
          · rwa [if_neg (Nat.lt_irrefl _)]
        · refine ⟨rounds, here, left, by omega, chain, by omega, ?_⟩
          rwa [if_pos (Nat.lt_succ_self _)]

/-- Up to so many times a fragment. -/
theorem upTo (emits : Emits text once reads) (count : Nat) (greedy : Bool) :
    Emits text (emitUpTo once count greedy)
      (fun first last => ∃ rounds, rounds ≤ count ∧ Times reads rounds first last) where
  grown next before := emits.grown_optionals greedy next count next before
  leads := by
    rintro next before code agrees first last ⟨rounds, isUpTo, chain⟩
    have path := emits.leads_optionals agrees isUpTo chain
    rwa [ite_self] at path
  follows := by
    intro next before code agrees steps first last accepts
    obtain ⟨rounds, middle, rest, isUpTo, chain, isLess, ends⟩ :=
      emits.follows_optionals agrees accepts
    rw [ite_self] at ends
    exact ⟨middle, rest, ⟨rounds, isUpTo, chain⟩, isLess, ends⟩

/-- A repetition reads what its body reads as often as its ends allow. -/
theorem repeated
    (emits : Emits text once reads)
    (least : Nat)
    (most : Option Nat)
    (greedy : Bool) :
    Emits text (emitRepeated once least most greedy)
      (fun first last => ∃ count,
        least ≤ count ∧ (∀ limit, most = some limit → count ≤ max least limit) ∧
          Times reads count first last) := by
  match most, least with
  | some most, least =>
      refine ((emits.times least).andThen (emits.upTo (most - least) greedy)).congr ?_
      intro first last
      constructor
      · rintro ⟨middle, front, rounds, isUpTo, back⟩
        refine ⟨least + rounds, by omega, ?_, times_add.mpr ⟨middle, front, back⟩⟩
        rintro _ ⟨⟩
        omega
      · rintro ⟨count, isEnough, isUpTo, chain⟩
        have inLimit := isUpTo most rfl
        rw [show count = least + (count - least) by omega] at chain
        obtain ⟨middle, front, back⟩ := times_add.mp chain
        exact ⟨middle, front, count - least, by omega, back⟩
  | none, 0 =>
      refine ((emits.loop greedy).upTo 1 greedy).congr fun first last => ?_
      constructor
      · rintro ⟨rounds, isUpTo, chain⟩
        match rounds with
        | 0 =>
            exact ⟨0, Nat.le_refl _, nofun, chain⟩
        | 1 =>
            obtain ⟨count, chain⟩ := times_one.mp chain
            exact ⟨count + 1, Nat.zero_le _, nofun, chain⟩
      · rintro ⟨count, -, -, chain⟩
        match count with
        | 0 =>
            exact ⟨0, Nat.zero_le _, chain⟩
        | count + 1 =>
            exact ⟨1, Nat.le_refl _, times_one.mpr ⟨count, chain⟩⟩
  | none, least + 1 =>
      refine ((emits.times least).andThen (emits.loop greedy)).congr ?_
      intro first last
      constructor
      · rintro ⟨middle, front, rounds, back⟩
        exact
          ⟨least + (rounds + 1), by omega, nofun, times_add.mpr ⟨middle, front, back⟩⟩
      · rintro ⟨count, isEnough, -, chain⟩
        rw [show count = least + (count - least - 1 + 1) by omega] at chain
        obtain ⟨middle, front, back⟩ := times_add.mp chain
        exact ⟨middle, front, _, back⟩

end Emits

/-- The code that is emitted for an expression leads where the expression reads. -/
theorem emits_emit (text : List Char) (expr : Expr) :
    Emits text (emit expr) (expr.Reads text) := by
  induction expr with
  | empty =>
      exact .nothing
  | set characters =>
      exact .place nofun Iff.rfl
  | assertion required =>
      exact .place nofun Iff.rfl
  | group index body inductionHypothesis =>
      have note (slot : Nat) :
          Emits text (fun next code => place (.mark slot next) code)
            (fun here there => there = here.note slot) :=
        .place nofun Iff.rfl
      refine ((note _).andThen (inductionHypothesis.andThen (note _))).congr ?_
      intro first last
      simp [Expr.Reads]
  | seq left right leftHypothesis rightHypothesis =>
      exact leftHypothesis.andThen rightHypothesis
  | either left right leftHypothesis rightHypothesis =>
      exact leftHypothesis.orElse rightHypothesis
  | repeated least most greedy body inductionHypothesis =>
      exact inductionHypothesis.repeated least most greedy

/-! ## Programs -/

namespace Program

/-- A path through the program of an expression that ends where it accepts. -/
def Leads (program : Program) (text : List Char) (first last : Cursor) : Prop :=
  ∃ stop,
    ReflTransGen (Step program.code text) (program.start, first) (stop, last) ∧
      program.code[stop]? = some .accept

/-- A program leads to where it accepts just where its expression reads. -/
theorem leads_ofExpr
    {text : List Char}
    {expr : Expr}
    {first last : Cursor} :
    (ofExpr expr).Leads text first last ↔ expr.Reads text first last := by
  have emits := emits_emit text expr
  have isAccept : (ofExpr expr).code[0]? = some .accept :=
    (emits.grown 0 _).keeps 0 Nat.one_pos
  have agrees :
      Agrees (ofExpr expr).code (emit expr 0 (place .accept #[]).2).2 1 :=
    fun _ _ _ => rfl
  constructor
  · rintro ⟨stop, path, isStop⟩
    obtain ⟨count, chain⟩ := exists_times path
    obtain ⟨middle, rest, isRead, -, accepts⟩ :=
      emits.follows agrees ⟨stop, chain, isStop⟩
    rwa [accepts.eq_of_accept isAccept]
  · intro isRead
    exact ⟨0, emits.leads agrees isRead, isAccept⟩

end Program

end Untrack.Pattern
