import Untrack.Pattern.Compiled
import Untrack.Proofs.Pattern.Threads

namespace Untrack.Pattern

open Relation (ReflTransGen)

/-!
# What a search finds

A search finds a match just if its expression matches somewhere in the text, and
what it finds is a match of the expression. While it runs, and as long as no
match is found, the taken instructions are all those that a path can have come to.
-/

namespace Program

variable {program : Program} {text : List Char}

/-- The match is one that the program leads to. -/
structure Finds (program : Program) (text : List Char) (found : Match) : Prop where
  start_le : found.start ≤ text.length
  leads :
    program.Leads text
      ⟨found.start, List.replicate (2 * program.groups + 2) none⟩
      ⟨found.stop, found.slots⟩

/-- The threads that can have come to a place are all known. -/
def Covers
    (program : Program)
    (text : List Char)
    (position : Nat)
    (waiting : Waiting) :
    Prop :=
  ∀ first here,
    ReflTransGen (Step program.code text) (program.start, first) here →
    here.2.position = position →
    waiting.Has here.1

/-- The state of a search at a place. -/
structure Running
    (program : Program)
    (text : List Char)
    (position : Nat)
    (best : Option Match)
    (waiting : Waiting) :
    Prop where
  settling : Settling program text position [] waiting
  sound : ∀ found, best = some found → program.Finds text found
  covers : best = none → program.Covers text position waiting

end Program

/-! ## Reading one character -/

/-- A step stays at its place or reads one character. -/
theorem Step.stays_or_reads
    {code : Code}
    {text : List Char}
    {here there : Nat × Cursor}
    (isStep : Step code text here there) :
    there.2.position = here.2.position ∨
      ∃ characters read,
        code[here.1]? = some (.consume characters there.1) ∧
          text[here.2.position]? = some read ∧
          characters.has read = true ∧
          there.2.position = here.2.position + 1 := by
  obtain ⟨instruction, isThere, leads⟩ := isStep
  cases instruction with
  | consume characters next =>
      obtain ⟨rfl, read, isRead, reads, isPast⟩ := leads
      exact .inr ⟨characters, read, isThere, isRead, reads, congrArg Cursor.position isPast⟩
  | fork first second =>
      exact .inl (congrArg Cursor.position leads.2)
  | mark slot next =>
      obtain ⟨-, isNoted⟩ := leads
      rw [isNoted]
      exact .inl rfl
  | require assertion next =>
      exact .inl (congrArg Cursor.position leads.2.2)
  | accept =>
      exact leads.elim

/-- A thread that reads a character has come to the next place. -/
theorem Thread.Reached.past
    {program : Program}
    {text : List Char}
    {position next : Nat}
    {thread : Thread}
    {characters : Text.CharSet}
    {read : Char}
    (reached : thread.Reached program text position)
    (isConsume : program.code[thread.index]? = some (.consume characters next))
    (isThere : text[position]? = some read)
    (reads : characters.has read = true) :
    Thread.Reached program text (position + 1) { thread with index := next } :=
  ⟨reached.start_le, reached.path.tail ⟨_, isConsume, rfl, read, isThere, reads, rfl⟩⟩

/-- One thread accepts, or reads the character and goes on, or ends there. -/
theorem advance_cons
    (code : Code)
    (position : Nat)
    (character : Option Char)
    (place : Place)
    (thread : Thread)
    (rest : List Thread)
    (best : Option Match)
    (waiting : Waiting) :
    (code[thread.index]? = some .accept ∧
        advance code position character place (thread :: rest) best waiting =
          (some ⟨thread.start, position, thread.slots⟩, waiting)) ∨
      (∃ characters next read,
        code[thread.index]? = some (.consume characters next) ∧
          character = some read ∧
          characters.has read = true ∧
          advance code position character place (thread :: rest) best waiting =
            advance code position character place rest best
              (enter code place { thread with index := next } waiting)) ∨
      (code[thread.index]? ≠ some .accept ∧
        (∀ characters next read,
          code[thread.index]? = some (.consume characters next) →
          character = some read →
          characters.has read = false) ∧
        advance code position character place (thread :: rest) best waiting =
          advance code position character place rest best waiting) := by
  cases isThere : code[thread.index]? with
  | none =>
      exact .inr (.inr ⟨nofun, nofun, by simp [advance, isThere]⟩)
  | some instruction =>
      cases instruction with
      | accept =>
          exact .inl ⟨rfl, by simp [advance, isThere]⟩
      | consume characters next =>
          cases character with
          | none =>
              exact .inr (.inr ⟨nofun, nofun, by simp [advance, isThere]⟩)
          | some read =>
              cases reads : characters.has read with
              | true =>
                  refine .inr (.inl ⟨characters, next, read, rfl, rfl, reads, ?_⟩)
                  simp [advance, isThere, reads]
              | false =>
                  refine .inr (.inr ⟨nofun, ?_, by simp [advance, isThere, reads]⟩)
                  rintro _ _ _ ⟨⟩ ⟨⟩
                  exact reads
      | _ =>
          exact .inr (.inr ⟨nofun, nofun, by simp [advance, isThere]⟩)

/-- A match that the threads of a place find is one that the program leads to. -/
theorem finds_advance
    {program : Program}
    {text : List Char}
    {position : Nat}
    {character : Option Char}
    {place : Place}
    {threads : List Thread}
    {best : Option Match}
    {waiting : Waiting}
    (reached : ∀ thread ∈ threads, thread.Reached program text position)
    (sound : ∀ found, best = some found → program.Finds text found) :
    ∀ found,
      (advance program.code position character place threads best waiting).1 =
          some found →
        program.Finds text found := by
  induction threads generalizing waiting with
  | nil =>
      exact sound
  | cons thread rest inductionHypothesis =>
      rw [List.forall_mem_cons] at reached
      rcases advance_cons program.code position character place thread rest best waiting with
        ⟨isAccept, same⟩ | ⟨_, _, _, _, _, _, same⟩ | ⟨_, _, same⟩
      · rw [same]
        rintro found ⟨⟩
        exact ⟨reached.1.start_le, thread.index, reached.1.path, isAccept⟩
      · rw [same]
        exact inductionHypothesis reached.2
      · rw [same]
        exact inductionHypothesis reached.2

/-- A match is found if there is one already or some thread has come to its end. -/
theorem isSome_advance
    {code : Code}
    {position : Nat}
    {character : Option Char}
    {place : Place}
    {threads : List Thread}
    {best : Option Match}
    {waiting : Waiting}
    (isFound :
      best.isSome = true ∨ ∃ thread ∈ threads, code[thread.index]? = some .accept) :
    (advance code position character place threads best waiting).1.isSome = true := by
  induction threads generalizing waiting with
  | nil =>
      exact isFound.resolve_right (by simp)
  | cons thread rest inductionHypothesis =>
      have goesOn (notHere : code[thread.index]? ≠ some .accept) :
          best.isSome = true ∨ ∃ thread ∈ rest, code[thread.index]? = some .accept := by
        refine isFound.imp_right ?_
        rintro ⟨other, member, isAccept⟩
        rcases List.mem_cons.mp member with rfl | isRest
        · exact absurd isAccept notHere
        · exact ⟨other, isRest, isAccept⟩
      rcases advance_cons code position character place thread rest best waiting with
        ⟨_, same⟩ | ⟨_, _, _, isConsume, _, _, same⟩ | ⟨notHere, _, same⟩
      · rw [same]
        rfl
      · rw [same]
        exact inductionHypothesis (goesOn (by rw [isConsume]; nofun))
      · rw [same]
        exact inductionHypothesis (goesOn notHere)

/--
The threads of a place wait at the next one where they can read the character
between. Nothing is said of them if one of them has come to its end.
-/
theorem settling_advance
    {program : Program}
    {text : List Char}
    {position : Nat}
    {threads : List Thread}
    {waiting : Waiting}
    (best : Option Match)
    (reached : ∀ thread ∈ threads, thread.Reached program text position)
    (settling : Settling program text (position + 1) [] waiting) :
    let advanced :=
      advance program.code position text[position]? (placeAt text (position + 1))
        threads best waiting
    Settling program text (position + 1) [] advanced.2 ∧
      (∀ index, waiting.Has index → advanced.2.Has index) ∧
      (advanced.1.isSome = true ∨
        ∀ thread ∈ threads, ∀ characters next read,
          program.code[thread.index]? = some (.consume characters next) →
          text[position]? = some read →
          characters.has read = true →
          advanced.2.Has next) := by
  induction threads generalizing waiting with
  | nil =>
      exact ⟨settling, fun _ isHeld => isHeld, .inr nofun⟩
  | cons thread rest inductionHypothesis =>
      rw [List.forall_mem_cons] at reached
      rcases
        advance_cons program.code position text[position]?
          (placeAt text (position + 1)) thread rest best waiting with
        ⟨_, same⟩ | ⟨characters, next, read, isConsume, isThere, reads, same⟩ |
          ⟨_, ends, same⟩
      · rw [same]
        exact ⟨settling, fun _ isHeld => isHeld, .inl rfl⟩
      · obtain ⟨entered, stays, arrives⟩ :=
          settling.enter (reached.1.past isConsume isThere reads)
        obtain ⟨settled, staysOn, readsOn⟩ := inductionHypothesis reached.2 entered
        rw [same]
        refine ⟨settled, fun index isHeld => staysOn _ (stays _ isHeld), ?_⟩
        refine readsOn.imp_right fun others => ?_
        rw [List.forall_mem_cons]
        refine ⟨?_, others⟩
        rintro _ _ _ isSame - -
        obtain ⟨rfl, rfl⟩ :=
          Instruction.consume.inj (Option.some.inj (isSame.symm.trans isConsume))
        exact staysOn _ arrives
      · obtain ⟨settled, staysOn, readsOn⟩ := inductionHypothesis reached.2 settling
        rw [same]
        refine ⟨settled, staysOn, readsOn.imp_right fun others => ?_⟩
        rw [List.forall_mem_cons]
        refine ⟨?_, others⟩
        intro characters next read isConsume isThere reads
        rw [ends characters next read isConsume isThere] at reads
        cases reads

/-- A thread that does not accept only changes what waits at the next place. -/
theorem exists_advance_cons
    {code : Code}
    {thread : Thread}
    (notAccept : code[thread.index]? ≠ some .accept)
    (position : Nat)
    (character : Option Char)
    (place : Place) :
    ∃ read : Waiting → Waiting,
      ∀ rest best waiting,
        advance code position character place (thread :: rest) best waiting =
          advance code position character place rest best (read waiting) := by
  cases isThere : code[thread.index]? with
  | none =>
      exact ⟨id, by simp [advance, isThere]⟩
  | some instruction =>
      cases instruction with
      | accept =>
          exact absurd isThere notAccept
      | consume characters next =>
          cases character with
          | none =>
              exact ⟨id, by simp [advance, isThere]⟩
          | some read =>
              cases reads : characters.has read with
              | true =>
                  exact
                    ⟨enter code place { thread with index := next }, by
                      simp [advance, isThere, reads]⟩
              | false =>
                  exact ⟨id, by simp [advance, isThere, reads]⟩
      | _ =>
          exact ⟨id, by simp [advance, isThere]⟩

/-- Which match is found does not depend on what waits at the next place. -/
theorem fst_advance
    (code : Code)
    (position : Nat)
    (character : Option Char)
    (place other : Place)
    (threads : List Thread)
    (best : Option Match)
    (waiting others : Waiting) :
    (advance code position character place threads best waiting).1 =
      (advance code position character other threads best others).1 := by
  induction threads generalizing waiting others with
  | nil =>
      rfl
  | cons thread rest inductionHypothesis =>
      by_cases isAccept : code[thread.index]? = some .accept
      · simp [advance, isAccept]
      · obtain ⟨read, reads⟩ := exists_advance_cons isAccept position character place
        obtain ⟨readOther, readsOther⟩ := exists_advance_cons isAccept position character other
        rw [reads, readsOther]
        exact inductionHypothesis _ _

/-- The threads that wait have come along a path, the most preferred first as well. -/
theorem Settling.reached_reverse
    {program : Program}
    {text : List Char}
    {position : Nat}
    {waiting : Waiting}
    (settling : Settling program text position [] waiting) :
    ∀ thread ∈ waiting.threads.reverse, thread.Reached program text position :=
  fun thread member => settling.reached thread (List.mem_reverse.mp member)

/--
A path comes to a taken instruction at a place where threads have settled, if one is
taken where it begins there and where it has just read a character.
-/
theorem Settling.covers
    {program : Program}
    {text : List Char}
    {position : Nat}
    {waiting : Waiting}
    {first : Cursor}
    {there : Nat × Cursor}
    (settling : Settling program text position [] waiting)
    (begun : first.position = position → waiting.Has program.start)
    (arrived :
      ∀ here there,
        ReflTransGen (Step program.code text) (program.start, first) here →
        Step program.code text here there →
        here.2.position + 1 = position →
        there.2.position = position →
        waiting.Has there.1)
    (path : ReflTransGen (Step program.code text) (program.start, first) there)
    (isThere : there.2.position = position) :
    waiting.Has there.1 := by
  -- Along the path: what came to this place without reading was there before.
  induction path with
  | refl =>
      exact begun isThere
  | @tail here there path isStep inductionHypothesis =>
      rcases isStep.stays_or_reads with isSame | ⟨_, _, _, _, _, isNext⟩
      · have isHeld := inductionHypothesis (isSame.symm.trans isThere)
        have moves : Moves program.code text position here.1 there.1 :=
          ⟨here.2, there.2, isSame.symm.trans isThere, isThere, isStep⟩
        exact (settling.closed _ _ isHeld moves).resolve_right (by simp)
      · exact arrived here there path isStep (isNext.symm.trans isThere) isThere

/-- Where a step reads a character, a thread that waits does so too. -/
theorem Settling.arrives
    {program : Program}
    {text : List Char}
    {position : Nat}
    {waiting next : Waiting}
    {here there : Nat × Cursor}
    (settling : Settling program text position [] waiting)
    (reads :
      ∀ thread ∈ waiting.threads.reverse, ∀ characters index read,
        program.code[thread.index]? = some (.consume characters index) →
        text[position]? = some read →
        characters.has read = true →
        next.Has index)
    (isStep : Step program.code text here there)
    (isHere : here.2.position = position)
    (isThere : there.2.position = position + 1)
    (isHeld : waiting.Has here.1) :
    next.Has there.1 := by
  rcases isStep.stays_or_reads with isSame | ⟨characters, read, isConsume, isRead, isIn, -⟩
  · omega
  · obtain ⟨thread, member, isAt⟩ := settling.kept _ _ isHeld isConsume rfl
    exact
      reads thread (List.mem_reverse.mpr member) characters there.1 read
        (isAt ▸ isConsume) (isHere ▸ isRead) isIn

namespace Program

variable {program : Program} {text : List Char}

/-! ## Running -/

/-- What the threads that wait at a place make of the character behind it. -/
def advanced
    (program : Program)
    (text : List Char)
    (position : Nat)
    (best : Option Match)
    (waiting : Waiting) :
    Option Match × Waiting :=
  advance program.code position text[position]? (placeAt text (position + 1))
    waiting.threads.reverse best (Waiting.none program.code.size)

/-- What holds at a place and is kept from each to the next one holds in the end. -/
theorem run_keeps
    (Keeps : Nat → Option Match → Waiting → Prop)
    (Ends : Option Match → Prop)
    (next :
      ∀ position best waiting,
        position < text.length →
        Keeps position best waiting →
        let advanced := program.advanced text position best waiting
        Keeps (position + 1) advanced.1
          (program.begin (placeAt text (position + 1)) advanced.1 advanced.2))
    (last :
      ∀ best waiting,
        Keeps text.length best waiting →
        Ends (program.advanced text text.length best waiting).1)
    {position : Nat}
    {best : Option Match}
    {waiting : Waiting}
    (inside : position ≤ text.length)
    (keeps : Keeps position best waiting) :
    Ends (program.run position waiting best (text.drop position)) := by
  generalize isRest : text.drop position = rest
  induction rest generalizing position best waiting with
  | nil =>
      have isEnd : position = text.length := by
        have := List.drop_eq_nil_iff.mp isRest
        omega
      subst isEnd
      have isResult := last best waiting keeps
      rw [advanced, List.getElem?_eq_none (Nat.le_refl _)] at isResult
      rw [run, fst_advance]
      exact isResult
  | cons character rest inductionHypothesis =>
      have isCharacter : text[position]? = some character := by
        rw [← List.head?_drop, isRest, List.head?_cons]
      have isNext : text.drop (position + 1) = rest := by
        rw [← List.tail_drop, isRest, List.tail_cons]
      have isShorter : position < text.length :=
        (List.getElem?_eq_some_iff.mp isCharacter).1
      have isPlace :
          placeAt text (position + 1) = ⟨position + 1, some character, rest.head?⟩ := by
        rw [placeAt, before?, isCharacter, ← isNext, List.head?_drop]
      have keepsNext := next position best waiting isShorter keeps
      rw [advanced, isCharacter, isPlace] at keepsNext
      exact inductionHypothesis isShorter keepsNext isNext

/-- What holds before a text is read and is kept from place to place holds of a search. -/
theorem find_keeps
    (Keeps : Nat → Option Match → Waiting → Prop)
    (Ends : Option Match → Prop)
    (start :
      Keeps 0 none (program.begin (placeAt text 0) none (Waiting.none program.code.size)))
    (next :
      ∀ position best waiting,
        position < text.length →
        Keeps position best waiting →
        let advanced := program.advanced text position best waiting
        Keeps (position + 1) advanced.1
          (program.begin (placeAt text (position + 1)) advanced.1 advanced.2))
    (last :
      ∀ best waiting,
        Keeps text.length best waiting →
        Ends (program.advanced text text.length best waiting).1) :
    Ends (program.find text) := by
  have isPlace : placeAt text 0 = ⟨0, none, text.head?⟩ := by
    rw [placeAt, before?, List.head?_eq_getElem?]
  rw [isPlace] at start
  exact run_keeps Keeps Ends next last (Nat.zero_le _) start

/--
As long as no match is found, one can begin at a place. All threads that can have
come there are known then, if those are that have read a character last.
-/
theorem Running.begin
    {position : Nat}
    {best : Option Match}
    {waiting : Waiting}
    (inside : position ≤ text.length)
    (settling : Settling program text position [] waiting)
    (sound : ∀ found, best = some found → program.Finds text found)
    (arrived :
      best = none →
      ∀ first here there,
        ReflTransGen (Step program.code text) (program.start, first) here →
        Step program.code text here there →
        here.2.position + 1 = position →
        there.2.position = position →
        waiting.Has there.1) :
    Running program text position best
      (program.begin (placeAt text position) best waiting) := by
  cases best with
  | some found =>
      exact ⟨settling, sound, nofun⟩
  | none =>
      have isReached : (program.threadAt position).Reached program text position :=
        ⟨inside, .refl⟩
      obtain ⟨entered, stays, arrives⟩ := settling.enter isReached
      refine ⟨entered, sound, fun _ first there path => entered.covers (fun _ => arrives) ?_ path⟩
      exact fun here there path isStep isBefore isThere =>
        stays _ (arrived rfl first here there path isStep isBefore isThere)

/-- Before a text is read, a match can only begin. -/
theorem running_start :
    Running program text 0 none
      (program.begin (placeAt text 0) none (Waiting.none program.code.size)) :=
  .begin (Nat.zero_le _) .none nofun fun _ _ _ _ _ _ isBefore =>
    absurd isBefore (Nat.succ_ne_zero _)

/-- The threads of a place read a character and come to the next place. -/
theorem Running.next
    {position : Nat}
    {best : Option Match}
    {waiting : Waiting}
    (running : Running program text position best waiting)
    (inside : position < text.length) :
    let advanced := program.advanced text position best waiting
    Running program text (position + 1) advanced.1
      (program.begin (placeAt text (position + 1)) advanced.1 advanced.2) := by
  intro advanced
  have reached := running.settling.reached_reverse
  obtain ⟨settled, -, reads⟩ := settling_advance best reached .none
  refine .begin inside settled (finds_advance reached running.sound) ?_
  intro noneFound first here there path isStep isBefore isThere
  have isHere : here.2.position = position := Nat.succ.inj isBefore
  have notFound : ¬advanced.1.isSome = true := by
    rw [noneFound]
    nofun
  have noneBest : best = none :=
    Option.not_isSome_iff_eq_none.mp fun isSome =>
      notFound (Pattern.isSome_advance (.inl isSome))
  exact
    running.settling.arrives (reads.resolve_left notFound) isStep isHere isThere
      (running.covers noneBest first here path isHere)

/-- A match that ends at a place is found there. -/
theorem Running.isSome_advanced
    {position : Nat}
    {best : Option Match}
    {waiting : Waiting}
    {first last : Cursor}
    (running : Running program text position best waiting)
    (leads : program.Leads text first last)
    (isHere : last.position = position) :
    (program.advanced text position best waiting).1.isSome = true := by
  apply Pattern.isSome_advance
  cases best with
  | some found =>
      exact .inl rfl
  | none =>
      obtain ⟨stop, path, isAccept⟩ := leads
      have isHeld : waiting.Has stop := running.covers rfl first _ path isHere
      obtain ⟨thread, member, isAt⟩ := running.settling.kept _ _ isHeld isAccept rfl
      exact .inr ⟨thread, List.mem_reverse.mpr member, isAt ▸ isAccept⟩

/-- What a search finds is a match. -/
theorem finds_of_find {found : Match} (isFound : program.find text = some found) :
    program.Finds text found := by
  refine find_keeps (Running program text)
    (fun best => ∀ found, best = some found → program.Finds text found)
    running_start (fun _ _ _ inside running => running.next inside) ?_ found isFound
  exact fun _ _ running => finds_advance running.settling.reached_reverse running.sound

/-- A search finds a match if there is one. -/
theorem isSome_find
    {first last : Cursor}
    (leads : program.Leads text first last)
    (isInside : last.position ≤ text.length) :
    (program.find text).isSome = true := by
  -- One is found already, or this one ends further on.
  let Keeps (position : Nat) (best : Option Match) (waiting : Waiting) : Prop :=
    Running program text position best waiting ∧
      (best.isSome = true ∨ position ≤ last.position)
  refine find_keeps Keeps (fun best => best.isSome = true)
    ⟨running_start, .inr (Nat.zero_le _)⟩ ?_ ?_
  · intro position best waiting inside ⟨running, isFound⟩
    refine ⟨running.next inside, ?_⟩
    rcases isFound with isFound | isLater
    · exact .inl (Pattern.isSome_advance (.inl isFound))
    · rcases Nat.eq_or_lt_of_le isLater with isHere | isAfter
      · exact .inl (running.isSome_advanced leads isHere.symm)
      · exact .inr isAfter
  · intro best waiting ⟨running, isFound⟩
    rcases isFound with isFound | isLater
    · exact Pattern.isSome_advance (.inl isFound)
    · exact running.isSome_advanced leads (Nat.le_antisymm isInside isLater)

end Program

/-! ## Expressions -/

/-- What is found for an expression is one of its matches. -/
theorem reads_of_find
    {expr : Expr}
    {text : List Char}
    {found : Match}
    (isFound : (ofExpr expr).find text = some found) :
    found.start ≤ text.length ∧
      expr.Reads text ⟨found.start, expr.blank⟩ ⟨found.stop, found.slots⟩ := by
  have finds : (Program.ofExpr expr).Finds text found := Program.finds_of_find isFound
  exact ⟨finds.start_le, Program.leads_ofExpr.mp finds.leads⟩

/-- A match is found just if the expression matches somewhere in the text. -/
theorem isMatch_ofExpr_iff {expr : Expr} {text : List Char} :
    (ofExpr expr).isMatch text = true ↔
      ∃ start stop, start ≤ text.length ∧ expr.Matches text start stop := by
  constructor
  · intro isMatch
    obtain ⟨found, isFound⟩ := Option.isSome_iff_exists.mp isMatch
    obtain ⟨inside, reads⟩ := reads_of_find isFound
    exact ⟨found.start, found.stop, inside, found.slots, reads⟩
  · rintro ⟨start, stop, inside, slots, reads⟩
    have leads := Program.leads_ofExpr.mpr reads
    exact Program.isSome_find leads (reads.position_le inside)

end Untrack.Pattern
