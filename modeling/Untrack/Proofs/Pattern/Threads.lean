import Untrack.Pattern.Search
import Untrack.Proofs.Pattern.Paths

namespace Untrack.Pattern

open Relation (ReflTransGen)

/-!
# Threads at one place

Threads are followed, at one place of a text, to the instructions where they have
to wait. Each of them has come along a path from the beginning of the program. Of
the instructions that are taken, those that lead on without reading lead to taken
ones again, and where a match waits, a thread waits. What a thread has noted does
not count for where it goes, so one thread is enough for each instruction.
-/

/-- The place at a position of a text. -/
def placeAt (text : List Char) (position : Nat) : Place :=
  ⟨position, before? text position, text[position]?⟩

/-- An instruction leads to another without reading on, at a position of a text. -/
def Moves (code : Code) (text : List Char) (position index next : Nat) : Prop :=
  ∃ here there : Cursor,
    here.position = position ∧ there.position = position ∧
      Step code text (index, here) (next, there)

/-- A thread stays at such an instruction until a character is read. -/
def Instruction.waits : Instruction → Bool
  | .consume _ _ | .accept => true
  | .fork _ _ | .mark _ _ | .require _ _ => false

/-- The thread has come along a path to where it stands. -/
structure Thread.Reached
    (program : Program)
    (text : List Char)
    (position : Nat)
    (thread : Thread) :
    Prop where
  start_le : thread.start ≤ text.length
  path :
    ReflTransGen (Step program.code text)
      (program.start,
        ⟨thread.start, List.replicate (2 * program.groups + 2) none⟩)
      (thread.index, ⟨position, thread.slots⟩)

namespace Waiting

/-- The instruction at an index is taken; what is no index counts as taken. -/
def Has (waiting : Waiting) (index : Nat) : Prop :=
  waiting.taken.getD index true = true

instance (waiting : Waiting) (index : Nat) : Decidable (waiting.Has index) :=
  inferInstanceAs (Decidable (_ = true))

/-- How many instructions are still to be taken. -/
def untaken (waiting : Waiting) : Nat :=
  waiting.taken.count false

/-- Take the instruction of a thread, and let the thread wait if it does not move. -/
def take (code : Code) (thread : Thread) (waiting : Waiting) : Waiting where
  threads :=
    if (code[thread.index]?.map Instruction.waits).getD true then
      thread :: waiting.threads
    else
      waiting.threads
  taken := waiting.taken.setIfInBounds thread.index true

end Waiting

/-- The threads that a thread becomes without reading on. -/
def Thread.onward (code : Code) (place : Place) (thread : Thread) : List Thread :=
  match code[thread.index]? with
  | some (.fork first second) =>
      [{ thread with index := first }, { thread with index := second }]
  | some (.mark slot next) =>
      [{ thread with
          index := next
          slots := thread.slots.set slot (some place.position) }]
  | some (.require assertion next) =>
      if assertion.holds place.before place.after then
        [{ thread with index := next }]
      else
        []
  | _ => []

/-! ## One thread -/

/-- One turn drops a thread or takes its instruction and follows it. -/
theorem settle_cons
    (code : Code)
    (place : Place)
    (fuel : Nat)
    (thread : Thread)
    (rest : List Thread)
    (waiting : Waiting) :
    settle code place (fuel + 1) (thread :: rest) waiting =
      if waiting.Has thread.index then
        settle code place fuel rest waiting
      else
        settle code place fuel (thread.onward code place ++ rest)
          (waiting.take code thread) := by
  rw [settle, Thread.onward, Waiting.take]
  by_cases isTaken : waiting.Has thread.index
  · rw [if_pos isTaken]
    exact if_pos isTaken
  · rw [if_neg isTaken]
    refine (if_neg isTaken).trans ?_
    cases code[thread.index]? with
    | none =>
        rfl
    | some instruction =>
        cases instruction with
        | require assertion next =>
            dsimp only
            split <;> rfl
        | _ =>
            rfl

/-- A thread becomes at most two threads. -/
theorem Thread.length_onward_le (code : Code) (place : Place) (thread : Thread) :
    (thread.onward code place).length ≤ 2 := by
  unfold Thread.onward
  split
  · exact Nat.le_refl _
  · exact Nat.le_succ _
  · split
    · exact Nat.le_succ _
    · exact Nat.zero_le _
  · exact Nat.zero_le _

/-- What a thread becomes has come along a path too. -/
theorem Thread.Reached.onward
    {program : Program}
    {text : List Char}
    {position : Nat}
    {thread next : Thread}
    (reached : thread.Reached program text position)
    (member : next ∈ thread.onward program.code (placeAt text position)) :
    next.Reached program text position := by
  unfold Thread.onward at member
  split at member
  case h_1 first second isThere =>
    simp only [List.mem_cons, List.not_mem_nil, or_false] at member
    rcases member with rfl | rfl
    · exact ⟨reached.start_le, reached.path.tail ⟨_, isThere, .inl rfl, rfl⟩⟩
    · exact ⟨reached.start_le, reached.path.tail ⟨_, isThere, .inr rfl, rfl⟩⟩
  case h_2 slot following isThere =>
    obtain rfl := List.mem_singleton.mp member
    exact ⟨reached.start_le, reached.path.tail ⟨_, isThere, rfl, rfl⟩⟩
  case h_3 assertion following isThere =>
    split at member
    case isTrue holds =>
      obtain rfl := List.mem_singleton.mp member
      exact ⟨reached.start_le, reached.path.tail ⟨_, isThere, rfl, holds, rfl⟩⟩
    case isFalse =>
      cases member
  case h_4 =>
    cases member

/-- Wherever an instruction leads without reading on, a thread goes. -/
theorem Thread.exists_onward
    {code : Code}
    {text : List Char}
    {position next : Nat}
    {thread : Thread}
    (moves : Moves code text position thread.index next) :
    ∃ follower ∈ thread.onward code (placeAt text position),
      follower.index = next := by
  obtain ⟨here, there, isHere, isThere, instruction, isInstruction, leads⟩ := moves
  unfold Thread.onward
  rw [isInstruction]
  cases instruction with
  | consume characters following =>
      obtain ⟨-, -, -, -, rfl⟩ := leads
      simp [Cursor.past] at isHere isThere
      omega
  | fork first second =>
      rcases leads.1 with rfl | rfl <;> simp
  | mark slot following =>
      obtain ⟨rfl, -⟩ := leads
      simp
  | require assertion following =>
      obtain ⟨rfl, holds, -⟩ := leads
      simp only [isHere] at holds
      simp [placeAt, holds]
  | accept =>
      exact leads.elim

/-! ## All threads -/

namespace Waiting

/-- An instruction that is not taken. -/
theorem free_iff {waiting : Waiting} {index : Nat} :
    ¬waiting.Has index ↔
      ∃ inBounds : index < waiting.taken.size, waiting.taken[index] = false := by
  rw [Has, Array.getD_eq_getD_getElem?, Array.getD_getElem?]
  by_cases inBounds : index < waiting.taken.size <;> simp [inBounds]

/-- What is taken once a thread's instruction is. -/
theorem has_take
    {code : Code}
    {thread : Thread}
    {waiting : Waiting}
    {index : Nat}
    (isFree : ¬waiting.Has thread.index) :
    (waiting.take code thread).Has index ↔
      waiting.Has index ∨ index = thread.index := by
  obtain ⟨inBounds, -⟩ := free_iff.mp isFree
  simp only [Has, take, Array.getD_eq_getD_getElem?, Array.getElem?_setIfInBounds]
  by_cases isSame : thread.index = index
  · simp [isSame, isSame ▸ inBounds]
  · simp [isSame, Ne.symm isSame]

/-- Taking an instruction leaves one less to be taken. -/
theorem untaken_take
    {code : Code}
    {thread : Thread}
    {waiting : Waiting}
    (isFree : ¬waiting.Has thread.index) :
    (waiting.take code thread).untaken + 1 = waiting.untaken := by
  obtain ⟨inBounds, isFalse⟩ := free_iff.mp isFree
  have isCounted : 0 < waiting.taken.count false :=
    Array.count_pos_iff.mpr (isFalse ▸ Array.getElem_mem inBounds)
  rw [untaken, untaken, take, Array.setIfInBounds, dif_pos inBounds,
    Array.count_set inBounds, isFalse]
  simp only [beq_self_eq_true, if_true]
  rw [if_neg (by decide)]
  omega

/-- At first no instruction of the program is taken. -/
theorem not_has_none
    {code : Code}
    {index : Nat}
    {instruction : Instruction}
    (isHeld : (Waiting.none code.size).Has index) :
    code[index]? ≠ some instruction := by
  intro isThere
  have inBounds := (Array.getElem?_eq_some_iff.mp isThere).1
  exact free_iff.mpr ⟨by simpa [Waiting.none] using inBounds, by simp [Waiting.none]⟩ isHeld

/-- Only the thread itself can begin to wait. -/
theorem mem_threads_take
    {code : Code}
    {thread other : Thread}
    {waiting : Waiting}
    (member : other ∈ (waiting.take code thread).threads) :
    other = thread ∨ other ∈ waiting.threads := by
  rw [take] at member
  split at member
  · exact List.mem_cons.mp member
  · exact .inr member

/-- Threads that wait go on waiting. -/
theorem mem_threads_take_of_mem
    {code : Code}
    {thread other : Thread}
    {waiting : Waiting}
    (member : other ∈ waiting.threads) :
    other ∈ (waiting.take code thread).threads := by
  rw [take]
  split
  · exact List.mem_cons_of_mem _ member
  · exact member

end Waiting

/-- Threads on their way, and those that wait, at one place. -/
structure Settling
    (program : Program)
    (text : List Char)
    (position : Nat)
    (pending : List Thread)
    (waiting : Waiting) :
    Prop where
  size_eq : waiting.taken.size = program.code.size
  /-- Every thread has come along a path. -/
  reached :
    ∀ thread ∈ pending ++ waiting.threads, thread.Reached program text position
  /-- Where a taken instruction leads, a thread is or has been. -/
  closed :
    ∀ index next,
      waiting.Has index →
      Moves program.code text position index next →
      waiting.Has next ∨ ∃ thread ∈ pending, thread.index = next
  /-- A thread waits at each taken instruction that reads or accepts. -/
  kept :
    ∀ index instruction,
      waiting.Has index →
      program.code[index]? = some instruction →
      instruction.waits = true →
      ∃ thread ∈ waiting.threads, thread.index = index

namespace Settling

variable {program : Program} {text : List Char} {position : Nat}
variable {thread : Thread} {pending rest : List Thread} {waiting : Waiting}

/-- A thread at a taken instruction is dropped. -/
theorem drop
    (settling : Settling program text position (thread :: rest) waiting)
    (isTaken : waiting.Has thread.index) :
    Settling program text position rest waiting where
  size_eq := settling.size_eq
  reached other member := settling.reached other (List.mem_cons_of_mem _ member)
  closed index next isHeld moves := by
    rcases settling.closed index next isHeld moves with isNext | ⟨other, member, isAt⟩
    · exact .inl isNext
    · rcases List.mem_cons.mp member with rfl | isRest
      · exact .inl (isAt ▸ isTaken)
      · exact .inr ⟨other, isRest, isAt⟩
  kept := settling.kept

/-- A thread at an instruction that is not taken takes it and goes on. -/
theorem follow
    (settling : Settling program text position (thread :: rest) waiting)
    (isFree : ¬waiting.Has thread.index) :
    Settling program text position
      (thread.onward program.code (placeAt text position) ++ rest)
      (waiting.take program.code thread) where
  size_eq := (Array.size_setIfInBounds ..).trans settling.size_eq
  reached other member := by
    have isReached := settling.reached thread (List.mem_cons_self ..)
    rcases List.mem_append.mp member with isPending | waits
    · rcases List.mem_append.mp isPending with isOnward | isRest
      · exact isReached.onward isOnward
      · exact settling.reached other
          (List.mem_append_left _ (List.mem_cons_of_mem _ isRest))
    · rcases Waiting.mem_threads_take waits with rfl | waited
      · exact isReached
      · exact settling.reached other (List.mem_append_right _ waited)
  closed index next isHeld moves := by
    rcases (Waiting.has_take isFree).mp isHeld with wasHeld | rfl
    · rcases settling.closed index next wasHeld moves with isNext | ⟨other, member, isAt⟩
      · exact .inl ((Waiting.has_take isFree).mpr (.inl isNext))
      · rcases List.mem_cons.mp member with rfl | isRest
        · exact .inl ((Waiting.has_take isFree).mpr (.inr isAt.symm))
        · exact .inr ⟨other, List.mem_append_right _ isRest, isAt⟩
    · obtain ⟨follower, member, isAt⟩ := Thread.exists_onward moves
      exact .inr ⟨follower, List.mem_append_left _ member, isAt⟩
  kept index instruction isHeld isThere waits := by
    rcases (Waiting.has_take isFree).mp isHeld with wasHeld | rfl
    · obtain ⟨other, member, isAt⟩ := settling.kept index instruction wasHeld isThere waits
      exact ⟨other, Waiting.mem_threads_take_of_mem member, isAt⟩
    · exact ⟨thread, by simp [Waiting.take, isThere, waits], rfl⟩

/-- In the end all threads wait, and what was taken or headed for is taken. -/
theorem settle
    {fuel : Nat}
    (settling : Settling program text position pending waiting)
    (isEnough : pending.length + 2 * waiting.untaken ≤ fuel) :
    let settled :=
      Pattern.settle program.code (placeAt text position) fuel pending waiting
    Settling program text position [] settled ∧
      (∀ index, waiting.Has index → settled.Has index) ∧
      ∀ thread ∈ pending, settled.Has thread.index := by
  induction fuel generalizing pending waiting with
  | zero =>
      obtain rfl : pending = [] := List.length_eq_zero_iff.mp (by omega)
      exact ⟨settling, fun _ isHeld => isHeld, nofun⟩
  | succ fuel inductionHypothesis =>
      cases pending with
      | nil =>
          exact ⟨settling, fun _ isHeld => isHeld, nofun⟩
      | cons thread rest =>
          rw [List.length_cons] at isEnough
          rw [settle_cons]
          by_cases isTaken : waiting.Has thread.index
          · rw [if_pos isTaken]
            obtain ⟨settled, stays, arrives⟩ :=
              inductionHypothesis (settling.drop isTaken) (by omega)
            exact ⟨settled, stays, List.forall_mem_cons.mpr ⟨stays _ isTaken, arrives⟩⟩
          · rw [if_neg isTaken]
            have isLess :
                (waiting.take program.code thread).untaken + 1 = waiting.untaken :=
              Waiting.untaken_take isTaken
            have atMostTwo := thread.length_onward_le program.code (placeAt text position)
            obtain ⟨settled, stays, arrives⟩ :=
              inductionHypothesis (settling.follow isTaken)
                (by rw [List.length_append]; omega)
            have isThen (index : Nat) :
                waiting.Has index ∨ index = thread.index →
                  (waiting.take program.code thread).Has index :=
              (Waiting.has_take isTaken).mpr
            refine ⟨settled, fun index isHeld => stays _ (isThen _ (.inl isHeld)), ?_⟩
            rw [List.forall_mem_cons]
            exact
              ⟨stays _ (isThen _ (.inr rfl)),
                fun other member => arrives other (List.mem_append_right _ member)⟩

/-- One more thread sets out. -/
theorem withThread
    (settling : Settling program text position [] waiting)
    (reached : thread.Reached program text position) :
    Settling program text position [thread] waiting where
  size_eq := settling.size_eq
  reached := List.forall_mem_cons.mpr ⟨reached, settling.reached⟩
  closed index next isHeld moves :=
    .inl ((settling.closed index next isHeld moves).resolve_right (by simp))
  kept := settling.kept

/-- One more thread comes to wait. -/
theorem enter
    (settling : Settling program text position [] waiting)
    (reached : thread.Reached program text position) :
    let entered := Pattern.enter program.code (placeAt text position) thread waiting
    Settling program text position [] entered ∧
      (∀ index, waiting.Has index → entered.Has index) ∧
      entered.Has thread.index := by
  have isEnough : 1 + 2 * waiting.untaken ≤ 2 * program.code.size + 1 := by
    have atMost : waiting.untaken ≤ waiting.taken.size := Array.count_le_size
    have := settling.size_eq
    omega
  obtain ⟨settled, stays, arrives⟩ := (settling.withThread reached).settle isEnough
  exact ⟨settled, stays, arrives thread (List.mem_singleton_self thread)⟩

/-- At first no thread waits and nothing is taken. -/
theorem none :
    Settling program text position [] (Waiting.none program.code.size) where
  size_eq := Array.size_replicate
  reached := nofun
  closed index next isHeld moves := by
    obtain ⟨_, _, -, -, instruction, isThere, -⟩ := moves
    exact absurd isThere (Waiting.not_has_none isHeld)
  kept index instruction isHeld isThere :=
    absurd isThere (Waiting.not_has_none isHeld)

end Settling

end Untrack.Pattern
