import Untrack.Proofs.Pattern.Leftmost

namespace Untrack.Pattern

open Relation (ReflTransGen)
open Untrack.Text (CharSet)

/-!
# Runs at the end of a match

A pattern can end with a set that is repeated greedily. Its program then comes to its
end by one fork alone, which prefers to read on. So whenever a thread has come to its
end, a thread that reads on is preferred to it, and a match that is found goes as far as
there are characters of the set.
-/

/-- The instructions that an instruction leads to. -/
def Instruction.targets : Instruction → List Nat
  | .consume _ next | .mark _ next | .require _ next => [next]
  | .fork first second => [first, second]
  | .accept => []

/-- A thread goes on where its instruction leads. -/
theorem Thread.index_onward
    {code : Code}
    {place : Place}
    {thread next : Thread}
    (member : next ∈ thread.onward code place) :
    ∃ instruction,
      code[thread.index]? = some instruction ∧ next.index ∈ instruction.targets := by
  unfold Thread.onward at member
  split at member
  case h_1 first second isThere =>
    refine ⟨_, isThere, ?_⟩
    simp only [List.mem_cons, List.not_mem_nil, or_false] at member
    rcases member with rfl | rfl <;> simp [Instruction.targets]
  case h_2 slot following isThere =>
    obtain rfl := List.mem_singleton.mp member
    exact ⟨_, isThere, List.mem_singleton_self _⟩
  case h_3 required following isThere =>
    split at member
    · obtain rfl := List.mem_singleton.mp member
      exact ⟨_, isThere, List.mem_singleton_self _⟩
    · cases member
  case h_4 =>
    cases member

/--
The program ends with a loop over a set: it accepts at `stop` alone, and nothing leads
there but a fork at `loop`, which prefers to read one more character at `reading`.
-/
structure Program.EndsInRun
    (program : Program)
    (characters : CharSet)
    (loop reading stop : Nat) :
    Prop where
  isFork : program.code[loop]? = some (.fork reading stop)
  isReading : program.code[reading]? = some (.consume characters loop)
  isStop : program.code[stop]? = some .accept
  accepts_only : ∀ index, program.code[index]? = some .accept → index = stop
  leads_only :
    ∀ index instruction,
      program.code[index]? = some instruction →
      stop ∈ instruction.targets →
      index = loop
  start_ne : program.start ≠ stop

/-! ## Which threads are preferred -/

/-- After each thread at `stop` in the list there is one at `reading`. -/
def Guarded (reading stop : Nat) : List Thread → Prop
  | [] => True
  | thread :: rest =>
      (thread.index = stop → ∃ guard ∈ rest, guard.index = reading) ∧
        Guarded reading stop rest

/-- A thread at `reading` comes before each thread at `stop`, or has come already. -/
def Heralded (reading stop : Nat) : (hasCome : Prop) → List Thread → Prop
  | _, [] => True
  | hasCome, thread :: rest =>
      (thread.index = stop → hasCome) ∧
        Heralded reading stop (hasCome ∨ thread.index = reading) rest

/-- A thread at `stop` has one at `reading` after it. -/
theorem Guarded.exists_guard
    {reading stop : Nat}
    {front back : List Thread}
    {thread : Thread}
    (guarded : Guarded reading stop (front ++ thread :: back))
    (isAt : thread.index = stop) :
    ∃ guard ∈ back, guard.index = reading := by
  induction front with
  | nil =>
      exact guarded.1 isAt
  | cons first rest inductionHypothesis =>
      exact inductionHypothesis guarded.2

namespace Heralded

variable {reading stop : Nat} {hasCome comes : Prop} {threads front : List Thread}

/-- What has come once has come. -/
theorem mono
    (heralded : Heralded reading stop hasCome threads)
    (goesOn : hasCome → comes) :
    Heralded reading stop comes threads := by
  induction threads generalizing hasCome comes with
  | nil =>
      trivial
  | cons thread rest inductionHypothesis =>
      exact
        ⟨fun isAt => goesOn (heralded.1 isAt),
          inductionHypothesis heralded.2 (Or.imp_left goesOn)⟩

/-- Threads elsewhere need no herald. -/
theorem append
    (heralded : Heralded reading stop hasCome threads)
    (isElsewhere : ∀ thread ∈ front, thread.index ≠ stop) :
    Heralded reading stop hasCome (front ++ threads) := by
  induction front generalizing hasCome with
  | nil =>
      exact heralded
  | cons thread rest inductionHypothesis =>
      obtain ⟨notHere, notLater⟩ := List.forall_mem_cons.mp isElsewhere
      exact ⟨fun isAt => absurd isAt notHere, inductionHypothesis (heralded.mono .inl) notLater⟩

end Heralded

namespace Program.EndsInRun

variable {program : Program} {characters : CharSet} {loop reading stop : Nat}
variable {text : List Char} {position : Nat} {waiting : Waiting}

/-- The fork that ends the loop sends a herald before the thread that comes to the end. -/
theorem heralded_onward
    {pending : List Thread}
    {thread : Thread}
    (ends : program.EndsInRun characters loop reading stop)
    (isFree : ¬waiting.Has thread.index)
    (heralded : Heralded reading stop (waiting.Has reading) (thread :: pending)) :
    Heralded reading stop ((waiting.take program.code thread).Has reading)
      (thread.onward program.code (placeAt text position) ++ pending) := by
  have others :
      Heralded reading stop ((waiting.take program.code thread).Has reading) pending := by
    refine heralded.2.mono fun hasCome => (Waiting.has_take isFree).mpr ?_
    exact hasCome.imp_right Eq.symm
  by_cases isLoop : thread.index = loop
  · have isOnward :
        thread.onward program.code (placeAt text position) =
          [{ thread with index := reading }, { thread with index := stop }] := by
      rw [Thread.onward, isLoop, ends.isFork]
    rw [isOnward]
    refine ⟨fun isStop => ?_, fun _ => .inr rfl, others.mono fun hasCome => .inl (.inl hasCome)⟩
    have isReading := ends.isReading
    rw [show reading = stop from isStop, ends.isStop] at isReading
    cases isReading
  · refine others.append fun next member isStop => isLoop ?_
    obtain ⟨instruction, isThere, isTarget⟩ := Thread.index_onward member
    exact ends.leads_only _ _ isThere (isStop ▸ isTarget)

/-- Following heralded threads keeps those that wait guarded. -/
theorem guarded_settle
    {fuel : Nat}
    {pending : List Thread}
    (ends : program.EndsInRun characters loop reading stop)
    (settling : Settling program text position pending waiting)
    (heralded : Heralded reading stop (waiting.Has reading) pending)
    (guarded : Guarded reading stop waiting.threads) :
    Guarded reading stop
      (settle program.code (placeAt text position) fuel pending waiting).threads := by
  induction fuel generalizing pending waiting with
  | zero =>
      exact guarded
  | succ fuel inductionHypothesis =>
      cases pending with
      | nil =>
          exact guarded
      | cons thread rest =>
          rw [settle_cons]
          by_cases isTaken : waiting.Has thread.index
          · rw [if_pos isTaken]
            refine inductionHypothesis (settling.drop isTaken) (heralded.2.mono ?_) guarded
            rintro (hasCome | isAt)
            · exact hasCome
            · exact isAt ▸ isTaken
          · rw [if_neg isTaken]
            refine
              inductionHypothesis (settling.follow isTaken)
                (ends.heralded_onward isTaken heralded) ?_
            unfold Waiting.take
            split
            · refine ⟨fun isAt => ?_, guarded⟩
              exact settling.kept _ _ (heralded.1 isAt) ends.isReading rfl
            · exact guarded

/-- A thread that comes to wait from elsewhere keeps those that wait guarded. -/
theorem guarded_enter
    {thread : Thread}
    (ends : program.EndsInRun characters loop reading stop)
    (settling : Settling program text position [] waiting)
    (reached : thread.Reached program text position)
    (isElsewhere : thread.index ≠ stop)
    (guarded : Guarded reading stop waiting.threads) :
    Guarded reading stop
      (enter program.code (placeAt text position) thread waiting).threads :=
  ends.guarded_settle (settling.withThread reached)
    ⟨fun isAt => absurd isAt isElsewhere, trivial⟩ guarded

/-- Threads that read a character are guarded at the next place. -/
theorem guarded_advance
    {threads : List Thread}
    {best : Option Match}
    (ends : program.EndsInRun characters loop reading stop)
    (reached : ∀ thread ∈ threads, thread.Reached program text position)
    (settling : Settling program text (position + 1) [] waiting)
    (guarded : Guarded reading stop waiting.threads) :
    Guarded reading stop
      (advance program.code position text[position]? (placeAt text (position + 1)) threads
        best waiting).2.threads := by
  induction threads generalizing waiting with
  | nil =>
      exact guarded
  | cons thread rest inductionHypothesis =>
      rw [List.forall_mem_cons] at reached
      rcases
        advance_cons program.code position text[position]?
          (placeAt text (position + 1)) thread rest best waiting with
        ⟨_, same⟩ | ⟨_, next, read, isConsume, isThere, reads, same⟩ | ⟨_, _, same⟩
      · rw [same]
        exact guarded
      · have isReached := reached.1.past isConsume isThere reads
        have isElsewhere : next ≠ stop := by
          intro isStop
          have isLoop :=
            ends.leads_only _ _ isConsume (List.mem_singleton.mpr isStop.symm)
          rw [isLoop, ends.isFork] at isConsume
          cases isConsume
        rw [same]
        exact
          inductionHypothesis reached.2 (settling.enter isReached).1
            (ends.guarded_enter settling isReached isElsewhere guarded)
      · rw [same]
        exact inductionHypothesis reached.2 settling guarded

/-- A thread that begins is guarded. -/
theorem guarded_begin
    {best : Option Match}
    (ends : program.EndsInRun characters loop reading stop)
    (inside : position ≤ text.length)
    (settling : Settling program text position [] waiting)
    (guarded : Guarded reading stop waiting.threads) :
    Guarded reading stop
      (program.begin (placeAt text position) best waiting).threads := by
  unfold begin
  split
  · exact guarded
  · exact ends.guarded_enter settling ⟨inside, .refl⟩ ends.start_ne guarded

/-! ## How far a match goes -/

/-- No character of the set stands at a place. -/
def IsPastRun (characters : CharSet) (text : List Char) (position : Nat) : Prop :=
  ∀ character, text[position]? = some character → characters.has character = false

/-- The match that is found goes as far as it can, or a thread has come further. -/
structure Reaches
    (program : Program)
    (text : List Char)
    (characters : CharSet)
    (reading stop position : Nat)
    (best : Option Match)
    (waiting : Waiting) :
    Prop where
  running : Running program text position best waiting
  guarded : Guarded reading stop waiting.threads
  isPast_or_has :
    ∀ found,
      best = some found →
      IsPastRun characters text found.stop ∨ waiting.Has stop

/-- Where a thread has come to its end, its guard goes on if there is a character to read. -/
theorem isPast_or_has_of_accept
    {best : Option Match}
    {front back : List Thread}
    {thread : Thread}
    (ends : program.EndsInRun characters loop reading stop)
    (reaches : Reaches program text characters reading stop position best waiting)
    (isSplit : waiting.threads.reverse = front ++ thread :: back)
    (notBefore : ∀ other ∈ front, program.code[other.index]? ≠ some .accept)
    (isAccept : program.code[thread.index]? = some .accept) :
    IsPastRun characters text position ∨
      (program.advanced text position best waiting).2.Has stop := by
  by_cases isPast : IsPastRun characters text position
  · exact .inl isPast
  refine .inr ?_
  obtain ⟨read, isThere, reads⟩ :
      ∃ read, text[position]? = some read ∧ characters.has read = true := by
    simpa [IsPastRun] using isPast
  obtain ⟨guard, member, isGuard⟩ : ∃ guard ∈ front, guard.index = reading := by
    have guarded := reaches.guarded
    rw [← List.reverse_reverse waiting.threads, isSplit, List.reverse_append,
      List.reverse_cons, List.append_assoc, List.singleton_append] at guarded
    simpa using guarded.exists_guard (ends.accepts_only _ isAccept)
  have reached : ∀ other ∈ front, other.Reached program text position :=
    fun other member =>
      reaches.running.settling.reached_reverse other (by simp [isSplit, member])
  obtain ⟨settled, -, readsOn⟩ := settling_advance none reached .none
  rw [fst_advance_of_none notBefore] at readsOn
  have hasLoop :=
    readsOn.resolve_left nofun guard member characters loop read
      (isGuard ▸ ends.isReading) isThere reads
  have moves : Moves program.code text (position + 1) loop stop :=
    ⟨⟨position + 1, []⟩, ⟨position + 1, []⟩, rfl, rfl, _, ends.isFork, .inr rfl, rfl⟩
  rw [Program.advanced, isSplit, advance_of_accept notBefore isAccept]
  exact (settled.closed _ _ hasLoop moves).resolve_right (by simp)

/-- What is found at a place goes as far as it can, or a thread comes further. -/
theorem isPast_or_has_advanced
    {best : Option Match}
    (ends : program.EndsInRun characters loop reading stop)
    (reaches : Reaches program text characters reading stop position best waiting) :
    let advanced := program.advanced text position best waiting
    ∀ found,
      advanced.1 = some found →
      IsPastRun characters text found.stop ∨
        found.stop = position ∧ advanced.2.Has stop := by
  intro advanced found isFound
  rcases accepts_or_none program.code waiting.threads.reverse with accepts | noneAccepts
  · obtain ⟨front, thread, back, isSplit, notBefore, isAccept⟩ := exists_first_accept accepts
    have isHere : found.stop = position := by
      simp only [advanced, Program.advanced] at isFound
      rw [isSplit, advance_of_accept notBefore isAccept] at isFound
      cases isFound
      rfl
    rw [isHere]
    exact
      (ends.isPast_or_has_of_accept reaches isSplit notBefore isAccept).imp_right (⟨rfl, ·⟩)
  · have isBest : best = some found := by
      rw [← isFound]
      exact (fst_advance_of_none noneAccepts).symm
    refine (reaches.isPast_or_has found isBest).imp_right fun isHeld => ?_
    obtain ⟨thread, member, isAt⟩ :=
      reaches.running.settling.kept _ _ isHeld ends.isStop rfl
    exact
      absurd (isAt ▸ ends.isStop) (noneAccepts thread (List.mem_reverse.mpr member))

/-- A match of a program that ends in a run goes on up to where the run ends. -/
theorem isPastRun_of_find
    {found : Match}
    (ends : program.EndsInRun characters loop reading stop)
    (isFound : program.find text = some found) :
    IsPastRun characters text found.stop := by
  refine find_keeps (Reaches program text characters reading stop)
    (fun best => ∀ found, best = some found → IsPastRun characters text found.stop)
    ⟨running_start, ends.guarded_begin (Nat.zero_le _) .none trivial, nofun⟩ ?_ ?_
    found isFound
  · intro position best waiting inside reaches advanced
    have running := reaches.running
    have reached := running.settling.reached_reverse
    obtain ⟨settled, -⟩ := settling_advance best reached .none
    have guarded : Guarded reading stop advanced.2.threads :=
      ends.guarded_advance reached .none trivial
    refine ⟨running.next inside, ends.guarded_begin inside settled guarded, ?_⟩
    intro found isFound
    rw [begin, if_pos (by rw [isFound]; rfl)]
    exact (ends.isPast_or_has_advanced reaches found isFound).imp_right And.right
  · intro best waiting reaches found isFound
    rcases ends.isPast_or_has_advanced reaches found isFound with isPast | ⟨isEnd, -⟩
    · exact isPast
    · intro character isThere
      rw [isEnd, List.getElem?_eq_none (Nat.le_refl _)] at isThere
      cases isThere

end Program.EndsInRun

end Untrack.Pattern
