import Untrack.Proofs.Pattern.Search

namespace Untrack.Pattern

open Relation (ReflTransGen)

/-!
# The leftmost match

Threads that wait stand in the order of preference, and new ones begin behind those
that are there already. So the threads that began up to some place go on as if no
later ones had begun: what they miss has been taken by one of themselves. A match that
is found begins no later than any other match.
-/

/-! ## Threads in their order -/

/-- Threads that began at certain places have come to wait, before those that wait. -/
def Grows (begun : Nat → Prop) (waiting grown : Waiting) : Prop :=
  ∃ added,
    grown.threads = added ++ waiting.threads ∧ ∀ thread ∈ added, begun thread.start

namespace Grows

variable {begun : Nat → Prop} {waiting grown further : Waiting}

/-- No thread has come to wait. -/
theorem refl (begun : Nat → Prop) (waiting : Waiting) : Grows begun waiting waiting :=
  ⟨[], rfl, nofun⟩

/-- Threads have come to wait twice. -/
theorem trans
    (grows : Grows begun waiting grown)
    (growsOn : Grows begun grown further) :
    Grows begun waiting further := by
  obtain ⟨added, isGrown, areBegun⟩ := grows
  obtain ⟨later, isFurther, areLater⟩ := growsOn
  refine ⟨later ++ added, by rw [isFurther, isGrown, List.append_assoc], ?_⟩
  exact List.forall_mem_append.mpr ⟨areLater, areBegun⟩

/-- The threads that waited before wait behind the new ones. -/
theorem suffix (grows : Grows begun waiting grown) : waiting.threads <:+ grown.threads := by
  obtain ⟨added, isGrown, -⟩ := grows
  exact ⟨added, isGrown.symm⟩

/-- All threads that wait began at such places if those before did. -/
theorem forall_mem
    (grows : Grows begun waiting grown)
    (were : ∀ thread ∈ waiting.threads, begun thread.start) :
    ∀ thread ∈ grown.threads, begun thread.start := by
  obtain ⟨added, isGrown, areBegun⟩ := grows
  rw [isGrown]
  exact List.forall_mem_append.mpr ⟨areBegun, were⟩

end Grows

/-- A thread goes on as one that began where it did. -/
theorem Thread.start_onward
    {code : Code}
    {place : Place}
    {thread next : Thread}
    (member : next ∈ thread.onward code place) :
    next.start = thread.start := by
  unfold Thread.onward at member
  split at member
  · simp only [List.mem_cons, List.not_mem_nil, or_false] at member
    rcases member with rfl | rfl <;> rfl
  · rw [List.mem_singleton.mp member]
  · split at member
    · rw [List.mem_singleton.mp member]
    · cases member
  · cases member

/-- A path never leads back. -/
theorem position_le_of_path
    {code : Code}
    {text : List Char}
    {here there : Nat × Cursor}
    (path : ReflTransGen (Step code text) here there) :
    here.2.position ≤ there.2.position := by
  induction path with
  | refl =>
      exact Nat.le_refl _
  | tail _ isStep inductionHypothesis =>
      rcases isStep.stays_or_reads with isSame | ⟨_, _, _, _, _, isNext⟩ <;> omega

/-- Threads that are followed come to wait before those that wait. -/
theorem grows_settle
    {begun : Nat → Prop}
    {code : Code}
    {place : Place}
    {fuel : Nat}
    {pending : List Thread}
    {waiting : Waiting}
    (areBegun : ∀ thread ∈ pending, begun thread.start) :
    Grows begun waiting (settle code place fuel pending waiting) := by
  induction fuel generalizing pending waiting with
  | zero =>
      exact .refl _ _
  | succ fuel inductionHypothesis =>
      cases pending with
      | nil =>
          exact .refl _ _
      | cons thread rest =>
          obtain ⟨isBegun, areOthers⟩ := List.forall_mem_cons.mp areBegun
          rw [settle_cons]
          split
          · exact inductionHypothesis areOthers
          · have isTaken : Grows begun waiting (waiting.take code thread) := by
              unfold Waiting.take
              split
              · exact ⟨[thread], rfl, List.forall_mem_singleton.mpr isBegun⟩
              · exact ⟨[], rfl, nofun⟩
            refine isTaken.trans (inductionHypothesis (List.forall_mem_append.mpr ⟨?_, areOthers⟩))
            exact fun next member => Thread.start_onward member ▸ isBegun

/-- Threads that read a character come to wait before those that wait. -/
theorem grows_advance
    {begun : Nat → Prop}
    {code : Code}
    {position : Nat}
    {character : Option Char}
    {place : Place}
    {threads : List Thread}
    {best : Option Match}
    {waiting : Waiting}
    (areBegun : ∀ thread ∈ threads, begun thread.start) :
    Grows begun waiting (advance code position character place threads best waiting).2 := by
  induction threads generalizing waiting with
  | nil =>
      exact .refl _ _
  | cons thread rest inductionHypothesis =>
      obtain ⟨isBegun, areOthers⟩ := List.forall_mem_cons.mp areBegun
      rcases advance_cons code position character place thread rest best waiting with
        ⟨_, same⟩ | ⟨_, next, _, _, _, _, same⟩ | ⟨_, _, same⟩
      · rw [same]
        exact .refl _ _
      · have entered : Grows begun waiting (enter code place { thread with index := next } waiting) :=
          grows_settle (List.forall_mem_singleton.mpr isBegun)
        rw [same]
        exact entered.trans (inductionHypothesis areOthers)
      · rw [same]
        exact inductionHypothesis areOthers

/-- Threads that wait go on waiting behind those that read a character. -/
theorem suffix_advance
    {code : Code}
    {position : Nat}
    {character : Option Char}
    {place : Place}
    {threads : List Thread}
    {best : Option Match}
    {waiting : Waiting} :
    waiting.threads <:+
      (advance code position character place threads best waiting).2.threads := by
  have grows :
      Grows (fun _ => True) waiting
        (advance code position character place threads best waiting).2 :=
    grows_advance fun _ _ => trivial
  exact grows.suffix

/-- From threads that began early, threads come on that began early. -/
theorem start_le_advance
    {last : Nat}
    {code : Code}
    {position : Nat}
    {character : Option Char}
    {place : Place}
    {threads : List Thread}
    {best : Option Match}
    {size : Nat}
    (areEarly : ∀ thread ∈ threads, thread.start ≤ last) :
    ∀ thread ∈
        (advance code position character place threads best (Waiting.none size)).2.threads,
      thread.start ≤ last := by
  have grows :
      Grows (· ≤ last) (Waiting.none size)
        (advance code position character place threads best (Waiting.none size)).2 :=
    grows_advance areEarly
  exact grows.forall_mem nofun

/-- Where none of the first threads has come to its end, the others go on after them. -/
theorem advance_append
    {code : Code}
    {position : Nat}
    {character : Option Char}
    {place : Place}
    {front back : List Thread}
    {best : Option Match}
    {waiting : Waiting}
    (noneAccepts : ∀ thread ∈ front, code[thread.index]? ≠ some .accept) :
    advance code position character place (front ++ back) best waiting =
      advance code position character place back best
        (advance code position character place front none waiting).2 := by
  induction front generalizing waiting with
  | nil =>
      rfl
  | cons thread rest inductionHypothesis =>
      obtain ⟨notHere, notLater⟩ := List.forall_mem_cons.mp noneAccepts
      obtain ⟨read, reads⟩ := exists_advance_cons notHere position character place
      rw [List.cons_append, reads, reads]
      exact inductionHypothesis notLater

/-- A place has its match from before where no thread has come to its end. -/
theorem fst_advance_of_none
    {code : Code}
    {position : Nat}
    {character : Option Char}
    {place : Place}
    {threads : List Thread}
    {best : Option Match}
    {waiting : Waiting}
    (noneAccepts : ∀ thread ∈ threads, code[thread.index]? ≠ some .accept) :
    (advance code position character place threads best waiting).1 = best := by
  rw [← List.append_nil threads, advance_append noneAccepts]
  rfl

/-- Some thread has come to its end, or none has. -/
theorem accepts_or_none (code : Code) (threads : List Thread) :
    (∃ thread ∈ threads, code[thread.index]? = some .accept) ∨
      ∀ thread ∈ threads, code[thread.index]? ≠ some .accept := by
  by_cases accepts : ∃ thread ∈ threads, code[thread.index]? = some .accept
  · exact .inl accepts
  · exact .inr fun thread member isAccept => accepts ⟨thread, member, isAccept⟩

/-- If threads have come to their end, one of them is the first. -/
theorem exists_first_accept
    {code : Code}
    {threads : List Thread}
    (accepts : ∃ thread ∈ threads, code[thread.index]? = some .accept) :
    ∃ front thread back,
      threads = front ++ thread :: back ∧
        (∀ other ∈ front, code[other.index]? ≠ some .accept) ∧
        code[thread.index]? = some .accept := by
  induction threads with
  | nil =>
      obtain ⟨_, member, -⟩ := accepts
      cases member
  | cons first rest inductionHypothesis =>
      by_cases isAccept : code[first.index]? = some .accept
      · exact ⟨[], first, rest, rfl, nofun, isAccept⟩
      · obtain ⟨thread, member, accepts⟩ := accepts
        have inRest : thread ∈ rest := by
          refine (List.mem_cons.mp member).resolve_left ?_
          rintro rfl
          exact isAccept accepts
        obtain ⟨front, thread, back, rfl, notBefore, accepts⟩ :=
          inductionHypothesis ⟨thread, inRest, accepts⟩
        exact
          ⟨first :: front, thread, back, rfl,
            List.forall_mem_cons.mpr ⟨isAccept, notBefore⟩, accepts⟩

/-- The first thread that has come to its end ends the search of all behind it. -/
theorem advance_of_accept
    {code : Code}
    {position : Nat}
    {character : Option Char}
    {place : Place}
    {front back : List Thread}
    {thread : Thread}
    {best : Option Match}
    {waiting : Waiting}
    (notBefore : ∀ other ∈ front, code[other.index]? ≠ some .accept)
    (isAccept : code[thread.index]? = some .accept) :
    advance code position character place (front ++ thread :: back) best waiting =
      (some ⟨thread.start, position, thread.slots⟩,
        (advance code position character place front none waiting).2) := by
  rw [advance_append notBefore]
  simp [advance, isAccept]

namespace Program

variable {program : Program} {text : List Char} {last position : Nat}
variable {best : Option Match} {waiting known : Waiting}

/-! ## Threads that began early -/

/-- As long as there is no match, one more thread may begin to wait. -/
theorem grows_begin (place : Place) :
    Grows (fun _ => True) waiting (program.begin place best waiting) := by
  unfold begin
  split
  · exact .refl _ _
  · exact grows_settle fun _ _ => trivial

/-- The threads that began up to a place, and all that such threads can have come to. -/
structure Knows
    (program : Program)
    (text : List Char)
    (last position : Nat)
    (known : Waiting) :
    Prop where
  settling : Settling program text position [] known
  start_le : ∀ thread ∈ known.threads, thread.start ≤ last
  covers :
    ∀ first here,
      first.position ≤ last →
      ReflTransGen (Step program.code text) (program.start, first) here →
      here.2.position = position →
      known.Has here.1

/-- What is known about the threads that began early is known one place further on. -/
theorem Knows.next
    (knows : program.Knows text last position known)
    (noneAccepts :
      ∀ thread ∈ known.threads.reverse, program.code[thread.index]? ≠ some .accept)
    (isPast : last ≤ position) :
    program.Knows text last (position + 1)
      (advance program.code position text[position]? (placeAt text (position + 1))
        known.threads.reverse none (Waiting.none program.code.size)).2 := by
  obtain ⟨settled, -, reads⟩ := settling_advance none knows.settling.reached_reverse .none
  rw [fst_advance_of_none noneAccepts] at reads
  have areEarly : ∀ thread ∈ known.threads.reverse, thread.start ≤ last :=
    fun thread member => knows.start_le thread (List.mem_reverse.mp member)
  refine ⟨settled, start_le_advance areEarly, fun first there isEarly path => ?_⟩
  refine settled.covers (by omega) (fun here there path isStep isBefore isThere => ?_) path
  have isHere : here.2.position = position := Nat.succ.inj isBefore
  exact
    knows.settling.arrives (reads.resolve_left nofun) isStep isHere isThere
      (knows.covers first here isEarly path isHere)

/-- A match that begins early is found, and only such a match can take its place. -/
structure FoundBy (last : Nat) (best : Option Match) (waiting : Waiting) : Prop where
  exists_found : ∃ found, best = some found ∧ found.start ≤ last
  start_le : ∀ thread ∈ waiting.threads, thread.start ≤ last

/-- Where a thread that began early has come to its end, an early match is found. -/
theorem foundBy_of_accept
    {code : Code}
    {character : Option Char}
    {place : Place}
    {early back : List Thread}
    {size : Nat}
    (areEarly : ∀ thread ∈ early, thread.start ≤ last)
    (accepts : ∃ thread ∈ early, code[thread.index]? = some .accept) :
    let advanced :=
      advance code position character place (early ++ back) best (Waiting.none size)
    FoundBy last advanced.1 advanced.2 := by
  obtain ⟨front, thread, rest, rfl, notBefore, isAccept⟩ := exists_first_accept accepts
  rw [List.append_assoc, List.cons_append, advance_of_accept notBefore isAccept]
  rw [List.forall_mem_append, List.forall_mem_cons] at areEarly
  exact ⟨⟨_, rfl, areEarly.2.1⟩, start_le_advance areEarly.1⟩

/-- Once an early match is found, no thread begins any more. -/
theorem FoundBy.begin
    (foundBy : FoundBy last best waiting)
    (place : Place) :
    FoundBy last best (program.begin place best waiting) := by
  obtain ⟨⟨found, rfl, isEarly⟩, areEarly⟩ := foundBy
  exact ⟨⟨found, rfl, isEarly⟩, areEarly⟩

/-- An early match that is found is replaced by early ones alone. -/
theorem FoundBy.advanced (foundBy : FoundBy last best waiting) :
    let advanced := program.advanced text position best waiting
    FoundBy last advanced.1 advanced.2 := by
  have areEarly : ∀ thread ∈ waiting.threads.reverse, thread.start ≤ last :=
    fun thread member => foundBy.start_le thread (List.mem_reverse.mp member)
  rcases accepts_or_none program.code waiting.threads.reverse with accepts | noneAccepts
  · rw [Program.advanced, ← List.append_nil waiting.threads.reverse]
    exact foundBy_of_accept areEarly accepts
  · refine ⟨?_, start_le_advance areEarly⟩
    rw [Program.advanced, fst_advance_of_none noneAccepts]
    exact foundBy.exists_found

/-! ## Early matches are found -/

/-- No early match is found, and whatever can become one has a thread of its own. -/
inductive Awaits
    (program : Program)
    (text : List Char)
    (last position : Nat) :
    Option Match → Waiting → Prop where
  /-- Nothing is found yet, and early matches can still begin. -/
  | begins {waiting : Waiting} :
      position ≤ last →
      Awaits program text last position none waiting
  /-- All early matches have begun. -/
  | goesOn {best : Option Match} {waiting known : Waiting} :
      last < position →
      program.Knows text last position known →
      known.threads <:+ waiting.threads →
      Awaits program text last position best waiting

/-- What waits before anything is found is known of all matches that can have begun. -/
theorem Running.knows
    (running : Running program text position none waiting)
    (isBefore : position ≤ last) :
    program.Knows text last position waiting where
  settling := running.settling
  start_le thread member := by
    have isReached := running.settling.reached thread member
    exact Nat.le_trans (position_le_of_path isReached.path) isBefore
  covers first here _ path isHere := running.covers rfl first here path isHere

/-- Where an early thread has come to its end, an early match is found. -/
theorem Knows.foundBy
    (knows : program.Knows text last position known)
    (isSuffix : known.threads <:+ waiting.threads)
    (accepts :
      ∃ thread ∈ known.threads.reverse, program.code[thread.index]? = some .accept) :
    let advanced := program.advanced text position best waiting
    FoundBy last advanced.1 advanced.2 := by
  obtain ⟨others, isWaiting⟩ := isSuffix
  rw [Program.advanced, ← isWaiting, List.reverse_append]
  exact
    foundBy_of_accept (fun thread member => knows.start_le thread (List.mem_reverse.mp member))
      accepts

/-- Where no early thread has come to its end, the early threads go on. -/
theorem Knows.awaits
    (knows : program.Knows text last position known)
    (isSuffix : known.threads <:+ waiting.threads)
    (noneAccepts :
      ∀ thread ∈ known.threads.reverse, program.code[thread.index]? ≠ some .accept)
    (isPast : last ≤ position) :
    let advanced := program.advanced text position best waiting
    program.Awaits text last (position + 1) advanced.1
      (program.begin (placeAt text (position + 1)) advanced.1 advanced.2) := by
  intro advanced
  refine .goesOn (Nat.lt_succ_of_le isPast) (knows.next noneAccepts isPast) ?_
  refine List.IsSuffix.trans ?_ (grows_begin _).suffix
  obtain ⟨others, isWaiting⟩ := isSuffix
  simp only [advanced, Program.advanced]
  rw [← isWaiting, List.reverse_append, advance_append noneAccepts]
  exact suffix_advance

/-- One place further on, an early match has been found or is awaited still. -/
theorem Awaits.next
    (awaits : program.Awaits text last position best waiting)
    (running : Running program text position best waiting) :
    let advanced := program.advanced text position best waiting
    FoundBy last advanced.1 advanced.2 ∨
      program.Awaits text last (position + 1) advanced.1
        (program.begin (placeAt text (position + 1)) advanced.1 advanced.2) := by
  intro advanced
  cases awaits with
  | begins isBefore =>
      have knows := running.knows isBefore
      rcases accepts_or_none program.code waiting.threads.reverse with accepts | noneAccepts
      · exact .inl (knows.foundBy List.suffix_rfl accepts)
      · right
        rcases Nat.lt_or_eq_of_le isBefore with isLess | isLast
        · have isNone : advanced.1 = none := fst_advance_of_none noneAccepts
          rw [isNone]
          exact .begins isLess
        · exact knows.awaits List.suffix_rfl noneAccepts (Nat.le_of_eq isLast.symm)
  | @goesOn _ _ known isPast knows isSuffix =>
      rcases accepts_or_none program.code known.threads.reverse with accepts | noneAccepts
      · exact .inl (knows.foundBy isSuffix accepts)
      · exact .inr (knows.awaits isSuffix noneAccepts (Nat.le_of_lt isPast))

/-- Where an early match ends, one of the early threads has come to its end. -/
theorem Knows.exists_accept
    {first stop : Cursor}
    (knows : program.Knows text last position known)
    (leads : program.Leads text first stop)
    (isEarly : first.position ≤ last)
    (isHere : stop.position = position) :
    ∃ thread ∈ known.threads.reverse, program.code[thread.index]? = some .accept := by
  obtain ⟨index, path, isAccept⟩ := leads
  have isHeld : known.Has index := knows.covers first _ isEarly path isHere
  obtain ⟨thread, member, isAt⟩ := knows.settling.kept _ _ isHeld isAccept rfl
  exact ⟨thread, List.mem_reverse.mpr member, isAt ▸ isAccept⟩

/-- An early match that ends at a place is found there. -/
theorem Awaits.foundBy
    {first stop : Cursor}
    (awaits : program.Awaits text last position best waiting)
    (running : Running program text position best waiting)
    (leads : program.Leads text first stop)
    (isEarly : first.position ≤ last)
    (isHere : stop.position = position) :
    let advanced := program.advanced text position best waiting
    FoundBy last advanced.1 advanced.2 := by
  cases awaits with
  | begins isBefore =>
      have knows := running.knows isBefore
      exact knows.foundBy List.suffix_rfl (knows.exists_accept leads isEarly isHere)
  | goesOn _ knows isSuffix =>
      exact knows.foundBy isSuffix (knows.exists_accept leads isEarly isHere)

/-- What a search finds begins no later than any match of the program. -/
theorem start_le_of_find
    {found : Match}
    {first stop : Cursor}
    (isFound : program.find text = some found)
    (leads : program.Leads text first stop)
    (isInside : stop.position ≤ text.length) :
    found.start ≤ first.position := by
  -- An early match is found already, or it is awaited and this one ends further on.
  let Keeps (position : Nat) (best : Option Match) (waiting : Waiting) : Prop :=
    Running program text position best waiting ∧
      (FoundBy first.position best waiting ∨
        program.Awaits text first.position position best waiting ∧
          position ≤ stop.position)
  have ends (best : Option Match) (waiting : Waiting)
      (foundBy : FoundBy first.position best waiting) :
      ∀ found, best = some found → found.start ≤ first.position := by
    obtain ⟨⟨other, rfl, isEarly⟩, -⟩ := foundBy
    rintro found ⟨⟩
    exact isEarly
  refine find_keeps Keeps (fun best => ∀ found, best = some found → found.start ≤ first.position)
    ⟨running_start, .inr ⟨.begins (Nat.zero_le _), Nat.zero_le _⟩⟩ ?_ ?_ found isFound
  · rintro position best waiting inside ⟨running, foundBy | ⟨awaits, isLater⟩⟩
    · exact ⟨running.next inside, .inl (foundBy.advanced.begin _)⟩
    · refine ⟨running.next inside, ?_⟩
      rcases Nat.eq_or_lt_of_le isLater with isHere | isAfter
      · exact .inl ((awaits.foundBy running leads (Nat.le_refl _) isHere.symm).begin _)
      · exact (awaits.next running).imp (·.begin _) fun goesOn => ⟨goesOn, isAfter⟩
  · rintro best waiting ⟨running, foundBy | ⟨awaits, isLater⟩⟩
    · exact ends _ _ foundBy.advanced
    · have isHere : stop.position = text.length := Nat.le_antisymm isInside isLater
      exact ends _ _ (awaits.foundBy running leads (Nat.le_refl _) isHere)

end Program

/-- What is found for an expression begins no later than any of its matches. -/
theorem start_le_of_find_ofExpr
    {expr : Expr}
    {text : List Char}
    {found : Match}
    {start stop : Nat}
    (isFound : (ofExpr expr).find text = some found)
    (isMatch : expr.Matches text start stop)
    (inside : start ≤ text.length) :
    found.start ≤ start := by
  obtain ⟨slots, reads⟩ := isMatch
  exact
    Program.start_le_of_find isFound (Program.leads_ofExpr.mpr reads) (reads.position_le inside)

end Untrack.Pattern
