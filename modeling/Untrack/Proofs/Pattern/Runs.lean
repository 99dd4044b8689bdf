import Untrack.Pattern.Compiled
import Untrack.Proofs.Pattern.Search
import Mathlib.Data.List.Infix

namespace Untrack.Pattern

open Untrack.Text (CharSet)

/-!
# Patterns that read runs of characters

A pattern made of sets reads a run of characters that stands at its cursor: one
character for each set, and any number of them for a repeated one. The run says
all there is to say about such a match, and so a pattern of this kind can be
compared with a function that walks over characters.
-/

/-! ## Runs -/

/-- Past a run of characters. -/
def Cursor.beyond (cursor : Cursor) (run : List Char) : Cursor :=
  { cursor with position := cursor.position + run.length }

/-- The run stands in the text where the cursor is. -/
def Cursor.Sees (cursor : Cursor) (text run : List Char) : Prop :=
  run <+: text.drop cursor.position

/-- Past two runs is past the one run that they make. -/
theorem beyond_beyond (cursor : Cursor) (front back : List Char) :
    (cursor.beyond front).beyond back = cursor.beyond (front ++ back) := by
  simp [Cursor.beyond, Nat.add_assoc]

/-- Two runs that follow each other make one. -/
theorem sees_append_iff
    {cursor : Cursor}
    {text front back : List Char} :
    cursor.Sees text (front ++ back) ↔
      cursor.Sees text front ∧ (cursor.beyond front).Sees text back := by
  unfold Cursor.Sees Cursor.beyond
  rw [← List.drop_drop]
  constructor
  · rintro ⟨rest, isText⟩
    rw [← isText]
    exact ⟨⟨back ++ rest, by simp⟩, ⟨rest, by simp⟩⟩
  · rintro ⟨⟨others, isText⟩, ⟨rest, isRest⟩⟩
    refine ⟨rest, ?_⟩
    rw [← isText] at isRest ⊢
    rw [List.drop_left] at isRest
    rw [List.append_assoc, isRest]

/-- A character and the run after it make one run. -/
theorem sees_cons_iff
    {cursor : Cursor}
    {text rest : List Char}
    {character : Char} :
    cursor.Sees text (character :: rest) ↔
      cursor.Sees text [character] ∧ (cursor.beyond [character]).Sees text rest :=
  @sees_append_iff cursor text [character] rest

/-- A run of one character is the character at the cursor. -/
theorem sees_singleton_iff
    {cursor : Cursor}
    {text : List Char}
    {character : Char} :
    cursor.Sees text [character] ↔ text[cursor.position]? = some character := by
  unfold Cursor.Sees
  rw [← List.head?_drop]
  cases text.drop cursor.position with
  | nil =>
      simp
  | cons first rest =>
      simp [eq_comm]

/-- A run stands somewhere in a text just if what is left from some place begins with it. -/
theorem infix_iff_prefix_drop {text run : List Char} :
    run <:+: text ↔ ∃ start ≤ text.length, run <+: text.drop start := by
  rw [List.infix_iff_prefix_suffix]
  constructor
  · rintro ⟨later, isPrefix, ⟨front, rfl⟩⟩
    refine ⟨front.length, by simp, ?_⟩
    rwa [List.drop_left]
  · rintro ⟨start, -, isPrefix⟩
    exact ⟨_, isPrefix, List.drop_suffix start text⟩

/-! ## Sets -/

/-- A set reads one of its characters. -/
theorem reads_set_iff
    {text : List Char}
    {characters : CharSet}
    {first last : Cursor} :
    (Expr.set characters).Reads text first last ↔
      ∃ character,
        first.Sees text [character] ∧
          characters.has character = true ∧ last = first.beyond [character] := by
  simp only [sees_singleton_iff]
  rfl

/-- A chain of readings by a set reads a run of its characters. -/
theorem times_set_iff
    {text : List Char}
    {characters : CharSet}
    {count : Nat}
    {first last : Cursor} :
    Times (fun first last => (Expr.set characters).Reads text first last) count first last ↔
      ∃ run,
        run.length = count ∧
          first.Sees text run ∧
          (∀ character ∈ run, characters.has character = true) ∧
          last = first.beyond run := by
  induction count generalizing first with
  | zero =>
      constructor
      · intro isFirst
        exact ⟨[], rfl, List.nil_prefix, by simp, isFirst⟩
      · rintro ⟨run, isEmpty, -, -, isLast⟩
        rw [List.length_eq_zero_iff.mp isEmpty] at isLast
        exact isLast
  | succ count inductionHypothesis =>
      rw [Times]
      constructor
      · rintro ⟨next, reads, chain⟩
        obtain ⟨character, here, inSet, rfl⟩ := reads_set_iff.mp reads
        obtain ⟨run, rfl, there, othersIn, rfl⟩ := inductionHypothesis.mp chain
        exact
          ⟨character :: run, rfl, sees_cons_iff.mpr ⟨here, there⟩,
            List.forall_mem_cons.mpr ⟨inSet, othersIn⟩, beyond_beyond _ [character] run⟩
      · rintro ⟨run, isLong, sees, allIn, rfl⟩
        obtain ⟨character, rest, rfl⟩ := List.exists_cons_of_length_eq_add_one isLong
        obtain ⟨here, there⟩ := sees_cons_iff.mp sees
        obtain ⟨inSet, othersIn⟩ := List.forall_mem_cons.mp allIn
        refine
          ⟨_, reads_set_iff.mpr ⟨character, here, inSet, rfl⟩,
            inductionHypothesis.mpr
              ⟨rest, Nat.succ.inj isLong, there, othersIn, ?_⟩⟩
        exact (beyond_beyond _ [character] rest).symm

/-- A repeated set reads a run of its characters. -/
theorem reads_repeated_set_iff
    {text : List Char}
    {characters : CharSet}
    {least : Nat}
    {most : Option Nat}
    {greedy : Bool}
    {first last : Cursor} :
    (Expr.repeated least most greedy (.set characters)).Reads text first last ↔
      ∃ run,
        (least ≤ run.length ∧ ∀ limit, most = some limit → run.length ≤ max least limit) ∧
          first.Sees text run ∧
          (∀ character ∈ run, characters.has character = true) ∧
          last = first.beyond run := by
  rw [Expr.Reads]
  constructor
  · rintro ⟨_, enough, few, chain⟩
    obtain ⟨run, rfl, reads⟩ := times_set_iff.mp chain
    exact ⟨run, ⟨enough, few⟩, reads⟩
  · rintro ⟨run, ⟨enough, few⟩, reads⟩
    exact ⟨run.length, enough, few, times_set_iff.mpr ⟨run, rfl, reads⟩⟩

/-! ## Signs -/

/-- One certain character. -/
def Expr.sign (character : Char) : Expr :=
  .set (CharSet.single character.toNat)

/-- The set of one character has no other. -/
theorem has_single_iff {sign character : Char} :
    (CharSet.single sign.toNat).has character = true ↔ character = sign := by
  simp only [CharSet.single, CharSet.has, CharSet.hasCode, Text.CharRange.has, List.any_cons,
    List.any_nil, Bool.or_false, Bool.and_eq_true, decide_eq_true_eq]
  constructor
  · rintro ⟨low, high⟩
    exact Char.toNat_inj.mp (Nat.le_antisymm high low)
  · rintro rfl
    exact ⟨Nat.le_refl _, Nat.le_refl _⟩

/-- A sign reads itself. -/
theorem reads_sign_iff
    {text : List Char}
    {character : Char}
    {first last : Cursor} :
    (Expr.sign character).Reads text first last ↔
      first.Sees text [character] ∧ last = first.beyond [character] := by
  rw [Expr.sign, reads_set_iff]
  constructor
  · rintro ⟨other, here, isSign, rfl⟩
    rw [has_single_iff] at isSign
    exact ⟨isSign ▸ here, isSign ▸ rfl⟩
  · rintro ⟨here, rfl⟩
    exact ⟨character, here, has_single_iff.mpr rfl, rfl⟩

/-- Signs one after another read the run that they make. -/
theorem readsAll_signs_iff
    {text run : List Char}
    {first last : Cursor} :
    ReadsAll text (run.map Expr.sign) first last ↔
      first.Sees text run ∧ last = first.beyond run := by
  induction run generalizing first with
  | nil =>
      exact (and_iff_right List.nil_prefix).symm
  | cons character rest inductionHypothesis =>
      rw [List.map_cons, ReadsAll, sees_cons_iff]
      constructor
      · rintro ⟨_, signReads, othersRead⟩
        obtain ⟨here, rfl⟩ := reads_sign_iff.mp signReads
        obtain ⟨there, rfl⟩ := inductionHypothesis.mp othersRead
        exact ⟨⟨here, there⟩, beyond_beyond _ [character] rest⟩
      · rintro ⟨⟨here, there⟩, rfl⟩
        refine ⟨_, reads_sign_iff.mpr ⟨here, rfl⟩, inductionHypothesis.mpr ⟨there, ?_⟩⟩
        exact (beyond_beyond _ [character] rest).symm

/-! ## Texts of patterns -/

/-- A result that holds a value is the value. -/
theorem eq_ok_of_toOption
    {ε α : Type}
    {result : Except ε α}
    {value : α}
    (holds : result.toOption = some value) :
    result = .ok value := by
  cases result with
  | error failure =>
      cases holds
  | ok found =>
      cases holds
      rfl

/-- A text that can be read and is not too large makes a pattern. -/
theorem ofText_eq_ok
    {source : List Char}
    {expr : Expr}
    (isRead : (read source).toOption = some expr)
    (fits : Size.fits true [expr] = true) :
    ofText source = .ok (ofExpr expr) := by
  unfold ofText
  rw [eq_ok_of_toOption isRead]
  exact if_pos fits

end Untrack.Pattern
