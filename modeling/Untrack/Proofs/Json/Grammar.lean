import Untrack.Proofs.Json.Progress

namespace Untrack.Json

/-!
# The grammar of values

`Written levels` relates a cursor to the value that is written there, with
brackets at most `levels` deep, and to the cursor behind it. The relation says
how values are put together: by signs with blanks before them, by commas between
the items of a list or of an object, and by a name and a colon before each
member. What a string, a word or a number stands for is left to its reader.

An object takes its members one after another, so the last of two members of one
name decides.
-/

variable {α β : Type}

/-- A sign is next, with blanks before it, and another cursor stands behind it. -/
def Sign (sign : Char) (cursor after : Cursor) : Prop :=
  ∃ rest,
    cursor.skipBlanks.rest = sign :: rest ∧
      after = cursor.skipBlanks.past rest 1

/-- Where an item can start: at once if it is the first, or behind a comma. -/
def Separated (first : Bool) (cursor start : Cursor) : Prop :=
  if first then start = cursor else Sign ',' cursor start

/-- Items with commas between them, up to a closing sign. -/
inductive Items
    (item : Cursor → α → Cursor → Prop)
    (closing : Char) :
    (first : Bool) → Cursor → List α → Cursor → Prop where
  | close
      {first : Bool}
      {cursor after : Cursor}
      (closes : Sign closing cursor after) :
      Items item closing first cursor [] after
  | next
      {first : Bool}
      {cursor start middle after : Cursor}
      {value : α}
      {values : List α}
      (separated : Separated first cursor start)
      (writes : item start value middle)
      (others : Items item closing false middle values after) :
      Items item closing first cursor (value :: values) after

/-- A name, a colon and a content, which can depend on the name. -/
inductive Member
    (content : String → Cursor → α → Cursor → Prop) :
    Cursor → String × α → Cursor → Prop where
  | named
      {cursor opened afterName start after : Cursor}
      {name : String}
      {value : α}
      (opens : Sign '\x22' cursor opened)
      (reads : readString opened = .ok (name, afterName))
      (colon : Sign ':' afterName start)
      (writes : content name start value after) :
      Member content cursor (name, value) after

/-- A value without brackets. -/
inductive Scalar : Cursor → Value → Cursor → Prop where
  | text
      {cursor opened after : Cursor}
      {text : String}
      (opens : Sign '\x22' cursor opened)
      (reads : readString opened = .ok (text, after)) :
      Scalar cursor (.string text) after
  | plain
      {cursor after : Cursor}
      {first : Char}
      {rest : List Char}
      {value : Value}
      (stands : cursor.skipBlanks.rest = first :: rest)
      (reads : readPlain first cursor.skipBlanks = .ok (value, after)) :
      Scalar cursor value after

/-- An object whose members have these contents, as they are written. -/
def ObjectOf
    (content : String → Cursor → α → Cursor → Prop)
    (cursor : Cursor)
    (members : List (String × α))
    (after : Cursor) : Prop :=
  ∃ opened,
    Sign '\x7b' cursor opened ∧
      Items (Member content) '\x7d' true opened members after

/-- A list whose items are what `inner` allows. -/
def ListOf
    (inner : Cursor → α → Cursor → Prop)
    (cursor : Cursor)
    (items : List α)
    (after : Cursor) : Prop :=
  ∃ opened,
    Sign '[' cursor opened ∧ Items inner ']' true opened items after

/-- A value that may have one level of brackets around what `inner` allows. -/
inductive Compound
    (inner : Cursor → Value → Cursor → Prop) :
    Cursor → Value → Cursor → Prop where
  | scalar
      {cursor after : Cursor}
      {value : Value}
      (writes : Scalar cursor value after) :
      Compound inner cursor value after
  | list
      {cursor after : Cursor}
      {items : List Value}
      (writes : ListOf inner cursor items after) :
      Compound inner cursor (.array items) after
  | object
      {cursor after : Cursor}
      {members : List (String × Value)}
      (writes : ObjectOf (fun _ => inner) cursor members after) :
      Compound inner cursor (.object (Entries.putAll [] members)) after

/-- A value with at most so many levels of brackets. -/
def Written : (levels : Nat) → Cursor → Value → Cursor → Prop
  | 0 => Scalar
  | levels + 1 => Compound (Written levels)

/-- A text that is one thing of a shape, with blanks around it. -/
def Whole
    (shape : Cursor → α → Cursor → Prop)
    (text : List Char)
    (value : α) : Prop :=
  ∃ after, shape (Cursor.start text) value after ∧ after.skipBlanks.rest = []

/-! ## Writing goes forward -/

/-- Behind a sign there is less text. -/
theorem Sign.left_lt
    {sign : Char}
    {cursor after : Cursor}
    (stands : Sign sign cursor after) :
    after.left < cursor.left := by
  obtain ⟨rest, shape, rfl⟩ := stands
  have noMore := cursor.left_skipBlanks_le
  rw [Cursor.left_of_rest shape] at noMore
  rw [Cursor.left_past]
  omega

/-- There is one place behind a sign. -/
theorem Sign.unique
    {sign : Char}
    {cursor after other : Cursor}
    (stands : Sign sign cursor after)
    (standsToo : Sign sign cursor other) :
    after = other := by
  obtain ⟨rest, shape, rfl⟩ := stands
  obtain ⟨rest', sameShape, rfl⟩ := standsToo
  rw [shape] at sameShape
  cases sameShape
  rfl

/-- The place behind a sign is one character after it. -/
theorem Sign.past_drop
    {sign : Char}
    {cursor after : Cursor}
    (stands : Sign sign cursor after) :
    cursor.skipBlanks.past (cursor.skipBlanks.rest.drop 1) 1 = after := by
  obtain ⟨rest, shape, rfl⟩ := stands
  rw [shape, List.drop_one, List.tail_cons]

/-- Where an item starts there is no more text. -/
theorem Separated.left_le
    {first : Bool}
    {cursor start : Cursor}
    (separated : Separated first cursor start) :
    start.left ≤ cursor.left := by
  cases first with
  | true =>
      cases (separated : start = cursor)
      exact Nat.le_refl _
  | false =>
      exact Nat.le_of_lt (Sign.left_lt separated)

/-- Behind the closing sign there is less text, if items never leave more. -/
theorem Items.left_lt
    {item : Cursor → α → Cursor → Prop}
    {closing : Char}
    {first : Bool}
    {cursor after : Cursor}
    {values : List α}
    (itemLeft :
      ∀ {start value middle}, item start value middle →
        middle.left < start.left)
    (writes : Items item closing first cursor values after) :
    after.left < cursor.left := by
  induction writes with
  | close closes =>
      exact closes.left_lt
  | next separated writesItem _ inductionHypothesis =>
      have startLeft := separated.left_le
      have middleLeft := itemLeft writesItem
      omega

/-- Behind a member there is less text, if contents never leave more. -/
theorem Member.left_lt
    {content : String → Cursor → α → Cursor → Prop}
    {cursor after : Cursor}
    {entry : String × α}
    (contentLeft :
      ∀ {name start value after}, content name start value after →
        after.left ≤ start.left)
    (writes : Member content cursor entry after) :
    after.left < cursor.left := by
  obtain ⟨opens, reads, colon, writesContent⟩ := writes
  have openedLeft := opens.left_lt
  have nameLeft := leavesFewer_readString _ _ reads
  have startLeft := colon.left_lt
  have afterLeft := contentLeft writesContent
  dsimp only at nameLeft
  omega

/-- Behind a value without brackets there is less text. -/
theorem Scalar.left_lt
    {cursor after : Cursor}
    {value : Value}
    (writes : Scalar cursor value after) :
    after.left < cursor.left := by
  cases writes with
  | text opens reads =>
      have openedLeft := opens.left_lt
      have afterLeft := leavesFewer_readString _ _ reads
      dsimp only at afterLeft
      omega
  | plain stands reads =>
      have noMore := cursor.left_skipBlanks_le
      have afterLeft := leavesFewer_readPlain stands _ reads
      dsimp only at afterLeft
      omega

/-- Behind a value there is less text. -/
theorem Written.left_lt
    {levels : Nat}
    {cursor after : Cursor}
    {value : Value}
    (writes : Written levels cursor value after) :
    after.left < cursor.left := by
  induction levels generalizing cursor after value with
  | zero =>
      exact Scalar.left_lt writes
  | succ levels inductionHypothesis =>
      cases (writes : Compound (Written levels) cursor value after) with
      | scalar writes =>
          exact writes.left_lt
      | list writes =>
          obtain ⟨opened, opens, writes⟩ := writes
          have openedLeft := opens.left_lt
          have afterLeft := writes.left_lt inductionHypothesis
          omega
      | object writes =>
          obtain ⟨opened, opens, writes⟩ := writes
          have openedLeft := opens.left_lt
          have afterLeft :=
            writes.left_lt fun writesMember =>
              writesMember.left_lt fun writesValue =>
                Nat.le_of_lt (inductionHypothesis writesValue)
          omega

/-! ## How a value starts -/

/-- The blanks before a sign can be skipped first. -/
theorem Sign.skipBlanks_iff {sign : Char} {cursor after : Cursor} :
    Sign sign cursor.skipBlanks after ↔ Sign sign cursor after := by
  simp only [Sign, Cursor.skipBlanks_skipBlanks]

/-- A bracket or a quotation mark starts no word and no number. -/
theorem readPlain_of_bracket
    {first : Char}
    (isBracket :
      first = '\x22' ∨ first = '[' ∨ first = ']' ∨ first = '\x7b')
    (cursor : Cursor) :
    readPlain first cursor = .error (cursor.stopPast .expectedValue) := by
  rcases isBracket with rfl | rfl | rfl | rfl <;> rfl

/-- A value does not start with a closing bracket. -/
theorem Scalar.start
    {cursor after : Cursor}
    {value : Value}
    (writes : Scalar cursor value after) :
    ∃ first rest,
      cursor.skipBlanks.rest = first :: rest ∧ first ≠ ']' := by
  cases writes with
  | text opens _ =>
      obtain ⟨rest, stands, _⟩ := opens
      exact ⟨_, rest, stands, by decide⟩
  | plain stands reads =>
      rename_i first rest
      refine ⟨first, rest, stands, ?_⟩
      intro isClosing
      rw [readPlain_of_bracket (.inr (.inr (.inl isClosing)))] at reads
      cases reads

/-- A value does not start with a closing bracket. -/
theorem Written.start
    {levels : Nat}
    {cursor after : Cursor}
    {value : Value}
    (writes : Written levels cursor value after) :
    ∃ first rest,
      cursor.skipBlanks.rest = first :: rest ∧ first ≠ ']' := by
  cases levels with
  | zero =>
      exact Scalar.start writes
  | succ levels =>
      cases (writes : Compound (Written levels) cursor value after) with
      | scalar writes =>
          exact writes.start
      | list writes =>
          obtain ⟨_, ⟨rest, stands, _⟩, _⟩ := writes
          exact ⟨_, rest, stands, by decide⟩
      | object writes =>
          obtain ⟨_, ⟨rest, stands, _⟩, _⟩ := writes
          exact ⟨_, rest, stands, by decide⟩

/-- No word and no number is an object. -/
theorem Scalar.not_object
    {cursor after : Cursor}
    {members : List (String × Value)} :
    ¬ Scalar cursor (.object members) after := by
  intro writes
  cases writes with
  | plain stands reads =>
      unfold readPlain at reads
      dsimp only at reads
      split at reads
      · simp [map_eq_ok_iff] at reads
      · simp [map_eq_ok_iff] at reads
      · simp [map_eq_ok_iff] at reads
      · simp [map_eq_ok_iff] at reads
      · split at reads
        · simp [map_eq_ok_iff] at reads
        · cases reads

/-- What is written where a value is an object. -/
theorem Written.object_iff
    {levels : Nat}
    {cursor after : Cursor}
    {entries : Entries Value} :
    Written (levels + 1) cursor (.object entries) after ↔
      ∃ members,
        Entries.putAll [] members = entries ∧
          ObjectOf (fun _ => Written levels) cursor members after := by
  constructor
  · intro writes
    cases (writes : Compound (Written levels) cursor (.object entries) after)
      with
    | scalar writes =>
        exact (Scalar.not_object writes).elim
    | object writes =>
        exact ⟨_, rfl, writes⟩
  · rintro ⟨members, rfl, writes⟩
    exact Compound.object writes

end Untrack.Json
