import Untrack.Proofs.Json.Grammar

namespace Untrack.Json

/-!
# Reading accepts what is written

Each reader of a sign finds the sign that the grammar asks for, and
`readValue_eq_ok_iff` says the same of values: reading accepts what is written,
with as many levels of brackets as it may have, and nothing else.

That nothing else is read goes by induction on the fuel, for all readers at once.
That fuel for the text is enough goes by induction on the levels.
-/

/-! ## The readers of signs -/

/-- Reading the end is finding nothing but blanks. -/
theorem readEnd_eq_ok_iff {cursor : Cursor} :
    readEnd cursor = .ok () ↔ cursor.skipBlanks.rest = [] := by
  simp [readEnd]

/-- Reading a colon is finding its sign. -/
theorem readColon_eq_ok_iff {cursor after : Cursor} :
    readColon cursor = .ok after ↔ Sign ':' cursor after := by
  unfold readColon Sign
  dsimp only
  constructor
  · intro reads
    split at reads
    · rename_i rest stands
      cases reads
      exact ⟨rest, stands, rfl⟩
    · cases reads
    · cases reads
  · rintro ⟨rest, stands, rfl⟩
    simp [stands]

/-- A list has no further item where its closing bracket stands. -/
theorem nextItem?_eq_none_iff
    {first : Bool}
    {cursor found : Cursor} :
    nextItem? first cursor = .ok (none, found) ↔
      found = cursor.skipBlanks ∧
        Sign ']' cursor (found.past (found.rest.drop 1) 1) := by
  unfold nextItem? Sign
  dsimp only
  constructor
  · intro finds
    split at finds
    · cases finds
    · rename_i rest stands
      cases finds
      exact ⟨rfl, rest, stands, by rw [stands, List.drop_one, List.tail_cons]⟩
    · split at finds
      · cases finds
      · split at finds
        · split at finds <;> cases finds
        · cases finds
  · rintro ⟨rfl, rest, stands, _⟩
    simp [stands]

/-- The next item of a list starts where an item can start. -/
theorem nextItem?_eq_some_iff
    {first : Bool}
    {cursor start found : Cursor} :
    nextItem? first cursor = .ok (some start, found) ↔
      start = found ∧
        ∃ before,
          Separated first cursor before ∧
            found = before.skipBlanks ∧
              ∃ character rest,
                before.skipBlanks.rest = character :: rest ∧
                  character ≠ ']' := by
  unfold nextItem? Separated Sign
  dsimp only
  constructor
  · intro finds
    split at finds
    · cases finds
    · cases finds
    · rename_i character rest isOther stands
      have notClosing : character ≠ ']' := by
        intro isClosing
        exact isOther isClosing
      cases first with
      | true =>
          cases finds
          exact ⟨rfl, cursor, rfl, rfl, character, rest, stands, notClosing⟩
      | false =>
          split at finds
          · contradiction
          · split at finds
            · rename_i isComma
              subst isComma
              split at finds
              · cases finds
              · cases finds
              · rename_i isEmpty isOther
                cases finds
                refine
                  ⟨rfl, cursor.skipBlanks.past rest 1,
                    ⟨rest, stands, rfl⟩, rfl, ?_⟩
                cases shape : (cursor.skipBlanks.past rest 1).skipBlanks.rest with
                | nil =>
                    exact (isEmpty shape).elim
                | cons next others =>
                    refine ⟨next, others, rfl, ?_⟩
                    rintro rfl
                    exact isOther others shape
            · cases finds
  · rintro ⟨rfl, before, separated, rfl, character, rest, stands, notClosing⟩
    cases first with
    | true =>
        cases (separated : before = cursor)
        simp only [stands]
        split <;> simp_all
    | false =>
        obtain ⟨others, comma, rfl⟩ := separated
        simp only [comma, ↓Char.isValue, Char.reduceEq, imp_self,
          Bool.false_eq_true, ↓reduceIte, stands]
        split <;> simp_all

/-- An object has no further member where its closing brace stands. -/
theorem nextName?_eq_none_iff
    {first : Bool}
    {cursor found : Cursor} :
    nextName? first cursor = .ok (none, found) ↔
      found = cursor.skipBlanks ∧
        Sign '\x7d' cursor (found.past (found.rest.drop 1) 1) := by
  unfold nextName? Sign
  dsimp only
  constructor
  · intro finds
    split at finds
    · cases finds
    · rename_i rest stands
      cases finds
      exact ⟨rfl, rest, stands, by rw [stands, List.drop_one, List.tail_cons]⟩
    · split at finds
      · split at finds
        · simp [map_eq_ok_iff] at finds
        · cases finds
      · split at finds
        · split at finds
          · cases finds
          · simp [map_eq_ok_iff] at finds
          · cases finds
          · cases finds
        · cases finds
  · rintro ⟨rfl, rest, stands, _⟩
    simp [stands]

/-- The next name of an object stands where an item can start. -/
theorem nextName?_eq_some_iff
    {first : Bool}
    {cursor after : Cursor}
    {name : String} :
    nextName? first cursor = .ok (some name, after) ↔
      ∃ start opened,
        Separated first cursor start ∧
          Sign '\x22' start opened ∧
            readString opened = .ok (name, after) := by
  unfold nextName? Separated Sign
  dsimp only
  constructor
  · intro finds
    split at finds
    · cases finds
    · cases finds
    · rename_i character rest isOther stands
      cases first with
      | true =>
          simp only [↓reduceIte] at finds
          split at finds
          · rename_i isQuote
            subst isQuote
            rw [stands, List.drop_one, List.tail_cons] at finds
            obtain ⟨⟨text, left⟩, reads, same⟩ := map_eq_ok_iff.mp finds
            cases same
            exact ⟨cursor, _, rfl, ⟨rest, stands, rfl⟩, reads⟩
          · cases finds
      | false =>
          simp only [Bool.false_eq_true, ↓reduceIte] at finds
          split at finds
          · rename_i isComma
            subst isComma
            split at finds
            · cases finds
            · rename_i others quote
              rw [quote, List.drop_one, List.tail_cons] at finds
              obtain ⟨⟨text, left⟩, reads, same⟩ := map_eq_ok_iff.mp finds
              cases same
              exact
                ⟨cursor.skipBlanks.past rest 1, _, ⟨rest, stands, rfl⟩,
                  ⟨others, quote, rfl⟩, reads⟩
            · cases finds
            · cases finds
          · cases finds
  · rintro ⟨start, opened, separated, ⟨rest, quote, rfl⟩, reads⟩
    cases first with
    | true =>
        cases (separated : start = cursor)
        simp [quote, reads, Except.map]
    | false =>
        obtain ⟨others, comma, rfl⟩ := separated
        simp [comma, quote, reads, Except.map]

/-! ## Reading accepts what is written -/

/-- A value is read from behind the blanks before it. -/
theorem readValueFrom_skipBlanks_eq_ok_iff
    {fuel depth : Nat}
    {cursor : Cursor}
    {result : Value × Cursor} :
    readValueFrom fuel depth cursor.skipBlanks = .ok result ↔
      readValueFrom fuel depth cursor = .ok result := by
  cases fuel with
  | zero =>
      simp [readValueFrom]
  | succ fuel =>
      simp only [readValueFrom, Cursor.skipBlanks_skipBlanks]

/--
What the readers of values accept with some fuel is written there. The readers of
items and of members go on from what has been read so far.
-/
structure ReadersSound (fuel : Nat) : Prop where
  value :
    ∀ {depth cursor value after},
      readValueFrom fuel depth cursor = .ok (value, after) →
        Written (depth - 1) cursor value after
  items :
    ∀ {depth first soFar cursor value after},
      readItems fuel depth first soFar cursor = .ok (value, after) →
        ∃ items,
          value = .array (soFar.reverse ++ items) ∧
            Items (Written (depth - 1)) ']' first cursor items after
  members :
    ∀ {depth first soFar cursor value after},
      readMembers fuel depth first soFar cursor = .ok (value, after) →
        ∃ members,
          value = .object (Entries.putAll soFar members) ∧
            Items (Member fun _ => Written (depth - 1)) '\x7d' first cursor
              members after

/-- A scalar is written at any number of levels. -/
theorem Scalar.written
    {cursor after : Cursor}
    {value : Value}
    (writes : Scalar cursor value after)
    (levels : Nat) :
    Written levels cursor value after := by
  cases levels with
  | zero =>
      exact writes
  | succ levels =>
      exact .scalar writes

namespace ReadersSound

variable {fuel depth : Nat} {first : Bool} {cursor after : Cursor}
  {value : Value}

/-- A value is read with one unit of fuel more than what is inside its brackets. -/
theorem value_succ
    (sound : ReadersSound fuel)
    (reads : readValueFrom (fuel + 1) depth cursor = .ok (value, after)) :
    Written (depth - 1) cursor value after := by
  unfold readValueFrom at reads
  dsimp only at reads
  split at reads
  · cases reads
  · rename_i rest stands
    obtain ⟨⟨text, left⟩, readsText, same⟩ := map_eq_ok_iff.mp reads
    cases same
    exact Scalar.written (.text ⟨rest, stands, rfl⟩ readsText) _
  · rename_i rest stands
    split at reads
    · cases reads
    · obtain ⟨levels, rfl⟩ : ∃ levels, depth = levels + 2 :=
        ⟨depth - 2, by omega⟩
      obtain ⟨items, rfl, writes⟩ := sound.items reads
      exact .list ⟨_, ⟨rest, stands, rfl⟩, writes⟩
  · rename_i rest stands
    split at reads
    · cases reads
    · obtain ⟨levels, rfl⟩ : ∃ levels, depth = levels + 2 :=
        ⟨depth - 2, by omega⟩
      obtain ⟨members, rfl, writes⟩ := sound.members reads
      exact .object ⟨_, ⟨rest, stands, rfl⟩, writes⟩
  · rename_i stands
    exact Scalar.written (.plain stands reads) _

/-- Items are read one by one, up to the closing bracket. -/
theorem items_succ
    (sound : ReadersSound fuel)
    {soFar : List Value}
    (reads :
      readItems (fuel + 1) depth first soFar cursor = .ok (value, after)) :
    ∃ items,
      value = .array (soFar.reverse ++ items) ∧
        Items (Written (depth - 1)) ']' first cursor items after := by
  unfold readItems at reads
  obtain ⟨⟨next, found⟩, finds, reads⟩ := bind_eq_ok_iff.mp reads
  cases next with
  | none =>
      obtain ⟨rfl, closes⟩ := nextItem?_eq_none_iff.mp finds
      cases reads
      exact ⟨[], by rw [List.append_nil], .close closes⟩
  | some start =>
      obtain ⟨rfl, before, separated, rfl, _⟩ := nextItem?_eq_some_iff.mp finds
      obtain ⟨⟨item, middle⟩, readsItem, reads⟩ := bind_eq_ok_iff.mp reads
      have writesItem :=
        sound.value (readValueFrom_skipBlanks_eq_ok_iff.mp readsItem)
      obtain ⟨items, rfl, writes⟩ := sound.items reads
      exact ⟨item :: items, by simp, .next separated writesItem writes⟩

/-- Members are read one by one, up to the closing brace. -/
theorem members_succ
    (sound : ReadersSound fuel)
    {soFar : Entries Value}
    (reads :
      readMembers (fuel + 1) depth first soFar cursor = .ok (value, after)) :
    ∃ members,
      value = .object (Entries.putAll soFar members) ∧
        Items (Member fun _ => Written (depth - 1)) '\x7d' first cursor members
          after := by
  unfold readMembers at reads
  obtain ⟨⟨next, found⟩, finds, reads⟩ := bind_eq_ok_iff.mp reads
  cases next with
  | none =>
      obtain ⟨rfl, closes⟩ := nextName?_eq_none_iff.mp finds
      cases reads
      exact ⟨[], rfl, .close closes⟩
  | some name =>
      obtain ⟨start, opened, separated, opens, readsName⟩ :=
        nextName?_eq_some_iff.mp finds
      obtain ⟨afterColon, colon, reads⟩ := bind_eq_ok_iff.mp reads
      obtain ⟨⟨content, middle⟩, readsContent, reads⟩ :=
        bind_eq_ok_iff.mp reads
      have writesContent := sound.value readsContent
      obtain ⟨members, rfl, writes⟩ := sound.members reads
      exact
        ⟨(name, content) :: members, rfl,
          .next separated
            (.named opens readsName (readColon_eq_ok_iff.mp colon)
              writesContent)
            writes⟩

end ReadersSound

/-- What the readers of values accept is written there, whatever the fuel. -/
theorem readers_sound (fuel : Nat) : ReadersSound fuel := by
  induction fuel with
  | zero =>
      exact { value := nofun, items := nofun, members := nofun }
  | succ fuel inductionHypothesis =>
      exact
        { value := inductionHypothesis.value_succ
          items := inductionHypothesis.items_succ
          members := inductionHypothesis.members_succ }

/-- A scalar is read with any fuel at all and at any depth. -/
theorem Scalar.read
    {cursor after : Cursor}
    {value : Value}
    (writes : Scalar cursor value after)
    (fuel depth : Nat) :
    readValueFrom (fuel + 1) depth cursor = .ok (value, after) := by
  unfold readValueFrom
  cases writes with
  | text opens reads =>
      obtain ⟨rest, stands, rfl⟩ := opens
      simp [stands, reads, Except.map]
  | plain stands reads =>
      rename_i first rest
      have notBracket :
          ¬ (first = '\x22' ∨ first = '[' ∨ first = ']' ∨ first = '\x7b') := by
        intro isBracket
        rw [readPlain_of_bracket isBracket] at reads
        cases reads
      simp only [not_or] at notBracket
      obtain ⟨notQuote, notList, _, notObject⟩ := notBracket
      simp [stands, reads]

/-- Items that can be read one by one are read as a list. -/
theorem Items.read
    {levels depth : Nat}
    {first : Bool}
    {cursor after : Cursor}
    {items : List Value}
    (readsItem :
      ∀ {fuel start value middle}, Written levels start value middle →
        2 * start.left + 1 ≤ fuel →
          readValueFrom fuel depth start = .ok (value, middle))
    (writes : Items (Written levels) ']' first cursor items after)
    (soFar : List Value)
    {fuel : Nat}
    (enough : 2 * cursor.left + 2 ≤ fuel) :
    readItems fuel depth first soFar cursor =
      .ok (.array (soFar.reverse ++ items), after) := by
  induction writes generalizing soFar fuel with
  | @close first cursor after closes =>
      obtain ⟨fuel, rfl⟩ : ∃ less, fuel = less + 1 := ⟨fuel - 1, by omega⟩
      have finds :
          nextItem? first cursor = .ok (none, cursor.skipBlanks) :=
        nextItem?_eq_none_iff.mpr ⟨rfl, by rwa [closes.past_drop]⟩
      unfold readItems
      rw [finds, List.append_nil]
      simp only [bind, Except.bind, closes.past_drop]
  | @next first cursor start middle after value values separated writesItem
      _ inductionHypothesis =>
      obtain ⟨fuel, rfl⟩ : ∃ less, fuel = less + 1 := ⟨fuel - 1, by omega⟩
      have startLeft := separated.left_le
      have middleLeft := writesItem.left_lt
      have finds :
          nextItem? first cursor =
            .ok (some start.skipBlanks, start.skipBlanks) :=
        nextItem?_eq_some_iff.mpr
          ⟨rfl, start, separated, rfl, writesItem.start⟩
      -- Two steps are spent on an item, and an item has a character at least.
      have reads :
          readValueFrom fuel depth start.skipBlanks = .ok (value, middle) :=
        readValueFrom_skipBlanks_eq_ok_iff.mpr
          (readsItem writesItem (by omega))
      unfold readItems
      rw [finds]
      simp only [bind, Except.bind, reads]
      rw [inductionHypothesis (value :: soFar) (by omega)]
      simp

/-- Members whose contents can be read are read as an object. -/
theorem Items.readObject
    {levels depth : Nat}
    {first : Bool}
    {cursor after : Cursor}
    {members : List (String × Value)}
    (readsContent :
      ∀ {fuel start value middle}, Written levels start value middle →
        2 * start.left + 1 ≤ fuel →
          readValueFrom fuel depth start = .ok (value, middle))
    (writes :
      Items (Member fun _ => Written levels) '\x7d' first cursor members after)
    (soFar : Entries Value)
    {fuel : Nat}
    (enough : 2 * cursor.left + 2 ≤ fuel) :
    readMembers fuel depth first soFar cursor =
      .ok (.object (Entries.putAll soFar members), after) := by
  induction writes generalizing soFar fuel with
  | @close first cursor after closes =>
      obtain ⟨fuel, rfl⟩ : ∃ less, fuel = less + 1 := ⟨fuel - 1, by omega⟩
      have finds :
          nextName? first cursor = .ok (none, cursor.skipBlanks) :=
        nextName?_eq_none_iff.mpr ⟨rfl, by rwa [closes.past_drop]⟩
      unfold readMembers
      rw [finds]
      simp only [bind, Except.bind, closes.past_drop]
      rfl
  | @next first cursor start middle after entry values separated writesMember
      _ inductionHypothesis =>
      obtain ⟨fuel, rfl⟩ : ∃ less, fuel = less + 1 := ⟨fuel - 1, by omega⟩
      have startLeft := separated.left_le
      have middleLeft :=
        writesMember.left_lt fun writesContent =>
          Nat.le_of_lt writesContent.left_lt
      obtain ⟨opens, readsName, colon, writesContent⟩ := writesMember
      rename_i opened afterName contentStart name content
      have openedLeft := opens.left_lt
      have nameLeft := leavesFewer_readString _ _ readsName
      have contentLeft := colon.left_lt
      dsimp only at nameLeft
      have finds : nextName? first cursor = .ok (some name, afterName) :=
        nextName?_eq_some_iff.mpr ⟨start, opened, separated, opens, readsName⟩
      have reads :
          readValueFrom fuel depth contentStart = .ok (content, middle) :=
        readsContent writesContent (by omega)
      unfold readMembers
      rw [finds]
      simp only [bind, Except.bind, readColon_eq_ok_iff.mpr colon, reads]
      rw [inductionHypothesis _ (by omega)]
      rfl

/--
A value that is written is read, with fuel for the text that is left. The
induction is on the levels; what is inside brackets has one level less.
-/
theorem Written.read
    {levels : Nat}
    {cursor after : Cursor}
    {value : Value}
    (writes : Written levels cursor value after)
    {fuel depth : Nat}
    (atDepth : depth - 1 = levels)
    (enough : 2 * cursor.left + 1 ≤ fuel) :
    readValueFrom fuel depth cursor = .ok (value, after) := by
  induction levels generalizing cursor after value fuel depth with
  | zero =>
      obtain ⟨fuel, rfl⟩ : ∃ less, fuel = less + 1 := ⟨fuel - 1, by omega⟩
      exact Scalar.read writes fuel depth
  | succ levels inductionHypothesis =>
      obtain ⟨fuel, rfl⟩ : ∃ less, fuel = less + 1 := ⟨fuel - 1, by omega⟩
      have readsInner
          {fuel : Nat}
          {start middle : Cursor}
          {inner : Value}
          (writesInner : Written levels start inner middle)
          (enough : 2 * start.left + 1 ≤ fuel) :
          readValueFrom fuel (depth - 1) start = .ok (inner, middle) :=
        inductionHypothesis writesInner (by omega) enough
      have deepEnough : ¬ depth ≤ 1 := by
        omega
      cases (writes : Compound (Written levels) cursor value after) with
      | scalar writes =>
          exact writes.read fuel depth
      | list writes =>
          obtain ⟨opened, opens, writes⟩ := writes
          have openedLeft := opens.left_lt
          obtain ⟨rest, stands, rfl⟩ := opens
          have reads :
              readItems fuel (depth - 1) true []
                  (cursor.skipBlanks.past rest 1) = .ok (.array _, after) :=
            writes.read readsInner [] (by omega)
          unfold readValueFrom
          simpa [stands, deepEnough] using reads
      | object writes =>
          obtain ⟨opened, opens, writes⟩ := writes
          have openedLeft := opens.left_lt
          obtain ⟨rest, stands, rfl⟩ := opens
          have reads :
              readMembers fuel (depth - 1) true []
                  (cursor.skipBlanks.past rest 1) = .ok (.object _, after) :=
            writes.readObject readsInner [] (by omega)
          unfold readValueFrom
          simpa [stands, deepEnough] using reads

/-- Reading a value accepts what is written, and nothing else. -/
theorem readValue_eq_ok_iff
    {depth : Nat}
    {cursor after : Cursor}
    {value : Value} :
    readValue depth cursor = .ok (value, after) ↔
      Written (depth - 1) cursor value after := by
  constructor
  · intro reads
    exact (readers_sound _).value reads
  · intro writes
    exact writes.read rfl (by simp [Cursor.left])

end Untrack.Json
