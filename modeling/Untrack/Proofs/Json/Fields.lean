import Untrack.Json.Record
import Untrack.Proofs.Json.Reading
import Untrack.Proofs.Json.Skipping

namespace Untrack.Json

/-!
# The fields of a record

A record that is written as an object takes its fields from members of the
object, as they come, and skips the other members. `Record.Part` says what it
takes from one member. Reading the fields succeeds where the text is an object
of such members and no field comes twice.
-/

variable {α β : Type}

/-! ## Items of two kinds -/

/-- What holds of everything that is an item holds of the items of a list. -/
theorem Items.forall_mem
    {item : Cursor → α → Cursor → Prop}
    {closing : Char}
    {first : Bool}
    {cursor after : Cursor}
    {values : List α}
    {property : α → Prop}
    (holds :
      ∀ {start value middle}, item start value middle → property value)
    (writes : Items item closing first cursor values after) :
    ∀ value ∈ values, property value := by
  induction writes with
  | close _ =>
      simp
  | next _ writesItem _ inductionHypothesis =>
      exact List.forall_mem_cons.mpr ⟨holds writesItem, inductionHypothesis⟩

/--
Items can be looked at in another way: as values that `change` makes into what
they were. This has to be so of the items that are there alone.
-/
theorem Items.map_iff
    {item : Cursor → α → Cursor → Prop}
    {other : Cursor → β → Cursor → Prop}
    {closing : Char}
    {first : Bool}
    {cursor after : Cursor}
    {values : List α}
    (change : β → α)
    (same :
      ∀ value ∈ values, ∀ start middle,
        item start value middle ↔
          ∃ source, change source = value ∧ other start source middle) :
    Items item closing first cursor values after ↔
      ∃ sources,
        sources.map change = values ∧
          Items other closing first cursor sources after := by
  constructor
  · intro writes
    induction writes with
    | close closes =>
        exact ⟨[], rfl, .close closes⟩
    | next separated writesItem _ inductionHypothesis =>
        obtain ⟨source, rfl, writesSource⟩ :=
          (same _ List.mem_cons_self _ _).mp writesItem
        obtain ⟨sources, rfl, writesOthers⟩ :=
          inductionHypothesis fun value member =>
            same value (List.mem_cons_of_mem _ member)
        exact ⟨source :: sources, rfl, .next separated writesSource writesOthers⟩
  · rintro ⟨sources, rfl, writes⟩
    induction writes with
    | close closes =>
        exact .close closes
    | next separated writesSource _ inductionHypothesis =>
        have writesItem :=
          (same _ List.mem_cons_self _ _).mpr ⟨_, rfl, writesSource⟩
        exact
          .next separated writesItem
            (inductionHypothesis fun value member =>
              same value (List.mem_cons_of_mem _ member))

/-- Members can be looked at in another way if their contents can. -/
theorem Member.map_iff
    {content : String → Cursor → α → Cursor → Prop}
    {other : String → Cursor → β → Cursor → Prop}
    {change : β → α}
    {cursor after : Cursor}
    {entry : String × α}
    (same :
      ∀ start,
        content entry.1 start entry.2 after ↔
          ∃ source, change source = entry.2 ∧ other entry.1 start source after) :
    Member content cursor entry after ↔
      ∃ source,
        Prod.map id change source = entry ∧
          Member other cursor source after := by
  constructor
  · rintro ⟨opens, reads, colon, writes⟩
    rename_i name value
    obtain ⟨source, changed, writesSource⟩ := (same _).mp writes
    exact
      ⟨(name, source), by simp [changed],
        .named opens reads colon writesSource⟩
  · rintro ⟨source, rfl, opens, reads, colon, writes⟩
    exact .named opens reads colon ((same _).mpr ⟨_, rfl, writes⟩)

namespace Record

/-- What a record takes from a member: the content of a field, or nothing. -/
inductive Part
    (record : Record α β)
    (depth : Nat)
    (name : String) :
    Cursor → Option β → Cursor → Prop where
  | field
      {cursor after : Cursor}
      {content : β}
      (isField : name ∈ record.fields)
      (reads : record.readField name depth cursor = .ok (content, after)) :
      Part record depth name cursor (some content) after
  | other
      {cursor after : Cursor}
      (isOther : name ∉ record.fields)
      (skips : skipValue cursor = .ok after) :
      Part record depth name cursor none after

/-- The fields among members. -/
def fieldsAmong (members : List (String × Option β)) : Entries β :=
  members.filterMap fun (name, content) => content.map (name, ·)

/--
The fields that are read stand among the members of an object, and no name comes
twice.
-/
theorem readNamed_sound
    {record : Record α β}
    {depth fuel : Nat}
    {first : Bool}
    {seen found : Entries β}
    {cursor last : Cursor}
    (distinct : seen.names.Nodup)
    (reads :
      readNamed record depth fuel first seen cursor = .ok (found, last)) :
    found.names.Nodup ∧
      ∃ members,
        found = seen ++ fieldsAmong members ∧
          Items (Member (record.Part depth)) '\x7d' first cursor members
            (last.past (last.rest.drop 1) 1) := by
  induction fuel generalizing first seen cursor with
  | zero =>
      cases reads
  | succ fuel inductionHypothesis =>
      unfold readNamed at reads
      obtain ⟨⟨next, afterName⟩, finds, reads⟩ := bind_eq_ok_iff.mp reads
      cases next with
      | none =>
          obtain ⟨rfl, closes⟩ := nextName?_eq_none_iff.mp finds
          cases reads
          exact ⟨distinct, [], by simp [fieldsAmong], .close closes⟩
      | some name =>
          obtain ⟨start, opened, separated, opens, readsName⟩ :=
            nextName?_eq_some_iff.mp finds
          dsimp only at reads
          split at reads
          · rename_i isField
            split at reads
            · cases reads
            · rename_i isNew
              obtain ⟨afterColon, colon, reads⟩ := bind_eq_ok_iff.mp reads
              obtain ⟨⟨content, middle⟩, readsContent, reads⟩ :=
                bind_eq_ok_iff.mp reads
              rw [Entries.hasName_eq_true_iff] at isNew
              have stillDistinct :
                  (seen ++ [(name, content)] : Entries β).names.Nodup := by
                rw [Entries.names_append, List.nodup_append]
                refine ⟨distinct, by simp, ?_⟩
                intro old isOld added isAdded
                cases List.mem_singleton.mp isAdded
                rintro rfl
                exact isNew isOld
              obtain ⟨foundDistinct, members, shape, writes⟩ :=
                inductionHypothesis stillDistinct reads
              refine
                ⟨foundDistinct, (name, some content) :: members, ?_,
                  .next separated
                    (.named opens readsName (readColon_eq_ok_iff.mp colon)
                      (.field isField readsContent))
                    writes⟩
              simp [shape, fieldsAmong]
          · rename_i isOther
            obtain ⟨afterColon, colon, reads⟩ := bind_eq_ok_iff.mp reads
            obtain ⟨middle, skips, reads⟩ := bind_eq_ok_iff.mp reads
            obtain ⟨foundDistinct, members, shape, writes⟩ :=
              inductionHypothesis distinct reads
            refine
              ⟨foundDistinct, (name, none) :: members, ?_,
                .next separated
                  (.named opens readsName (readColon_eq_ok_iff.mp colon)
                    (.other isOther skips))
                  writes⟩
            simp [shape, fieldsAmong]

/-- Behind what a record takes from a member there is no more text. -/
theorem Part.left_le
    {record : Record α β}
    {depth : Nat}
    {name : String}
    {cursor after : Cursor}
    {content : Option β}
    (fieldLeft :
      ∀ {name cursor content after},
        record.readField name depth cursor = .ok (content, after) →
          after.left ≤ cursor.left)
    (takes : record.Part depth name cursor content after) :
    after.left ≤ cursor.left := by
  cases takes with
  | field _ reads =>
      exact fieldLeft reads
  | other _ skips =>
      exact Nat.le_of_lt_succ (leavesFewer_skipValue _ _ skips)

/-- Members among which no field comes twice can be read. -/
theorem readNamed_complete
    {record : Record α β}
    {depth : Nat}
    {first : Bool}
    {cursor after : Cursor}
    {members : List (String × Option β)}
    (fieldLeft :
      ∀ {name cursor content after},
        record.readField name depth cursor = .ok (content, after) →
          after.left ≤ cursor.left)
    (writes :
      Items (Member (record.Part depth)) '\x7d' first cursor members after)
    {seen : Entries β}
    (distinct : (seen ++ fieldsAmong members : Entries β).names.Nodup)
    {fuel : Nat}
    (enough : cursor.left + 1 ≤ fuel) :
    ∃ last,
      readNamed record depth fuel first seen cursor =
          .ok (seen ++ fieldsAmong members, last) ∧
        last.past (last.rest.drop 1) 1 = after := by
  induction writes generalizing seen fuel with
  | @close first cursor after closes =>
      obtain ⟨fuel, rfl⟩ : ∃ less, fuel = less + 1 := ⟨fuel - 1, by omega⟩
      have finds :
          nextName? first cursor = .ok (none, cursor.skipBlanks) :=
        nextName?_eq_none_iff.mpr ⟨rfl, by rwa [closes.past_drop]⟩
      refine ⟨cursor.skipBlanks, ?_, closes.past_drop⟩
      unfold readNamed
      rw [finds]
      simp [bind, Except.bind, fieldsAmong]
  | @next first cursor start middle after entry members separated writesMember
      _ inductionHypothesis =>
      obtain ⟨fuel, rfl⟩ : ∃ less, fuel = less + 1 := ⟨fuel - 1, by omega⟩
      have startLeft := separated.left_le
      have middleLeft :=
        writesMember.left_lt fun takes => takes.left_le fieldLeft
      obtain ⟨opens, readsName, colon, takes⟩ := writesMember
      rename_i opened afterName contentStart name content
      have finds : nextName? first cursor = .ok (some name, afterName) :=
        nextName?_eq_some_iff.mpr ⟨start, opened, separated, opens, readsName⟩
      have readsColon := readColon_eq_ok_iff.mpr colon
      unfold readNamed
      rw [finds]
      cases takes with
      | field isField reads =>
          rename_i content
          have splitFields :
              (seen ++ fieldsAmong ((name, some content) :: members) :
                  Entries β) =
                seen ++ [(name, content)] ++ fieldsAmong members := by
            simp [fieldsAmong]
          rw [splitFields] at distinct ⊢
          have isNew : ¬ seen.hasName name = true := by
            rw [Entries.hasName_eq_true_iff]
            intro isOld
            rw [List.append_assoc, Entries.names_append] at distinct
            exact
              (List.nodup_append.mp distinct).2.2 name isOld name
                List.mem_cons_self rfl
          simp only [bind, Except.bind, isField, ↓reduceIte, isNew,
            readsColon, reads]
          exact inductionHypothesis distinct (by omega)
      | other isOther skips =>
          have sameFields :
              fieldsAmong ((name, none) :: members) = fieldsAmong members := by
            simp [fieldsAmong]
          rw [sameFields] at distinct ⊢
          simp only [bind, Except.bind, isOther, ↓reduceIte, readsColon, skips]
          exact inductionHypothesis distinct (by omega)

/-- Every field among members that a record was taken from is one of its fields. -/
theorem names_fieldsAmong
    {record : Record α β}
    {depth : Nat}
    {first : Bool}
    {cursor after : Cursor}
    {members : List (String × Option β)}
    (writes :
      Items (Member (record.Part depth)) '\x7d' first cursor members after) :
    ∀ entry ∈ fieldsAmong members, entry.1 ∈ record.fields := by
  have eachNamed :
      ∀ entry ∈ members, entry.2.isSome → entry.1 ∈ record.fields := by
    refine writes.forall_mem ?_
    rintro start entry middle ⟨_, _, _, takes⟩ isThere
    cases takes with
    | field isField _ =>
        exact isField
    | other _ _ =>
        cases isThere
  intro entry member
  obtain ⟨⟨name, content⟩, isMember, isEntry⟩ := List.mem_filterMap.mp member
  obtain ⟨value, isThere, rfl⟩ := Option.map_eq_some_iff.mp isEntry
  exact eachNamed (name, content) isMember (by simp [isThere])

/-- Reading the end of a list is finding its closing bracket. -/
theorem closeList_eq_ok_iff {cursor after : Cursor} :
    closeList cursor = .ok after ↔ Sign ']' cursor after := by
  unfold closeList Sign
  dsimp only
  constructor
  · intro reads
    split at reads
    · cases reads
    · rename_i rest stands
      cases reads
      exact ⟨rest, stands, rfl⟩
    · split at reads <;> cases reads
    · cases reads
  · rintro ⟨rest, stands, rfl⟩
    simp [stands]

/-- A record is written as a list or as an object. -/
theorem sign_of_read
    {record : Record α β}
    {depth : Nat}
    {cursor after : Cursor}
    {value : α}
    (reads : record.read depth cursor = .ok (value, after)) :
    ∃ opened, Sign '[' cursor opened ∨ Sign '\x7b' cursor opened := by
  unfold read at reads
  dsimp only at reads
  split at reads
  · cases reads
  · rename_i rest stands
    exact ⟨_, .inl ⟨rest, stands, rfl⟩⟩
  · rename_i rest stands
    exact ⟨_, .inr ⟨rest, stands, rfl⟩⟩
  · cases reads

/-- A record that is a list is read field by field, up to the closing bracket. -/
theorem read_list_eq_ok_iff
    {record : Record α β}
    {depth : Nat}
    {cursor opened after : Cursor}
    {value : α}
    (opens : Sign '[' cursor opened) :
    record.read depth cursor = .ok (value, after) ↔
      ∃ seen last,
        readListed record (depth - 1) record.fields true [] opened =
            .ok (seen, last) ∧
          record.build true seen = .ok value ∧ Sign ']' last after := by
  obtain ⟨rest, stands, rfl⟩ := opens
  unfold read
  simp only [stands]
  constructor
  · intro reads
    obtain ⟨⟨seen, last⟩, readsFields, reads⟩ := bind_eq_ok_iff.mp reads
    dsimp only at reads
    split at reads
    · rename_i built builds
      obtain ⟨closed, closes, same⟩ := bind_eq_ok_iff.mp reads
      cases same
      exact ⟨seen, last, readsFields, builds, closeList_eq_ok_iff.mp closes⟩
    · cases reads
  · rintro ⟨seen, last, readsFields, builds, closes⟩
    simp [readsFields, builds, closeList_eq_ok_iff.mpr closes, bind,
      Except.bind]

/-- A record that is an object is made of the fields among its members. -/
theorem read_object_eq_ok_iff
    {record : Record α β}
    {depth : Nat}
    {cursor opened after : Cursor}
    {value : α}
    (fieldLeft :
      ∀ {name cursor content after},
        record.readField name (depth - 1) cursor = .ok (content, after) →
          after.left ≤ cursor.left)
    (opens : Sign '\x7b' cursor opened) :
    record.read depth cursor = .ok (value, after) ↔
      ∃ members,
        Items (Member (record.Part (depth - 1))) '\x7d' true opened members
            after ∧
          (fieldsAmong members).names.Nodup ∧
            record.build false (fieldsAmong members) = .ok value := by
  obtain ⟨rest, stands, rfl⟩ := opens
  unfold read
  simp only [stands]
  constructor
  · intro reads
    obtain ⟨⟨seen, last⟩, readsFields, reads⟩ := bind_eq_ok_iff.mp reads
    dsimp only at reads
    obtain ⟨distinct, members, rfl, writes⟩ :=
      readNamed_sound (by simp) readsFields
    split at reads
    · rename_i built builds
      cases reads
      exact ⟨members, writes, distinct, builds⟩
    · cases reads
  · rintro ⟨members, writes, distinct, builds⟩
    obtain ⟨last, readsFields, rfl⟩ :
        ∃ last,
          readNamed record (depth - 1) (rest.length + 1) true []
              (cursor.skipBlanks.past rest 1) =
              .ok (fieldsAmong members, last) ∧
            last.past (last.rest.drop 1) 1 = after :=
      readNamed_complete fieldLeft writes distinct (Nat.le_refl _)
    simp [readsFields, builds, bind, Except.bind]

/-- A text is read as a record if it is one as a whole. -/
theorem parse_eq_ok_iff
    {record : Record α β}
    {text : List Char}
    {value : α} :
    record.parse text = .ok value ↔
      Whole
        (fun cursor value after =>
          record.read depthLimit cursor = .ok (value, after))
        text value := by
  constructor
  · intro reads
    obtain ⟨⟨found, after⟩, readsRecord, reads⟩ :=
      bind_eq_ok_iff.mp (mapError_eq_ok_iff.mp reads)
    obtain ⟨_, readsEnd, same⟩ := bind_eq_ok_iff.mp reads
    cases same
    exact ⟨after, readsRecord, readEnd_eq_ok_iff.mp readsEnd⟩
  · rintro ⟨after, readsRecord, atEnd⟩
    refine mapError_eq_ok_iff.mpr (bind_eq_ok_iff.mpr ?_)
    exact
      ⟨(value, after), readsRecord,
        bind_eq_ok_iff.mpr ⟨(), readEnd_eq_ok_iff.mpr atEnd, rfl⟩⟩

end Record

end Untrack.Json
