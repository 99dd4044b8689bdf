import Untrack.Manifest.Catalog
import Untrack.Proofs.Json.Fields

namespace Untrack.Manifest

open Json

/-!
# Which texts are manifests

A text lists definitions if it is a JSON document of one of two shapes: an object
with one member `providers`, or a list of one item; what is there has to be an
object with some members. Those members, as they are written, are the definitions
that the text lists.

`readEntries_eq_ok_iff` says that reading accepts these texts and no others. The
entries it gives are the definitions put in one after another. What a definition
holds does not matter, as long as it is JSON.
-/

/-- The levels of brackets in a definition: two are around it. -/
def definitionLevels : Nat :=
  depthLimit - 3

/-- Definitions in an object, as they are written. -/
def Definitions : Cursor → List (String × Value) → Cursor → Prop :=
  ObjectOf fun _ => Written definitionLevels

/-- What a manifest takes from a member: definitions, or nothing. -/
inductive Held (name : String) :
    Cursor → Option (List (String × Value)) → Cursor → Prop where
  | providers
      {cursor after : Cursor}
      {written : List (String × Value)}
      (isProviders : name = Document.providersField)
      (writes : Definitions cursor written after) :
      Held name cursor (some written) after
  | other
      {cursor after : Cursor}
      (isOther : name ≠ Document.providersField)
      (skips : skipValue cursor = .ok after) :
      Held name cursor none after

/-- An object with one member `providers`, which holds definitions. -/
def ObjectManifest
    (cursor : Cursor)
    (written : List (String × Value))
    (after : Cursor) : Prop :=
  ∃ members,
    ObjectOf Held cursor members after ∧
      members.filterMap (·.2) = [written]

/-- A list of one item, which holds definitions. -/
def ListManifest
    (cursor : Cursor)
    (written : List (String × Value))
    (after : Cursor) : Prop :=
  ListOf Definitions cursor [written] after

/-- A text lists definitions, one at least, in one of two shapes. -/
def Lists (text : List Char) (written : List (String × Value)) : Prop :=
  written ≠ [] ∧
    (Whole ObjectManifest text written ∨ Whole ListManifest text written)

/-! ## What holds the definitions -/

/-- The value that some definitions come to. -/
def valueOf (written : List (String × Value)) : Option Value :=
  some (.object (Entries.putAll [] written))

/-- The definitions among members, as they are written, are objects of entries. -/
theorem Definitions.readField_iff
    {name : String}
    {cursor after : Cursor}
    {entries : Entries Value} :
    Document.record.readField name (depthLimit - 1) cursor =
        .ok (some (.object entries), after) ↔
      ∃ written,
        Entries.putAll [] written = entries ∧
          Definitions cursor written after := by
  have readsValue :
      Document.record.readField name (depthLimit - 1) cursor =
          .ok (some (.object entries), after) ↔
        readValue (depthLimit - 1) cursor = .ok (.object entries, after) := by
    simp only [Document.record, map_eq_ok_iff, Prod.exists]
    constructor
    · rintro ⟨value, left, reads, same⟩
      split at same
      · cases same
      · cases same
        exact reads
    · intro reads
      exact ⟨_, _, reads, rfl⟩
  rw [readsValue, readValue_eq_ok_iff]
  exact Written.object_iff

/-- What the field of a manifest holds leaves no more text. -/
theorem left_readField_le
    {name : String}
    {depth : Nat}
    {cursor after : Cursor}
    {content : Option Value}
    (reads :
      Document.record.readField name depth cursor = .ok (content, after)) :
    after.left ≤ cursor.left := by
  simp only [Document.record, map_eq_ok_iff, Prod.exists] at reads
  obtain ⟨value, left, readsValue, same⟩ := reads
  have sameCursor : left = after := by
    split at same <;> cases same <;> rfl
  subst sameCursor
  exact Nat.le_of_lt (readValue_eq_ok_iff.mp readsValue).left_lt

/-- A manifest takes definitions where it takes a value that is an object. -/
theorem Held.part_iff
    {name : String}
    {cursor after : Cursor}
    {content : Option (Option Value)}
    (isObject : ∀ value ∈ content, ∃ entries, value = some (.object entries)) :
    Document.record.Part (depthLimit - 1) name cursor content after ↔
      ∃ written, written.map valueOf = content ∧ Held name cursor written after := by
  constructor
  · intro takes
    cases takes with
    | field isField reads =>
        obtain ⟨entries, rfl⟩ := isObject _ rfl
        obtain ⟨written, rfl, writes⟩ := Definitions.readField_iff.mp reads
        exact
          ⟨some written, rfl, .providers (List.mem_singleton.mp isField) writes⟩
    | other isOther skips =>
        refine ⟨none, rfl, .other ?_ skips⟩
        intro isProviders
        exact isOther (List.mem_singleton.mpr isProviders)
  · rintro ⟨written, rfl, holds⟩
    cases holds with
    | providers isProviders writes =>
        exact
          .field (List.mem_singleton.mpr isProviders)
            (Definitions.readField_iff.mpr ⟨_, rfl, writes⟩)
    | other isOther skips =>
        refine .other ?_ skips
        intro isField
        exact isOther (List.mem_singleton.mp isField)

/-- A member with the value that its definitions come to. -/
def taken (member : String × Option (List (String × Value))) :
    String × Option (Option Value) :=
  member.map id (Option.map valueOf)

/-- A manifest takes from members the values that their definitions come to. -/
theorem Held.members_iff
    {first : Bool}
    {cursor after : Cursor}
    {members : List (String × Option (Option Value))}
    (allObjects :
      ∀ member ∈ members, ∀ value ∈ member.2,
        ∃ entries, value = some (.object entries)) :
    Items (Member (Document.record.Part (depthLimit - 1))) '\x7d' first cursor
        members after ↔
      ∃ sources,
        sources.map taken = members ∧
          Items (Member Held) '\x7d' first cursor sources after :=
  Items.map_iff taken fun member isMember _ _ =>
    Member.map_iff fun _ => Held.part_iff (allObjects member isMember)

/-- Definitions do not start with a closing bracket. -/
theorem Definitions.start
    {cursor after : Cursor}
    {written : List (String × Value)}
    (writes : Definitions cursor written after) :
    ∃ first rest,
      cursor.skipBlanks.rest = first :: rest ∧ first ≠ ']' := by
  obtain ⟨_, ⟨rest, stands, _⟩, _⟩ := writes
  exact ⟨_, rest, stands, by decide⟩

/-- The blanks before definitions can be skipped first. -/
theorem Definitions.skipBlanks_iff
    {cursor after : Cursor}
    {written : List (String × Value)} :
    Definitions cursor.skipBlanks written after ↔
      Definitions cursor written after := by
  simp only [Definitions, ObjectOf, Sign.skipBlanks_iff]

/-! ## The two shapes -/

/-- The document that a field with this content makes. -/
theorem build_eq_ok_iff
    {fromList : Bool}
    {seen : Entries (Option Value)}
    {entries : Entries Value} :
    (∃ document,
      Document.record.build fromList seen = .ok document ∧
        document.providers = some (.object entries)) ↔
      seen.get? Document.providersField = some (some (.object entries)) := by
  simp [Document.record, Option.join_eq_some_iff]

/-- A manifest has one field among its members, and that is an object. -/
theorem read_object_iff
    {cursor opened after : Cursor}
    {entries : Entries Value}
    (opens : Sign '\x7b' cursor opened) :
    (∃ document,
      Document.record.read depthLimit cursor = .ok (document, after) ∧
        document.providers = some (.object entries)) ↔
      ∃ members,
        Items (Member (Document.record.Part (depthLimit - 1))) '\x7d' true
            opened members after ∧
          Record.fieldsAmong members =
            [(Document.providersField, some (.object entries))] := by
  constructor
  · rintro ⟨document, reads, holds⟩
    obtain ⟨members, writes, distinct, builds⟩ :=
      (Record.read_object_eq_ok_iff left_readField_le opens).mp reads
    refine ⟨members, writes, Entries.eq_singleton_of_get? distinct ?_ ?_⟩
    · intro entry isField
      exact
        List.mem_singleton.mp (Record.names_fieldsAmong writes entry isField)
    · exact build_eq_ok_iff.mp ⟨document, builds, holds⟩
  · rintro ⟨members, writes, fields⟩
    have found :
        (Record.fieldsAmong members).get? Document.providersField =
          some (some (.object entries)) := by
      rw [fields]
      rfl
    obtain ⟨document, builds, holds⟩ := build_eq_ok_iff.mpr found
    refine
      ⟨document,
        (Record.read_object_eq_ok_iff left_readField_le opens).mpr
          ⟨members, writes, ?_, builds⟩,
        holds⟩
    rw [fields]
    simp

/-- What the fields among members hold, in order. -/
theorem map_snd_fieldsAmong (members : List (String × Option (Option Value))) :
    (Record.fieldsAmong members).map (·.2) = members.filterMap (·.2) := by
  simp only [Record.fieldsAmong, List.map_filterMap]
  congr 1
  funext entry
  cases entry.2 <;> rfl

/-- An object is read as a manifest if definitions are in one of its members. -/
theorem ObjectManifest.read_iff
    {cursor opened after : Cursor}
    {entries : Entries Value}
    (opens : Sign '\x7b' cursor opened) :
    (∃ document,
      Document.record.read depthLimit cursor = .ok (document, after) ∧
        document.providers = some (.object entries)) ↔
      ∃ written,
        Entries.putAll [] written = entries ∧
          ObjectManifest cursor written after := by
  have heldOf (sources : List (String × Option (List (String × Value)))) :
      (sources.map taken).filterMap (·.2) =
        (sources.filterMap (·.2)).map valueOf := by
    rw [List.filterMap_map, List.map_filterMap]
    rfl
  rw [read_object_iff opens]
  constructor
  · rintro ⟨members, writes, fields⟩
    -- The one field is an object, so every member can be looked at as written.
    have allObjects :
        ∀ member ∈ members, ∀ value ∈ member.2,
          ∃ entries, value = some (.object entries) := by
      intro member isMember value isValue
      have isField :
          (member.1, value) ∈ Record.fieldsAmong members :=
        List.mem_filterMap.mpr
          ⟨member, isMember, by simp [Option.mem_def.mp isValue]⟩
      rw [fields, List.mem_singleton] at isField
      exact ⟨entries, congrArg Prod.snd isField⟩
    obtain ⟨sources, rfl, writesSources⟩ :=
      (Held.members_iff allObjects).mp writes
    have contents := heldOf sources
    rw [← map_snd_fieldsAmong, fields] at contents
    obtain ⟨written, shape, isObject⟩ :=
      List.map_eq_singleton_iff.mp contents.symm
    cases isObject
    exact ⟨written, rfl, sources, ⟨opened, opens, writesSources⟩, shape⟩
  · rintro ⟨written, rfl, sources, ⟨other, otherOpens, writes⟩, shape⟩
    cases opens.unique otherOpens
    have writesMembers :
        Items (Member (Document.record.Part (depthLimit - 1))) '\x7d' true
          opened (sources.map taken) after := by
      refine (Held.members_iff ?_).mpr ⟨sources, rfl, writes⟩
      intro member isMember value isValue
      obtain ⟨source, _, rfl⟩ := List.mem_map.mp isMember
      obtain ⟨_, _, rfl⟩ := Option.map_eq_some_iff.mp isValue
      exact ⟨_, rfl⟩
    refine ⟨sources.map taken, writesMembers, ?_⟩
    have contents := map_snd_fieldsAmong (sources.map taken)
    rw [heldOf, shape, List.map_singleton, List.map_eq_singleton_iff] at contents
    obtain ⟨⟨name, content⟩, fields, same⟩ := contents
    have isField : name ∈ Document.record.fields :=
      Record.names_fieldsAmong writesMembers (name, content) (by simp [fields])
    cases List.mem_singleton.mp isField
    cases same
    exact fields

/-- The field of a manifest is read from a list if definitions are its item. -/
theorem readListed_iff
    {cursor last : Cursor}
    {entries : Entries Value} :
    (∃ seen,
      Record.readListed Document.record (depthLimit - 1)
          Document.record.fields true [] cursor = .ok (seen, last) ∧
        seen.get? Document.providersField = some (some (.object entries))) ↔
      ∃ written,
        Entries.putAll [] written = entries ∧
          Definitions cursor written last := by
  constructor
  · rintro ⟨seen, reads, found⟩
    obtain ⟨⟨next, start⟩, finds, reads⟩ := bind_eq_ok_iff.mp reads
    cases next with
    | none =>
        cases reads
        cases found
    | some _ =>
        obtain ⟨rfl, before, isCursor, rfl, _⟩ := nextItem?_eq_some_iff.mp finds
        cases (isCursor : before = cursor)
        obtain ⟨⟨content, left⟩, readsField, reads⟩ := bind_eq_ok_iff.mp reads
        cases reads
        have isContent : content = some (.object entries) := by
          simpa [Entries.get?] using found
        subst isContent
        obtain ⟨written, shape, writes⟩ := Definitions.readField_iff.mp readsField
        exact ⟨written, shape, Definitions.skipBlanks_iff.mp writes⟩
  · rintro ⟨written, rfl, writes⟩
    have finds :
        nextItem? true cursor =
          .ok (some cursor.skipBlanks, cursor.skipBlanks) :=
      nextItem?_eq_some_iff.mpr ⟨rfl, cursor, rfl, rfl, writes.start⟩
    have readsField :
        Document.record.readField Document.providersField (depthLimit - 1)
            cursor.skipBlanks =
          .ok (some (.object (Entries.putAll [] written)), last) :=
      Definitions.readField_iff.mpr
        ⟨written, rfl, Definitions.skipBlanks_iff.mpr writes⟩
    refine ⟨[(Document.providersField, _)], ?_, rfl⟩
    refine bind_eq_ok_iff.mpr ⟨_, finds, ?_⟩
    exact bind_eq_ok_iff.mpr ⟨_, readsField, rfl⟩

/-- A list is read as a manifest if its one item holds definitions. -/
theorem ListManifest.read_iff
    {cursor opened after : Cursor}
    {entries : Entries Value}
    (opens : Sign '[' cursor opened) :
    (∃ document,
      Document.record.read depthLimit cursor = .ok (document, after) ∧
        document.providers = some (.object entries)) ↔
      ∃ written,
        Entries.putAll [] written = entries ∧
          ListManifest cursor written after := by
  constructor
  · rintro ⟨document, reads, holds⟩
    obtain ⟨seen, last, readsFields, builds, closes⟩ :=
      (Record.read_list_eq_ok_iff opens).mp reads
    have found := build_eq_ok_iff.mp ⟨document, builds, holds⟩
    obtain ⟨written, shape, writes⟩ :=
      readListed_iff.mp ⟨seen, readsFields, found⟩
    exact ⟨written, shape, opened, opens, .next rfl writes (.close closes)⟩
  · rintro ⟨written, shape, other, otherOpens, items⟩
    cases opens.unique otherOpens
    cases items with
    | next separated writes others =>
        cases (separated : _ = opened)
        cases others with
        | close closes =>
            obtain ⟨seen, readsFields, found⟩ :=
              readListed_iff.mpr ⟨written, shape, writes⟩
            obtain ⟨document, builds, holds⟩ := build_eq_ok_iff.mpr found
            exact
              ⟨document,
                (Record.read_list_eq_ok_iff opens).mpr
                  ⟨seen, _, readsFields, builds, closes⟩,
                holds⟩

/-! ## Reading accepts manifests -/

/-- A text is read as a document with providers if it has one of the shapes. -/
theorem parse_iff {text : List Char} {entries : Entries Value} :
    (∃ document,
      Document.parse text = .ok document ∧
        document.providers = some (.object entries)) ↔
      ∃ written,
        Entries.putAll [] written = entries ∧
          (Whole ObjectManifest text written ∨
            Whole ListManifest text written) := by
  simp only [Document.parse, Record.parse_eq_ok_iff]
  constructor
  · rintro ⟨document, ⟨after, reads, atEnd⟩, holds⟩
    obtain ⟨opened, isList | isObject⟩ := Record.sign_of_read reads
    · obtain ⟨written, shape, isManifest⟩ :=
        (ListManifest.read_iff isList).mp ⟨document, reads, holds⟩
      exact ⟨written, shape, .inr ⟨after, isManifest, atEnd⟩⟩
    · obtain ⟨written, shape, isManifest⟩ :=
        (ObjectManifest.read_iff isObject).mp ⟨document, reads, holds⟩
      exact ⟨written, shape, .inl ⟨after, isManifest, atEnd⟩⟩
  · rintro ⟨written, shape, ⟨after, isManifest, atEnd⟩ | ⟨after, isManifest, atEnd⟩⟩
    · have opens := isManifest
      obtain ⟨_, ⟨opened, opens, _⟩, _⟩ := opens
      obtain ⟨document, reads, holds⟩ :=
        (ObjectManifest.read_iff opens).mpr ⟨written, shape, isManifest⟩
      exact ⟨document, ⟨after, reads, atEnd⟩, holds⟩
    · have opens := isManifest
      obtain ⟨opened, opens, _⟩ := opens
      obtain ⟨document, reads, holds⟩ :=
        (ListManifest.read_iff opens).mpr ⟨written, shape, isManifest⟩
      exact ⟨document, ⟨after, reads, atEnd⟩, holds⟩

/-- The entries of a text are those that it lists, put in one after another. -/
theorem readEntries_eq_ok_iff {text : List Char} {entries : Entries Value} :
    readEntries text = .ok entries ↔
      ∃ written, Lists text written ∧ Entries.putAll [] written = entries := by
  have readsObject :
      readEntries text = .ok entries ↔
        entries ≠ [] ∧
          ∃ document,
            Document.parse text = .ok document ∧
              document.providers = some (.object entries) := by
    unfold readEntries
    cases parsed : Document.parse text with
    | error fault =>
        simp
    | ok document =>
        obtain ⟨providers⟩ := document
        simp only [Except.ok.injEq, exists_eq_left']
        split
        · simp
        · simp
        · rename_i members notEmpty
          simp only [Except.ok.injEq, Option.some.injEq, Value.object.injEq]
          constructor
          · rintro rfl
            exact ⟨notEmpty, rfl⟩
          · exact And.right
        · rename_i value _ notObject
          simp only [reduceCtorEq, false_iff, not_and, Option.some.injEq]
          intro _
          exact notObject entries
  rw [readsObject, parse_iff]
  constructor
  · rintro ⟨notEmpty, written, rfl, shapes⟩
    refine ⟨written, ⟨?_, shapes⟩, rfl⟩
    rintro rfl
    exact notEmpty rfl
  · rintro ⟨written, ⟨notEmpty, shapes⟩, rfl⟩
    exact ⟨Entries.putAll_ne_nil notEmpty, written, rfl, shapes⟩

/-- A text that is not read as a manifest fails as a manifest. -/
theorem kind_of_readEntries
    {text : List Char}
    {failure : Failure}
    (fails : readEntries text = .error failure) :
    failure.kind = .manifestFormat := by
  unfold readEntries at fails
  split at fails
  · cases fails
    rfl
  · split at fails <;> cases fails <;> rfl

/--
A manifest compiles if its text lists definitions in one of the two shapes,
whatever these hold; any other text fails as a manifest.
-/
theorem compile_ok_iff_lists (text : String) :
    ((∃ providers, (compile text).result = .ok providers) ↔
      ∃ written, Lists text.toList written) ∧
    ∀ failure,
      (compile text).result = .error failure →
        failure.kind = .manifestFormat := by
  cases reading : readEntries text.toList with
  | error failure =>
      have result : (compile text).result = .error failure := by
        simp [compile, reading]
      rw [result]
      refine ⟨⟨nofun, ?_⟩, ?_⟩
      · rintro ⟨written, lists⟩
        rw [readEntries_eq_ok_iff.mpr ⟨written, lists, rfl⟩] at reading
        cases reading
      · rintro other same
        cases same
        exact kind_of_readEntries reading
  | ok entries =>
      obtain ⟨written, lists, _⟩ := readEntries_eq_ok_iff.mp reading
      have result :
          (compile text).result =
            .ok (providersOf (compileEntries (withBuiltins entries))) := by
        simp [compile, reading]
      rw [result]
      exact ⟨⟨fun _ => ⟨written, lists⟩, fun _ => ⟨_, rfl⟩⟩, nofun⟩

/-- A list of one definition, with no object and no name `providers` around it. -/
def bareList : String :=
  "[\x7b\"a\":\x7b\"urlPattern\":\"a\"\x7d\x7d]"

/-- A text that is no object at all can compile: a list of one item does. -/
theorem bareList_compiles :
    (∃ providers, (compile bareList).result = .ok providers) ∧
      ¬ ∃ written, Whole ObjectManifest bareList.toList written := by
  constructor
  · have compiles : (compile bareList).result.toOption.isSome = true := by
      decide +kernel
    generalize (compile bareList).result = result at compiles
    cases result with
    | error failure =>
        cases compiles
    | ok providers =>
        exact ⟨providers, rfl⟩
  · rintro ⟨written, after, ⟨members, ⟨opened, ⟨rest, stands, _⟩, _⟩, _⟩, _⟩
    simp [bareList, Cursor.start, Cursor.skipBlanks, Cursor.past,
      Cursor.isBlank] at stands

end Untrack.Manifest
