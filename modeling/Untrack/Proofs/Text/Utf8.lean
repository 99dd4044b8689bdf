import Untrack.Text.Utf8

namespace Untrack.Text.Utf8

/-!
# Reading octets as text

An open character goes on with octets that begin nothing, so what begins a
character is read as such whatever stands open before it. Hence a text that was
written as octets is read back, a character that stands for itself is never lost
to octets before it, and no octet settles more than one character.
-/

/-! ## Open characters -/

/-- The next octet of an open character is one that begins no other. -/
structure Pending.Continues (pending : Pending) : Prop where
  low_ge :
    0x80 ≤ pending.low
  high_le :
    pending.high ≤ 0xBF

/-- What a first octet promises goes on with octets that begin nothing. -/
theorem continues_of_leading?
    {octet : Nat}
    {pending : Pending}
    (isLeading : leading? octet = some pending) :
    pending.Continues := by
  unfold leading? at isLeading
  constructor <;> grind

/-- An octet between characters leaves one open that goes on as it should. -/
theorem continues_of_openOctet
    {octet : Nat}
    {pending : Pending}
    (isOpen : (openOctet octet).2 = some pending) :
    pending.Continues := by
  unfold openOctet at isOpen
  split at isOpen
  · cases isOpen
  · split at isOpen
    · rename_i isLeading
      cases isOpen
      exact continues_of_leading? isLeading
    · cases isOpen

/-- Every octet leaves a character open that goes on as it should. -/
theorem continues_of_feed
    {state : Option Pending}
    {octet : Nat}
    {pending : Pending}
    (isOpen : (feed state octet).2 = some pending) :
    pending.Continues := by
  cases state with
  | none =>
      exact continues_of_openOctet isOpen
  | some last =>
      rw [feed] at isOpen
      split at isOpen
      · dsimp only at isOpen
        split at isOpen
        · cases isOpen
        · rw [← Option.some.inj isOpen]
          exact ⟨Nat.le_refl _, Nat.le_refl _⟩
      · exact continues_of_openOctet isOpen

/-- An octet that continues nothing is read as between characters. -/
theorem feed_of_begins
    {pending : Pending}
    {octet : Nat}
    (continues : pending.Continues)
    (begins : octet < 0x80 ∨ 0xBF < octet) :
    feed (some pending) octet =
      (replacement :: (openOctet octet).1, (openOctet octet).2) := by
  have outside : ¬(pending.low ≤ octet ∧ octet ≤ pending.high) := by
    have low := continues.low_ge
    have high := continues.high_le
    omega
  rw [feed, if_neg outside]

/-- Octets are read apart where the second of them begin a character. -/
theorem decodeFrom_append
    {octets others : List Nat}
    {state : Option Pending}
    (continues : ∀ pending, state = some pending → pending.Continues)
    (begins : ∀ octet, others.head? = some octet → octet < 0x80 ∨ 0xBF < octet) :
    decodeFrom state (octets ++ others) =
      decodeFrom state octets ++ decodeFrom none others := by
  induction octets generalizing state with
  | nil =>
      cases state with
      | none =>
          rfl
      | some pending =>
          cases others with
          | nil =>
              rfl
          | cons octet rest =>
              have isRead := feed_of_begins (continues pending rfl) (begins octet rfl)
              simp only [List.nil_append, decodeFrom]
              rw [isRead]
              rfl
  | cons octet rest inductionHypothesis =>
      simp only [List.cons_append, decodeFrom, List.append_assoc]
      rw [inductionHypothesis fun pending isOpen => continues_of_feed isOpen]

/-! ## Characters as octets -/

/-- The codes of characters leave out those that stand for halves of one. -/
private theorem toNat_range (character : Char) :
    character.toNat < 0xD800 ∨ 0xDFFF < character.toNat ∧ character.toNat < 0x110000 :=
  character.valid

/-- An open character holds these bits, owes so many octets and admits the next one. -/
structure Pending.Awaits (pending : Pending) (bits owed six : Nat) : Prop where
  bits_eq :
    pending.bits = bits
  owed_eq :
    pending.owed = owed
  low_le :
    pending.low ≤ 0x80 + six
  le_high :
    0x80 + six ≤ pending.high

/-- Past its second octet a character admits every octet that begins none. -/
theorem awaits_any {six : Nat} (isSix : six < 64) (bits owed : Nat) :
    Pending.Awaits ⟨bits, owed, 0x80, 0xBF⟩ bits owed six :=
  ⟨rfl, rfl, Nat.le_add_right _ _, by dsimp only; omega⟩

/-- A character that owes one octet is settled by it. -/
theorem decodeFrom_last
    {pending : Pending}
    {bits six : Nat}
    (awaits : pending.Awaits bits 1 six)
    (others : List Nat) :
    decodeFrom (some pending) ((0x80 + six) :: others) =
      Char.ofNat (bits * 64 + six) :: decodeFrom none others := by
  obtain ⟨rfl, isLast, low, high⟩ := awaits
  simp [decodeFrom, feed, low, high, isLast]

/-- A character that owes more octets stays open after the next one. -/
theorem decodeFrom_next
    {pending : Pending}
    {bits owed six : Nat}
    (awaits : pending.Awaits bits (owed + 2) six)
    (others : List Nat) :
    decodeFrom (some pending) ((0x80 + six) :: others) =
      decodeFrom (some ⟨bits * 64 + six, owed + 1, 0x80, 0xBF⟩) others := by
  obtain ⟨rfl, isOwed, low, high⟩ := awaits
  simp [decodeFrom, feed, low, high, isOwed]

/-- A first octet of a longer character opens it. -/
theorem decodeFrom_leading
    {octet : Nat}
    {pending : Pending}
    (isLeading : leading? octet = some pending)
    (others : List Nat) :
    decodeFrom none (octet :: others) = decodeFrom (some pending) others := by
  have notPlain : ¬octet < 0x80 := by
    unfold leading? at isLeading
    grind
  simp [decodeFrom, feed, openOctet, notPlain, isLeading]

/-- The first octet of a character of two. -/
theorem leading?_two {code : Nat} (low : 0x80 ≤ code) (high : code < 0x800) :
    leading? (0xC0 + code / 64) = some ⟨code / 64, 1, 0x80, 0xBF⟩ := by
  unfold leading?
  rw [if_pos (by omega), Nat.add_sub_cancel_left]

/-- The first octet of a character of three admits its second one. -/
theorem exists_leading?_three
    {code : Nat}
    (low : 0x800 ≤ code)
    (range : code < 0xD800 ∨ 0xDFFF < code)
    (high : code < 0x10000) :
    ∃ pending,
      leading? (0xE0 + code / 4096) = some pending ∧
        pending.Awaits (code / 4096) 2 (code / 64 % 64) := by
  unfold leading?
  rw [if_neg (by omega)]
  split
  · exact ⟨_, rfl, by constructor <;> dsimp only <;> omega⟩
  · split
    · exact ⟨_, rfl, by constructor <;> dsimp only <;> omega⟩
    · rw [if_pos (by omega)]
      exact ⟨_, rfl, by constructor <;> dsimp only <;> omega⟩

/-- The first octet of a character of four admits its second one. -/
theorem exists_leading?_four
    {code : Nat}
    (low : 0x10000 ≤ code)
    (high : code < 0x110000) :
    ∃ pending,
      leading? (0xF0 + code / 262144) = some pending ∧
        pending.Awaits (code / 262144) 3 (code / 4096 % 64) := by
  unfold leading?
  rw [if_neg (by omega), if_neg (by omega), if_neg (by omega), if_neg (by omega)]
  split
  · exact ⟨_, rfl, by constructor <;> dsimp only <;> omega⟩
  · split
    · exact ⟨_, rfl, by constructor <;> dsimp only <;> omega⟩
    · rw [if_pos (by omega)]
      exact ⟨_, rfl, by constructor <;> dsimp only <;> omega⟩

/-- The octets of a character are read as that character, whatever follows them. -/
theorem decodeFrom_encodeChar (character : Char) (others : List Nat) :
    decodeFrom none (encodeChar character ++ others) =
      character :: decodeFrom none others := by
  have range := toNat_range character
  have isCode : Char.ofNat character.toNat = character := Char.ofNat_toNat character
  unfold encodeChar
  generalize character.toNat = code at range isCode
  dsimp only
  have six (value : Nat) : value % 64 < 64 := Nat.mod_lt value (by decide)
  -- Each length of a character spreads its bits over the octets in its own way.
  by_cases one : code < 0x80
  · rw [if_pos one]
    simp [decodeFrom, feed, openOctet, one, isCode]
  by_cases two : code < 0x800
  · have isWhole : code / 64 * 64 + code % 64 = code := by omega
    rw [if_neg one, if_pos two]
    simp only [List.cons_append, List.nil_append]
    rw [decodeFrom_leading (leading?_two (by omega) two),
      decodeFrom_last (awaits_any (six _) _ _), isWhole, isCode]
  by_cases three : code < 0x10000
  · obtain ⟨pending, isLeading, awaits⟩ :=
      exists_leading?_three (Nat.le_of_not_lt two) (by omega) three
    have isWhole : (code / 4096 * 64 + code / 64 % 64) * 64 + code % 64 = code := by omega
    rw [if_neg one, if_neg two, if_pos three]
    simp only [List.cons_append, List.nil_append]
    rw [decodeFrom_leading isLeading, decodeFrom_next awaits,
      decodeFrom_last (awaits_any (six _) _ _), isWhole, isCode]
  · obtain ⟨pending, isLeading, awaits⟩ :=
      exists_leading?_four (Nat.le_of_not_lt three) (by omega)
    have isWhole :
        ((code / 262144 * 64 + code / 4096 % 64) * 64 + code / 64 % 64) * 64 + code % 64 =
          code := by
      omega
    rw [if_neg one, if_neg two, if_neg three]
    simp only [List.cons_append, List.nil_append]
    rw [decodeFrom_leading isLeading, decodeFrom_next awaits,
      decodeFrom_next (awaits_any (six _) _ _), decodeFrom_last (awaits_any (six _) _ _),
      isWhole, isCode]

/-- Text that was written as octets is read back. -/
theorem decode_encode (characters : List Char) : decode (encode characters) = characters := by
  induction characters with
  | nil =>
      rfl
  | cons character rest inductionHypothesis =>
      rw [decode, encode, List.flatMap_cons, decodeFrom_encodeChar]
      exact congrArg (character :: ·) inductionHypothesis

/-- The first octet of a character continues no other. -/
theorem begins_of_encodeChar (character : Char) (others : List Nat) :
    ∀ octet,
      (encodeChar character ++ others).head? = some octet →
      octet < 0x80 ∨ 0xBF < octet := by
  intro octet isFirst
  unfold encodeChar at isFirst
  grind

/-- One octet settles no more characters than it and an open character come to. -/
theorem length_feed_le (state : Option Pending) (octet : Nat) :
    (feed state octet).1.length + (feed state octet).2.toList.length ≤
      state.toList.length + 1 := by
  have opened : (openOctet octet).1.length + (openOctet octet).2.toList.length = 1 := by
    unfold openOctet
    split
    · rfl
    · cases leading? octet <;> rfl
  cases state with
  | none =>
      exact Nat.le_of_eq opened
  | some pending =>
      rw [feed]
      split
      · dsimp only
        split <;> simp
      · simp only [List.length_cons, Option.toList_some, List.length_nil]
        omega

/-- A character that stands for itself gives up what is open and is read as itself. -/
theorem decodeFrom_encodeChar_of_continues
    {state : Option Pending}
    (continues : ∀ pending, state = some pending → pending.Continues)
    (character : Char)
    (others : List Nat) :
    decodeFrom state (encodeChar character ++ others) =
      state.toList.map (fun _ => replacement) ++ character :: decodeFrom none others := by
  have apart :
      decodeFrom state ([] ++ (encodeChar character ++ others)) =
        decodeFrom state [] ++ decodeFrom none (encodeChar character ++ others) :=
    decodeFrom_append continues (begins_of_encodeChar character others)
  rw [List.nil_append, decodeFrom_encodeChar] at apart
  rw [apart]
  cases state <;> rfl

/-- The octets of a text are octets. -/
theorem lt_of_mem_encode
    {characters : List Char}
    {octet : Nat}
    (member : octet ∈ encode characters) :
    octet < 256 := by
  obtain ⟨character, -, inCharacter⟩ := List.mem_flatMap.mp member
  have range := toNat_range character
  unfold encodeChar at inCharacter
  grind

end Untrack.Text.Utf8
