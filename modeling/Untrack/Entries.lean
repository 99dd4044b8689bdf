namespace Untrack

/-!
# Entries in order

A list of named entries in which every name occurs once. Putting in a name that
is there already gives it a new value in its old place; a new name goes to the
end.
-/

/-- Named entries in the order in which their names first came. -/
abbrev Entries (α : Type) := List (String × α)

namespace Entries

variable {α : Type}

/-- The names in order. -/
def names (entries : Entries α) : List String :=
  entries.map (·.1)

/-- Some entry has the name. -/
def hasName (entries : Entries α) (name : String) : Bool :=
  entries.any (·.1 == name)

/-- The value of a name. -/
def get? (entries : Entries α) (name : String) : Option α :=
  (entries.find? (·.1 == name)).map (·.2)

/-- Give a name a value, in its place or at the end. -/
def put (entries : Entries α) (name : String) (value : α) : Entries α :=
  match entries with
  | [] => [(name, value)]
  | entry :: rest =>
      if entry.1 == name then
        (name, value) :: rest
      else
        entry :: put rest name value

/-- Put in several entries, one after another. -/
def putAll (entries added : Entries α) : Entries α :=
  added.foldl (fun sofar entry => put sofar entry.1 entry.2) entries

/-- The names of entries one after another. -/
@[simp]
theorem names_append (entries others : Entries α) :
    names (entries ++ others) = names entries ++ names others :=
  List.map_append

@[simp]
theorem names_cons (entry : String × α) (rest : Entries α) :
    names (entry :: rest) = entry.1 :: names rest :=
  rfl

@[simp]
theorem names_nil : names ([] : Entries α) = [] :=
  rfl

/-- Some entry has a name if it is one of the names. -/
theorem hasName_eq_true_iff {entries : Entries α} {name : String} :
    hasName entries name = true ↔ name ∈ names entries := by
  simp only [hasName, names, List.any_eq_true, beq_iff_eq, List.mem_map]

/-- A name that is put in is there. -/
theorem get?_put_self
    (entries : Entries α)
    (name : String)
    (value : α) :
    get? (put entries name value) name = some value := by
  induction entries with
  | nil => simp [put, get?]
  | cons entry rest inductionHypothesis =>
      by_cases same : entry.1 = name
      · simp [put, get?, same]
      · simp only [get?, Option.map_eq_some_iff] at inductionHypothesis
        simp [put, get?, same, inductionHypothesis]

/-- The names after an entry is put in: the old ones, and a new one at the end. -/
theorem names_put
    (entries : Entries α)
    (name : String)
    (value : α) :
    names (put entries name value) =
      if name ∈ names entries then
        names entries
      else
        names entries ++ [name] := by
  induction entries with
  | nil => simp [put, names]
  | cons entry rest inductionHypothesis =>
      by_cases same : entry.1 = name
      · simp [put, names, same]
      · have other : name ≠ entry.1 := fun equal => same equal.symm
        simp only [names, put, beq_iff_eq, same, ↓reduceIte, List.map_cons,
          List.mem_cons, other, false_or] at *
        rw [inductionHypothesis]
        split <;> simp_all

/-- Putting in a name leaves the value of any other name as it was. -/
theorem get?_put_of_ne
    (entries : Entries α)
    {name other : String}
    (value : α)
    (different : other ≠ name) :
    get? (put entries name value) other = get? entries other := by
  induction entries with
  | nil => simp [put, get?, different.symm]
  | cons entry rest inductionHypothesis =>
      by_cases same : entry.1 = name
      · simp [put, get?, same, different.symm]
      · simp only [get?] at inductionHypothesis
        by_cases found : entry.1 = other
        · subst found
          simp [put, get?, same]
        · simp [put, get?, same, found, inductionHypothesis]

/-- A name that is not among those put in keeps its value. -/
theorem get?_putAll_of_not_mem
    (entries added : Entries α)
    {name : String}
    (absent : name ∉ names added) :
    get? (putAll entries added) name = get? entries name := by
  induction added generalizing entries with
  | nil => rfl
  | cons entry rest inductionHypothesis =>
      simp only [names, List.map_cons, List.mem_cons, not_or] at absent
      rw [putAll, List.foldl_cons]
      exact (inductionHypothesis _ absent.2).trans
        (get?_put_of_ne entries entry.2 absent.1)

/-- Of entries with different names each one that is put in is there. -/
theorem get?_putAll_of_mem
    (entries added : Entries α)
    {name : String}
    {value : α}
    (distinct : (names added).Nodup)
    (member : (name, value) ∈ added) :
    get? (putAll entries added) name = some value := by
  induction added generalizing entries with
  | nil => simp at member
  | cons entry rest inductionHypothesis =>
      obtain ⟨absent, restDistinct⟩ := List.nodup_cons.mp distinct
      rw [putAll, List.foldl_cons]
      rcases List.mem_cons.mp member with isHead | inRest
      · subst isHead
        exact (get?_putAll_of_not_mem _ rest absent).trans
          (get?_put_self entries name value)
      · exact inductionHypothesis _ restDistinct inRest

/-- A value that is found belongs to an entry. -/
theorem mem_of_get?
    {entries : Entries α}
    {name : String}
    {value : α}
    (found : get? entries name = some value) :
    (name, value) ∈ entries := by
  obtain ⟨entry, isFirst, hasValue⟩ := Option.map_eq_some_iff.mp found
  have hasName : entry.1 = name := by
    simpa using List.find?_some isFirst
  have isEntry := List.mem_of_find?_eq_some isFirst
  rwa [← hasName, ← hasValue]

/-- Putting in an entry keeps names different. -/
theorem nodup_names_put
    {entries : Entries α}
    (distinct : (names entries).Nodup)
    (name : String)
    (value : α) :
    (names (put entries name value)).Nodup := by
  rw [names_put]
  split
  · exact distinct
  · rename_i isNew
    refine List.nodup_append.mpr ⟨distinct, by simp, ?_⟩
    intro old isOld added isAdded
    rw [List.mem_singleton.mp isAdded]
    rintro rfl
    exact isNew isOld

/-- Putting in entries keeps names different. -/
theorem nodup_names_putAll
    {entries : Entries α}
    (distinct : (names entries).Nodup)
    (added : Entries α) :
    (names (putAll entries added)).Nodup := by
  induction added generalizing entries with
  | nil =>
      exact distinct
  | cons entry rest inductionHypothesis =>
      exact inductionHypothesis (nodup_names_put distinct entry.1 entry.2)

/--
The names after entries are put in: the old ones, and then the new ones in the
order in which they first come.
-/
theorem names_putAll (entries added : Entries α) :
    names (putAll entries added) =
      names entries ++ ((names added).removeAll (names entries)).eraseDups := by
  induction added generalizing entries with
  | nil =>
      simp [putAll, List.removeAll]
  | cons entry rest inductionHypothesis =>
      have putFirst :
          names (putAll entries (entry :: rest)) =
            names (putAll (put entries entry.1 entry.2) rest) :=
        rfl
      rw [putFirst, inductionHypothesis, names_put]
      by_cases isOld : entry.1 ∈ names entries
      · simp [isOld, List.removeAll]
      · have onlyNew :
            ((names rest).removeAll (names entries ++ [entry.1])) =
              ((names rest).removeAll (names entries)).filter
                fun name => !name == entry.1 := by
          simp only [List.removeAll, List.filter_filter]
          refine List.filter_congr fun name _ => ?_
          by_cases same : name = entry.1 <;> simp [same]
        have isFirst :
            (names (entry :: rest)).removeAll (names entries) =
              entry.1 :: (names rest).removeAll (names entries) := by
          simp [List.removeAll, isOld]
        rw [if_neg isOld, onlyNew, isFirst, List.eraseDups_cons,
          List.append_assoc]
        rfl

/-- The first of the entries of a name decides, in one list or in the next. -/
theorem get?_append (entries others : Entries α) (name : String) :
    get? (entries ++ others) name =
      (get? entries name).or (get? others name) := by
  simp only [get?, List.find?_append, Option.map_or]

/-- The last of the entries of a name that are put in decides. -/
theorem get?_putAll (entries added : Entries α) (name : String) :
    get? (putAll entries added) name =
      (get? added.reverse name).or (get? entries name) := by
  induction added generalizing entries with
  | nil =>
      rfl
  | cons entry rest inductionHypothesis =>
      have putFirst :
          get? (putAll entries (entry :: rest)) name =
            get? (putAll (put entries entry.1 entry.2) rest) name :=
        rfl
      rw [putFirst, inductionHypothesis, List.reverse_cons, get?_append,
        Option.or_assoc]
      congr 1
      by_cases same : name = entry.1
      · rw [same, get?_put_self]
        simp [get?]
      · rw [get?_put_of_ne entries entry.2 same]
        simp [get?, Ne.symm same]

/-- Putting in entries leaves some if there are any. -/
theorem putAll_ne_nil
    {entries added : Entries α}
    (someAdded : added ≠ []) :
    putAll entries added ≠ [] := by
  obtain ⟨entry, rest, rfl⟩ := List.exists_cons_of_ne_nil someAdded
  intro isEmpty
  have found := get?_putAll entries (entry :: rest) entry.1
  rw [isEmpty, List.reverse_cons, get?_append, Option.or_assoc] at found
  cases get? rest.reverse entry.1 <;> simp [get?] at found

/-- An entry is put in among those of some names if its name is one of them. -/
theorem filter_put
    (keeps : String → Bool)
    (entries : Entries α)
    (name : String)
    (value : α) :
    (put entries name value).filter (keeps ·.1) =
      if keeps name then
        put (entries.filter (keeps ·.1)) name value
      else
        entries.filter (keeps ·.1) := by
  induction entries with
  | nil =>
      by_cases kept : keeps name <;> simp [put, kept]
  | cons entry rest inductionHypothesis =>
      by_cases same : entry.1 = name
      · subst same
        by_cases kept : keeps entry.1 <;> simp [put, kept]
      · by_cases kept : keeps entry.1
        · by_cases keptName : keeps name <;>
            simp_all [put]
        · simp_all [put]

/-- The entries of some names are put in among the old ones of these names. -/
theorem filter_putAll
    (keeps : String → Bool)
    (entries added : Entries α) :
    (putAll entries added).filter (keeps ·.1) =
      putAll (entries.filter (keeps ·.1)) (added.filter (keeps ·.1)) := by
  induction added generalizing entries with
  | nil =>
      rfl
  | cons entry rest inductionHypothesis =>
      have putFirst :
          putAll entries (entry :: rest) =
            putAll (put entries entry.1 entry.2) rest :=
        rfl
      rw [putFirst, inductionHypothesis, filter_put]
      by_cases kept : keeps entry.1
      · simp [kept, putAll]
      · simp [kept]

/-- The value of an entry is found where names are different. -/
theorem get?_of_mem
    {entries : Entries α}
    {entry : String × α}
    (distinct : (names entries).Nodup)
    (member : entry ∈ entries) :
    get? entries entry.1 = some entry.2 := by
  induction entries with
  | nil =>
      cases member
  | cons first rest inductionHypothesis =>
      obtain ⟨isNew, restDistinct⟩ := List.nodup_cons.mp distinct
      rcases List.mem_cons.mp member with rfl | inRest
      · simp [get?]
      · have different : first.1 ≠ entry.1 := by
          intro same
          exact isNew (List.mem_map.mpr ⟨entry, inRest, same.symm⟩)
        have found := inductionHypothesis restDistinct inRest
        simp only [get?] at found ⊢
        rw [List.find?_cons_of_neg (by simpa using different)]
        exact found

/-- Where names are different, what is found does not depend on the order. -/
theorem get?_reverse
    {entries : Entries α}
    (distinct : (names entries).Nodup)
    (name : String) :
    get? entries.reverse name = get? entries name := by
  have reverseDistinct : (names entries.reverse).Nodup := by
    rw [names, List.map_reverse]
    exact (List.reverse_perm _).nodup_iff.mpr distinct
  refine Option.ext fun value => ?_
  constructor
  · intro found
    exact get?_of_mem distinct (List.mem_reverse.mp (mem_of_get? found))
  · intro found
    exact get?_of_mem reverseDistinct (List.mem_reverse.mpr (mem_of_get? found))

/-- Names that are different, and their values, make the entries. -/
theorem ext_of_names
    {entries others : Entries α}
    (distinct : (names entries).Nodup)
    (sameNames : names entries = names others)
    (sameValues : ∀ name ∈ names entries, get? entries name = get? others name) :
    entries = others := by
  refine List.ext_getElem ?_ ?_
  · simpa [names] using congrArg List.length sameNames
  · intro index inEntries inOthers
    have sameName : entries[index].1 = others[index].1 := by
      have atIndex :
          (names entries)[index]? = (names others)[index]? := by
        rw [sameNames]
      simpa [names, inEntries, inOthers] using atIndex
    have value := get?_of_mem distinct (List.getElem_mem inEntries)
    have otherValue :=
      get?_of_mem (sameNames ▸ distinct) (List.getElem_mem inOthers)
    have isName : entries[index].1 ∈ names entries :=
      List.mem_map.mpr ⟨_, List.getElem_mem inEntries, rfl⟩
    rw [sameValues _ isName, sameName, otherValue] at value
    exact Prod.ext sameName (Option.some.inj value).symm

/-- Of different names that are all the same there is one. -/
theorem eq_singleton_of_get?
    {entries : Entries α}
    {name : String}
    {value : α}
    (distinct : (names entries).Nodup)
    (allNamed : ∀ entry ∈ entries, entry.1 = name)
    (found : get? entries name = some value) :
    entries = [(name, value)] := by
  have isThere := mem_of_get? found
  match entries with
  | [] =>
      cases isThere
  | [entry] =>
      rw [List.mem_singleton.mp isThere]
  | entry :: other :: rest =>
      have sameName : other.1 = entry.1 := by
        rw [allNamed entry (by simp), allNamed other (by simp)]
      simp [sameName] at distinct

end Entries

end Untrack
