import Untrack.Proofs.Manifest.Shape
import Untrack.Proofs.Registry.Refresh

namespace Untrack.Manifest

open Json

/-!
# What a manifest compiles to

The definitions of a manifest are put in one after another, the built-in ones
last. `IsMapOf` and `HasBuiltins` say by names and values what comes of that, and
determine it.

`Catalog` says what compiling makes of these entries: the providers of those that
compile, in their order and under their names, and one notice for each of the
others. An entry that does not compile could as well not be there.
-/

/-- Every name in the place where it first comes, with the value that it has last. -/
structure IsMapOf
    (written : List (String × Value))
    (entries : Entries Value) : Prop where
  names_eq : entries.names = (Entries.names written).eraseDups
  get?_eq : ∀ name, entries.get? name = Entries.get? written.reverse name

/--
The built-in definitions are put in: each in the place of its name, or at the end
if the name is new.
-/
structure HasBuiltins (entries merged : Entries Value) : Prop where
  names_eq :
    merged.names =
      entries.names ++
        builtins.names.filter fun name => decide (name ∉ entries.names)
  get?_eq :
    ∀ name, merged.get? name = (builtins.get? name).or (entries.get? name)

/-- What a log is told of an entry that does not compile. -/
def refusal? (entry : String × Value) : Option Notice :=
  match compileEntry entry.1 entry.2 with
  | .ok _ => none
  | .error failure => some (.entrySkipped entry.1 failure)

/-- What compiling a text makes of its entries, with the built-in ones merged in. -/
structure Catalog
    (text : String)
    (entries merged : Entries Value)
    (providers : List Provider) : Prop where
  result_eq : (compile text).result = .ok providers
  /-- In the order of the entries, the providers are those that they compile to. -/
  providers_eq :
    providers =
      merged.filterMap fun entry => (compileEntry entry.1 entry.2).toOption
  /-- Each provider has the name of its entry. -/
  names_eq :
    providers.map (·.name) =
      (merged.filter fun entry =>
        (compileEntry entry.1 entry.2).toOption.isSome).map (·.1)
  distinct : (providers.map (·.name)).Nodup
  /-- Each built-in definition gives the one provider of its name. -/
  builtin_once :
    ∀ entry ∈ builtins,
      ∃ provider,
        compileEntry entry.1 entry.2 = .ok provider ∧
          providers.filter (·.name = entry.1) = [provider]
  ne_nil : providers ≠ []
  /-- Each entry that does not compile is told of once, in order. -/
  refusals_eq :
    (compile text).notices.filter (·.level = .error) =
      merged.filterMap refusal?
  /-- Without an entry that does not compile the providers are the same. -/
  without :
    ∀ {other : String} {otherWritten : List (String × Value)}
      {name : String} {value : Value} {failure : Failure},
      entries.get? name = some value →
        compileEntry name value = .error failure →
          name ∉ builtins.names →
            Lists other.toList otherWritten →
              IsMapOf otherWritten (entries.filter (·.1 ≠ name)) →
                (compile other).result = .ok providers

/-! ## Entries by names and values -/

/-- Names of entries that were put in are different. -/
theorem nodup_names_entries (written : List (String × Value)) :
    (Entries.putAll [] written).names.Nodup :=
  Entries.nodup_names_putAll (by simp) written

/-- Putting in what is written gives the map of it, and only that is one. -/
theorem isMapOf_iff
    {written : List (String × Value)}
    {entries : Entries Value} :
    IsMapOf written entries ↔ entries = Entries.putAll [] written := by
  have names_putAll :
      (Entries.putAll [] written).names =
        (Entries.names written).eraseDups := by
    rw [Entries.names_putAll, Entries.names_nil, List.nil_append,
      List.removeAll_nil]
  have get?_putAll (name : String) :
      (Entries.putAll [] written).get? name =
        Entries.get? written.reverse name := by
    rw [Entries.get?_putAll]
    exact Option.or_none
  constructor
  · intro isMap
    refine (Entries.ext_of_names (nodup_names_entries written) ?_ ?_).symm
    · rw [names_putAll, isMap.names_eq]
    · intro name _
      rw [get?_putAll, isMap.get?_eq]
  · rintro rfl
    exact ⟨names_putAll, get?_putAll⟩

/-- Built-in names are different. -/
theorem nodup_names_builtins : builtins.names.Nodup := by
  decide

/-- A list without repetitions has none to leave out. -/
theorem eraseDups_of_nodup {names : List String} (distinct : names.Nodup) :
    names.eraseDups = names := by
  induction names with
  | nil =>
      rfl
  | cons name rest inductionHypothesis =>
      obtain ⟨isNew, restDistinct⟩ := List.nodup_cons.mp distinct
      have nothingLeftOut :
          (rest.filter fun other => !other == name) = rest := by
        refine List.filter_eq_self.mpr fun other inRest => ?_
        have different : other ≠ name := by
          rintro rfl
          exact isNew inRest
        simpa using different
      rw [List.eraseDups_cons, nothingLeftOut, inductionHypothesis restDistinct]

/-- The entries of a manifest have the built-in ones after these were put in. -/
theorem hasBuiltins_withBuiltins (entries : Entries Value) :
    HasBuiltins entries (withBuiltins entries) := by
  constructor
  · have newNames :
        builtins.names.removeAll entries.names =
          builtins.names.filter fun name => decide (name ∉ entries.names) := by
      simp [List.removeAll]
    rw [withBuiltins, Entries.names_putAll, newNames,
      eraseDups_of_nodup (nodup_names_builtins.sublist List.filter_sublist)]
  · intro name
    rw [withBuiltins, Entries.get?_putAll,
      Entries.get?_reverse nodup_names_builtins]

/-- With the built-in definitions put in, names are still different. -/
theorem nodup_names_withBuiltins (written : List (String × Value)) :
    (withBuiltins (Entries.putAll [] written)).names.Nodup :=
  Entries.nodup_names_putAll (nodup_names_entries written) builtins

/-! ## Providers and their names -/

/-- An entry compiles to a provider of its name. -/
theorem name_of_compileEntry
    {name : String}
    {value : Value}
    {provider : Provider}
    (compiles : compileEntry name value = .ok provider) :
    provider.name = name := by
  unfold compileEntry at compiles
  split at compiles
  · rename_i definition _
    unfold compileDefinition Provider.compile at compiles
    obtain ⟨address, _, compiles⟩ :=
      bind_eq_ok_iff.mp (mapError_eq_ok_iff.mp compiles)
    obtain ⟨exceptions, _, compiles⟩ := bind_eq_ok_iff.mp compiles
    obtain ⟨parameters, _, compiles⟩ := bind_eq_ok_iff.mp compiles
    obtain ⟨redirections, _, made⟩ := bind_eq_ok_iff.mp compiles
    cases made
    rfl
  · cases compiles

/-- The providers of entries, in their order. -/
theorem providersOf_compileEntries (entries : Entries Value) :
    providersOf (compileEntries entries) =
      entries.filterMap fun entry =>
        (compileEntry entry.1 entry.2).toOption := by
  rw [providersOf, compileEntries, List.filterMap_map]
  rfl

/-- The notices of entries that do not compile, in their order. -/
theorem skippedIn_compileEntries (entries : Entries Value) :
    skippedIn (compileEntries entries) = entries.filterMap refusal? := by
  rw [skippedIn, compileEntries, List.filterMap_map]
  rfl

/-- The names of the providers are those of the entries that compile. -/
theorem map_name_compiled (entries : Entries Value) :
    (entries.filterMap fun entry =>
      (compileEntry entry.1 entry.2).toOption).map (·.name) =
      (entries.filter fun entry =>
        (compileEntry entry.1 entry.2).toOption.isSome).map (·.1) := by
  induction entries with
  | nil =>
      rfl
  | cons entry rest inductionHypothesis =>
      cases compiled : compileEntry entry.1 entry.2 with
      | error failure =>
          simpa [compiled, Except.toOption] using inductionHypothesis
      | ok provider =>
          simpa [compiled, Except.toOption, name_of_compileEntry compiled]
            using inductionHypothesis

/-- Where names are different there is one provider of a name. -/
theorem filter_name_eq_singleton
    {providers : List Provider}
    {provider : Provider}
    (distinct : (providers.map (·.name)).Nodup)
    (member : provider ∈ providers) :
    providers.filter (·.name = provider.name) = [provider] := by
  induction providers with
  | nil =>
      cases member
  | cons first rest inductionHypothesis =>
      obtain ⟨isNew, restDistinct⟩ := List.nodup_cons.mp distinct
      rcases List.mem_cons.mp member with rfl | inRest
      · have noOther :
            rest.filter (·.name = provider.name) = [] := by
          refine List.filter_eq_nil_iff.mpr fun other inRest => ?_
          simp only [decide_eq_true_eq]
          intro same
          exact isNew (List.mem_map.mpr ⟨other, inRest, same⟩)
        simp [noOther]
      · have different : first.name ≠ provider.name := by
          intro same
          exact isNew (List.mem_map.mpr ⟨provider, inRest, same.symm⟩)
        simpa [different] using inductionHypothesis restDistinct inRest

/-- The notices of errors of a compilation tell of entries that do not compile. -/
theorem errors_of_compile
    {text : String}
    {entries : Entries Value}
    (reads : readEntries text.toList = .ok entries) :
    (compile text).notices.filter (·.level = .error) =
      (withBuiltins entries).filterMap refusal? := by
  have noOverride :
      (overrides entries).filter (·.level = .error) = [] := by
    refine List.filter_eq_nil_iff.mpr fun notice member => ?_
    obtain ⟨name, _, rfl⟩ := List.mem_map.mp member
    simp [Notice.level]
  have allRefusals :
      ((withBuiltins entries).filterMap refusal?).filter (·.level = .error) =
        (withBuiltins entries).filterMap refusal? := by
    refine List.filter_eq_self.mpr fun notice member => ?_
    obtain ⟨entry, _, told⟩ := List.mem_filterMap.mp member
    unfold refusal? at told
    split at told <;> cases told
    simp [Notice.level]
  have notices :
      (compile text).notices =
        .compilationStarted :: overrides entries ++
            skippedIn (compileEntries (withBuiltins entries)) ++
          [.compiled (tally (compileEntries (withBuiltins entries)))] := by
    simp [compile, reads]
  rw [notices, skippedIn_compileEntries, List.filter_append, List.filter_append,
    List.filter_cons, noOverride, allRefusals]
  simp [Notice.level]

/-! ## What a manifest compiles to -/

/-- Entries that give nothing can be left out. -/
theorem filterMap_filter_of_none
    {α β : Type}
    {keeps : α → Bool}
    {take : α → Option β}
    {items : List α}
    (nothing : ∀ item ∈ items, keeps item = false → take item = none) :
    (items.filter keeps).filterMap take = items.filterMap take := by
  induction items with
  | nil =>
      rfl
  | cons item rest inductionHypothesis =>
      have restSame :=
        inductionHypothesis fun other inRest =>
          nothing other (List.mem_cons_of_mem _ inRest)
      cases kept : keeps item with
      | true =>
          simp [kept, List.filterMap_cons, restSame]
      | false =>
          simp [kept, nothing item List.mem_cons_self kept, restSame]

/-- The providers of a text that lists definitions. -/
theorem result_of_lists
    {text : String}
    {written : List (String × Value)}
    (lists : Lists text.toList written) :
    (compile text).result =
      .ok ((withBuiltins (Entries.putAll [] written)).filterMap fun entry =>
        (compileEntry entry.1 entry.2).toOption) := by
  have reads := readEntries_eq_ok_iff.mpr ⟨written, lists, rfl⟩
  simp only [compile, reads, providersOf_compileEntries]

/-- An entry that does not compile and is not built in could as well not be there. -/
theorem providers_without
    {written : List (String × Value)}
    {name : String}
    {value : Value}
    {failure : Failure}
    (found : (Entries.putAll [] written).get? name = some value)
    (fails : compileEntry name value = .error failure)
    (notBuiltin : name ∉ builtins.names) :
    ((withBuiltins
        ((Entries.putAll [] written).filter (·.1 ≠ name))).filterMap fun entry =>
      (compileEntry entry.1 entry.2).toOption) =
      (withBuiltins (Entries.putAll [] written)).filterMap fun entry =>
        (compileEntry entry.1 entry.2).toOption := by
  have builtinsKept : builtins.filter (·.1 ≠ name) = builtins := by
    refine List.filter_eq_self.mpr fun entry isBuiltin => ?_
    have different : entry.1 ≠ name := by
      rintro rfl
      exact notBuiltin (List.mem_map.mpr ⟨entry, isBuiltin, rfl⟩)
    simpa using different
  have sameMerged :
      withBuiltins ((Entries.putAll [] written).filter (·.1 ≠ name)) =
        (withBuiltins (Entries.putAll [] written)).filter (·.1 ≠ name) := by
    have parts :=
      Entries.filter_putAll (fun other => decide (other ≠ name))
        (Entries.putAll [] written) builtins
    rw [builtinsKept] at parts
    exact parts.symm
  rw [sameMerged]
  -- Names are different, so what is left out is the one entry that fails.
  refine filterMap_filter_of_none fun entry member isNamed => ?_
  have isName : entry.1 = name := by
    simpa using isNamed
  have isValue : some entry.2 = some value := by
    have noBuiltin : builtins.get? name = none := by
      rw [Entries.get?, List.find?_eq_none.mpr]
      · rfl
      · intro other isBuiltin
        simp only [beq_iff_eq]
        rintro rfl
        exact notBuiltin (List.mem_map.mpr ⟨other, isBuiltin, rfl⟩)
    rw [← Entries.get?_of_mem (nodup_names_withBuiltins written) member, isName,
      (hasBuiltins_withBuiltins _).get?_eq, noBuiltin, found]
    rfl
  rw [isName, Option.some.inj isValue, fails]
  rfl

/--
A text that lists definitions compiles to the catalog of their map with the
built-in ones put in. A registry that refreshes never finds a new list without
providers.
-/
theorem compile_catalog
    {text : String}
    {written : List (String × Value)}
    (lists : Lists text.toList written) :
    ∃ entries merged providers,
      IsMapOf written entries ∧
        HasBuiltins entries merged ∧
          Catalog text entries merged providers ∧
            ∀ {σ : Type} (fetcher : Rules.Fetcher σ)
              (registry : Rules.Registry) (now : Nat) (state : σ),
              .notice .nothingLoaded ∉
                (registry.refresh fetcher now state).events := by
  have reads := readEntries_eq_ok_iff.mpr ⟨written, lists, rfl⟩
  have result := result_of_lists lists
  have distinct :
      (((withBuiltins (Entries.putAll [] written)).filterMap fun entry =>
        (compileEntry entry.1 entry.2).toOption).map (·.name)).Nodup := by
    rw [map_name_compiled]
    exact
      (List.filter_sublist.map Prod.fst).nodup
        (nodup_names_withBuiltins written)
  refine
    ⟨_, _, _, isMapOf_iff.mpr rfl, hasBuiltins_withBuiltins _,
      { result_eq := result
        providers_eq := rfl
        names_eq := map_name_compiled _
        distinct
        builtin_once := ?_
        ne_nil := providers_ne_nil_of_compile result
        refusals_eq := errors_of_compile reads
        without := ?_ },
      Rules.Registry.nothingLoaded_not_mem_refresh⟩
  · intro entry isBuiltin
    obtain ⟨provider, compiles⟩ := exists_compileEntry_builtin isBuiltin
    have member :=
      mem_providersOf_of_compileEntry
        (mem_withBuiltins (Entries.putAll [] written) isBuiltin) compiles
    rw [providersOf_compileEntries] at member
    refine ⟨provider, compiles, ?_⟩
    rw [← name_of_compileEntry compiles]
    exact filter_name_eq_singleton distinct member
  · intro other otherWritten name value failure found fails notBuiltin
      otherLists isMap
    rw [result_of_lists otherLists, ← isMapOf_iff.mp isMap,
      providers_without found fails notBuiltin]

/-- A manifest with a broken entry, a built-in name and a name that comes twice. -/
def mixedText : String :=
  "\x7b\"providers\":\x7b\"bad\":\x7b\"urlPattern\":\"(\"\x7d," ++
    "\"fxtwitter\":\x7b\x7d,\"a\":\x7b\"urlPattern\":\"a\"\x7d," ++
    "\"a\":\x7b\"urlPattern\":\"b\"\x7d\x7d\x7d"

/-- The broken entry is left out, and the built-in one keeps the place it found. -/
theorem compile_catalog_of_mixed_text :
    ∃ written,
      Lists mixedText.toList written ∧
        ∃ entries merged providers,
          IsMapOf written entries ∧
            HasBuiltins entries merged ∧
              Catalog mixedText entries merged providers ∧
                providers.map (·.name) = ["fxtwitter", "a", "vxtwitter"] := by
  have isRead : (readEntries mixedText.toList).toOption.isSome = true := by
    decide +kernel
  have names :
      (compile mixedText).result.toOption.map (·.map (·.name)) =
        some ["fxtwitter", "a", "vxtwitter"] := by
    decide +kernel
  cases reads : readEntries mixedText.toList with
  | error failure =>
      rw [reads] at isRead
      cases isRead
  | ok found =>
      obtain ⟨written, lists, _⟩ := readEntries_eq_ok_iff.mp reads
      obtain ⟨entries, merged, providers, isMap, hasBuiltins, catalog, _⟩ :=
        compile_catalog lists
      refine
        ⟨written, lists, entries, merged, providers, isMap, hasBuiltins,
          catalog, ?_⟩
      simpa [catalog.result_eq, Except.toOption] using names

end Untrack.Manifest
