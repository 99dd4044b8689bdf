import Untrack.Manifest.Catalog

namespace Untrack.Manifest

/-!
# Built-in providers always compile

Whatever a manifest says, the built-in definitions are among those that are
compiled, and they compile. A manifest that compiles therefore gives at least
one provider.
-/

/-- Every built-in definition compiles. -/
theorem exists_compileEntry_builtin
    {entry : String × Json.Value}
    (isBuiltin : entry ∈ builtins) :
    ∃ provider, compileEntry entry.1 entry.2 = .ok provider := by
  have allCompile :
      builtins.all (fun entry =>
        (compileEntry entry.1 entry.2).toOption.isSome) = true := by
    decide +kernel
  have compiles := List.all_eq_true.mp allCompile entry isBuiltin
  cases result : compileEntry entry.1 entry.2 with
  | ok provider =>
      exact ⟨provider, rfl⟩
  | error failure =>
      simp [result, Except.toOption] at compiles

/-- Every built-in definition is among those of a manifest with them put in. -/
theorem mem_withBuiltins
    (definitions : Entries Json.Value)
    {entry : String × Json.Value}
    (isBuiltin : entry ∈ builtins) :
    entry ∈ withBuiltins definitions := by
  have distinct : (Entries.names builtins).Nodup := by
    decide
  exact Entries.mem_of_get?
    (Entries.get?_putAll_of_mem definitions builtins distinct isBuiltin)

/-- An entry that compiles gives one of the providers. -/
theorem mem_providersOf_of_compileEntry
    {entries : Entries Json.Value}
    {entry : String × Json.Value}
    {provider : Provider}
    (member : entry ∈ entries)
    (compiles : compileEntry entry.1 entry.2 = .ok provider) :
    provider ∈ providersOf (compileEntries entries) := by
  refine List.mem_filterMap.mpr
    ⟨(entry.1, compileEntry entry.1 entry.2), ?_, ?_⟩
  · exact List.mem_map.mpr ⟨entry, member, rfl⟩
  · simp [compiles, Except.toOption]

/-- A manifest that compiles gives some provider. -/
theorem providers_ne_nil_of_compile
    {text : String}
    {providers : List Provider}
    (compiled : (compile text).result = .ok providers) :
    providers ≠ [] := by
  unfold compile at compiled
  split at compiled
  · cases compiled
  · rename_i entries _
    have first : ("vxtwitter", previewDefinition "vxtwitter") ∈ builtins := by
      simp [builtins]
    obtain ⟨provider, compiles⟩ := exists_compileEntry_builtin first
    have member :
        provider ∈ providersOf (compileEntries (withBuiltins entries)) :=
      mem_providersOf_of_compileEntry
        (mem_withBuiltins entries first) compiles
    have same : providersOf (compileEntries (withBuiltins entries)) = providers := by
      simpa using compiled
    rw [← same]
    exact List.ne_nil_of_mem member

end Untrack.Manifest
