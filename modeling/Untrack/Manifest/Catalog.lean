import Untrack.Manifest.Builtin
import Untrack.Manifest.Definition
import Untrack.Manifest.Document
import Untrack.Provider.Basic

namespace Untrack.Manifest

/-!
# From manifests to providers

`compile` makes the providers of a manifest text. It fails only where the text
as a whole is no manifest; a definition that cannot be used is left out, with a
notice.
-/

/-- Why the patterns of a definition failed, as a failure of the provider. -/
def failureOf (name : String) : Provider.Refusal → Failure
  | .pattern fault => .pattern fault
  | .redirectionWithoutGroup text =>
      .definition name (.redirectionWithoutGroup text)

/-- Compile the provider that a definition describes. -/
def compileDefinition
    (name : String)
    (definition : Definition) :
    Except Failure Provider :=
  (Provider.compile name definition.urlPattern definition.parameterRules
    (definition.redirections.getD [])
    (definition.exceptions.getD [])).mapError (failureOf name)

/-- Compile one entry of a manifest. -/
def compileEntry
    (name : String)
    (value : Json.Value) :
    Except Failure Provider :=
  match Definition.ofValue value with
  | .ok definition => compileDefinition name definition
  | .error cause => .error (.definition name (.shape cause))

/-- The definitions of a manifest text. -/
def readEntries (text : List Char) : Except Failure (Entries Json.Value) :=
  match Document.parse text with
  | .error fault => .error (.manifest (.unreadable fault))
  | .ok document =>
      match document.providers with
      | none => .error (.manifest .withoutProviders)
      | some (.object []) => .error (.manifest .emptyProviders)
      | some (.object members) => .ok members
      | some _ => .error (.manifest .providersNotObject)

/-- Every entry with what compiling it gave, in order. -/
def compileEntries (entries : Entries Json.Value) :
    List (String × Except Failure Provider) :=
  entries.map fun (name, value) => (name, compileEntry name value)

/-- The providers among compiled entries. -/
def providersOf (compiled : List (String × Except Failure Provider)) :
    List Provider :=
  compiled.filterMap fun (_, result) => result.toOption

/-- A notice for each entry that was left out. -/
def skippedIn (compiled : List (String × Except Failure Provider)) :
    List Notice :=
  compiled.filterMap fun (name, result) =>
    match result with
    | .ok _ => none
    | .error failure => some (.entrySkipped name failure)

/-- Count what some compiled entries came to. -/
def tally (compiled : List (String × Except Failure Provider)) : Tally :=
  let providers := providersOf compiled
  { compiled := providers.length
    skipped := (skippedIn compiled).length
    parameters := (providers.map (·.parameters.length)).foldl (· + ·) 0
    redirections := (providers.map (·.redirections.length)).foldl (· + ·) 0
    exceptions := (providers.map (·.exceptions.length)).foldl (· + ·) 0 }

/-- What compiling a manifest gives: providers or a failure, and the notices. -/
structure Compilation where
  result : Except Failure (List Provider)
  notices : List Notice

/-- Compile a manifest text. -/
def compile (text : String) : Compilation :=
  match readEntries text.toList with
  | .error failure =>
      { result := .error failure
        notices := [.compilationStarted] }
  | .ok entries =>
      let compiled := compileEntries (withBuiltins entries)
      { result := .ok (providersOf compiled)
        notices :=
          .compilationStarted :: overrides entries ++ skippedIn compiled ++
            [.compiled (tally compiled)] }

end Untrack.Manifest
