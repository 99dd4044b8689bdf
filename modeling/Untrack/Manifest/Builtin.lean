import Untrack.Json.Value
import Untrack.Notice

namespace Untrack.Manifest

/-!
# Built-in providers

Two sites that show posts of another one have definitions of their own here.
They are put into every manifest: in place of a definition of the same name,
which keeps its place, or at the end.
-/

/-- A list of strings as a value. -/
def listValue (texts : List String) : Json.Value :=
  .array (texts.map .string)

/-- The definition for a site that shows posts of another. -/
def previewDefinition (site : String) : Json.Value :=
  .object
    [("urlPattern",
        .string
          ("^https?:\\/\\/(?:[a-z0-9-]+\\.)*?" ++ site ++ ".com")),
      ("rules", listValue ["(?:ref_?)?src", "s", "cn", "ref_url", "t"]),
      ("exceptions",
        listValue ["^https?:\\/\\/" ++ site ++ ".com\\/i\\/redirect"])]

/-- The built-in definitions in order. -/
def builtins : Entries Json.Value :=
  [("vxtwitter", previewDefinition "vxtwitter"),
    ("fxtwitter", previewDefinition "fxtwitter")]

/-- The definitions of a manifest with the built-in ones put in. -/
def withBuiltins (definitions : Entries Json.Value) : Entries Json.Value :=
  definitions.putAll builtins

/-- A notice for each built-in definition that takes the place of another. -/
def overrides (definitions : Entries Json.Value) : List Notice :=
  (builtins.names.filter definitions.hasName).map .builtinOverrides

end Untrack.Manifest
