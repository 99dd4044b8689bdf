import Untrack.Json.Record

namespace Untrack.Manifest

/-!
# Manifest documents

A manifest is an object with a member `providers`. What that member holds is
looked at later on; null in its place counts as no member.
-/

/-- A manifest as far as its text tells. -/
structure Document where
  providers : Option Json.Value
  deriving Repr

namespace Document

/-- The member that holds the providers. -/
def providersField : String := "providers"

/-- How manifests are read. -/
def record : Json.Record Document (Option Json.Value) where
  name := "struct RawManifest"
  fields := [providersField]
  readField _ depth cursor :=
    (Json.readValue depth cursor).map fun (value, left) =>
      match value with
      | .null => (none, left)
      | value => (some value, left)
  fieldOfValue _ value :=
    match value with
    | .null => .ok none
    | value => .ok (some value)
  build _ seen := .ok { providers := (seen.get? providersField).join }

/-- Read a manifest from a text. -/
def parse (text : List Char) : Except Json.Fault Document :=
  record.parse text

end Document

end Untrack.Manifest
