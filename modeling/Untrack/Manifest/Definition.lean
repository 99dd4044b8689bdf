import Untrack.Json.Record

namespace Untrack.Manifest

/-!
# Definitions of rule providers

The raw definition of one provider, as a manifest writes it. Only the pattern of
its addresses has to be there. Its parameter rules come under three headings,
and `parameterRules` puts them together.
-/

/-- The definition of one rule provider. -/
structure Definition where
  urlPattern : String
  rules : Option (List String)
  rawRules : Option (List String)
  referralMarketing : Option (List String)
  redirections : Option (List String)
  exceptions : Option (List String)
  deriving Repr, DecidableEq

/-- Put in the texts that are not there yet, in order. -/
def addNew (present : List String) : List String → List String
  | [] => present
  | text :: rest =>
      if text ∈ present then
        addNew present rest
      else
        addNew (present ++ [text]) rest

namespace Definition

/-- Every parameter rule once, in the order in which the rules first come. -/
def parameterRules (definition : Definition) : List String :=
  addNew []
    (definition.rules.getD [] ++ definition.rawRules.getD [] ++
      definition.referralMarketing.getD [])

/-- What a field of a definition can hold. -/
inductive Content where
  | text (value : String)
  | texts (value : Option (List String))
  deriving Repr

namespace Content

/-- The list that a field holds, if it holds one. -/
def list? : Content → Option (List String)
  | .texts value => value
  | .text _ => none

end Content

/-- The field that has to be there. -/
def requiredField : String := "urlPattern"

/-- Make a definition of the fields that were there. -/
def ofFields
    (fromList : Bool)
    (seen : Entries Content) :
    Except Json.Cause Definition :=
  let list (name : String) : Option (List String) :=
    (seen.get? name).bind Content.list?
  match seen.get? requiredField with
  | some (.text urlPattern) =>
      .ok
        { urlPattern
          rules := list "rules"
          rawRules := list "rawRules"
          referralMarketing := list "referralMarketing"
          redirections := list "redirections"
          exceptions := list "exceptions" }
  | _ =>
      if fromList then
        .error (.invalidLength 0 "struct RawProvider with 6 elements")
      else
        .error (.missingField requiredField)

/-- How definitions are read. -/
def record : Json.Record Definition Content where
  name := "struct RawProvider"
  fields :=
    [requiredField, "rules", "rawRules", "referralMarketing", "redirections",
      "exceptions"]
  readField field _ cursor :=
    if field = requiredField then
      (Json.readText cursor).map fun (value, left) => (.text value, left)
    else
      (Json.readOptionalTexts cursor).map fun (value, left) =>
        (.texts value, left)
  fieldOfValue field value :=
    if field = requiredField then
      (Json.textOfValue value).map .text
    else
      (Json.optionalTextsOfValue value).map .texts
  build := ofFields

/-- Read a definition from a text. -/
def parse (text : List Char) : Except Json.Fault Definition :=
  record.parse text

/-- Take a definition from a value. -/
def ofValue (value : Json.Value) : Except Json.Cause Definition :=
  record.ofValue value

end Definition

end Untrack.Manifest
