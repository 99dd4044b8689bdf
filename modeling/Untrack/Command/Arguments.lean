import Untrack.Entries
import Untrack.Notice

namespace Untrack.Command

/-!
# Arguments

What the command line can say. A setting is named in full, its value follows as
the next argument or after an equals sign, and where it is not given a variable
of the environment or a standard value stands in. All else is a link, and so is
everything after `--`. The first fault ends the reading, and so does a wish to
see the version or the help.
-/

/-- A setting that takes a value. -/
inductive Setting where
  | addresses
  | refreshHours
  | timeout
  | retries
  | level
  | logLocation
  deriving Repr, DecidableEq

namespace Setting

/-- Every setting. -/
def all : List Setting :=
  [.addresses, .refreshHours, .timeout, .retries, .level, .logLocation]

/-- The name of a setting on the command line. -/
def name : Setting → String
  | .addresses => "rules-url"
  | .refreshHours => "refresh-hours"
  | .timeout => "http-timeout"
  | .retries => "retries"
  | .level => "log-level"
  | .logLocation => "log-location"

/-- The variable that can stand in for a setting. -/
def variableName : Setting → String
  | .addresses => "RSCLEARURLS_RULES_URL"
  | .refreshHours => "RSCLEARURLS_REFRESH_HOURS"
  | .timeout => "RSCLEARURLS_HTTP_TIMEOUT"
  | .retries => "RSCLEARURLS_RETRIES"
  | .level => "RSCLEARURLS_LOG_LEVEL"
  | .logLocation => "RSCLEARURLS_LOG_LOCATION"

/-- The setting that has a name. -/
def named? (name : String) : Option Setting :=
  all.find? (·.name = name)

end Setting

/-- What the arguments ask for. -/
structure Options where
  links : List String
  addresses : List String
  refreshHours : Nat
  timeout : Nat
  retries : Nat
  level : Level
  isVerbose : Bool
  logLocation : String
  deriving Repr, DecidableEq

/-- What holds where nothing is said. -/
def Options.standard : Options where
  links := []
  addresses := []
  refreshHours := 24
  timeout := 30
  retries := 1
  level := .warn
  isVerbose := false
  logLocation := "stderr"

/-- Why the arguments are not followed. -/
inductive Stop where
  | misuse
  | version
  | help
  deriving Repr, DecidableEq

/-! ## Values -/

/-- The number that some digits write; there has to be one. -/
def digits? (text : List Char) : Option Nat :=
  if !text.isEmpty && text.all Char.isDigit then
    some (Nat.ofDigitChars 10 text 0)
  else
    none

/-- A number up to a limit, with or without a plus sign. -/
def count? (limit : Nat) (text : String) : Option Nat :=
  let digits :=
    match text.toList with
    | '+' :: rest => rest
    | all => all
  (digits? digits).filter (· ≤ limit)

/-- A number up to 255; nought may have a minus sign. -/
def smallCount? (text : String) : Option Nat :=
  match text.toList with
  | '-' :: rest => (digits? rest).filter (· = 0)
  | _ => count? 255 text

/-- The greatest number of hours or seconds. -/
def maxCount : Nat := 0xFFFFFFFFFFFFFFFF

/-- The level that has a name. -/
def level? : String → Option Level
  | "debug" => some .debug
  | "info" => some .info
  | "warn" => some .warn
  | "error" => some .error
  | _ => none

/-- Give a setting a value; addresses, with commas between them, add up. -/
def Options.set? (options : Options) (value : String) : Setting → Option Options
  | .addresses =>
      some
        { options with
          addresses :=
            options.addresses ++
              (value.toList.splitOn ',').map String.ofList }
  | .refreshHours =>
      (count? maxCount value).map fun count =>
        { options with refreshHours := count }
  | .timeout =>
      (count? maxCount value).map fun count => { options with timeout := count }
  | .retries =>
      (smallCount? value).map fun count => { options with retries := count }
  | .level => (level? value).map fun level => { options with level }
  | .logLocation => some { options with logLocation := value }

/-! ## Reading -/

/-- The options so far, and the settings that they were given. -/
structure Reading where
  options : Options
  given : List Setting
  deriving Repr, DecidableEq

namespace Reading

/-- Nothing has been read. -/
def start : Reading where
  options := .standard
  given := []

/-- Read a value for a setting; only addresses can be given more than once. -/
def give (reading : Reading) (setting : Setting) (value : String) :
    Except Stop Reading :=
  if setting != .addresses && reading.given.contains setting then
    .error .misuse
  else
    match reading.options.set? value setting with
    | some options => .ok { options, given := setting :: reading.given }
    | none => .error .misuse

/-- Read the wish for a full log, which can be made once. -/
def makeVerbose (reading : Reading) : Except Stop Reading :=
  if reading.options.isVerbose then
    .error .misuse
  else
    .ok { reading with options := { reading.options with isVerbose := true } }

/-- Read some links. -/
def addLinks (reading : Reading) (links : List String) : Reading :=
  { reading with
    options := { reading.options with links := reading.options.links ++ links } }

/-- Read the letters after a single hyphen. -/
def letters (reading : Reading) : List Char → Except Stop Reading
  | [] => .ok reading
  | 'v' :: rest => reading.makeVerbose.bind (letters · rest)
  | 'V' :: _ => .error .version
  | 'h' :: _ => .error .help
  | _ :: _ => .error .misuse

end Reading

/-- What one argument is. -/
inductive Argument where
  /-- Everything after it is a link. -/
  | endOfOptions
  /-- A name in full, perhaps with a value after an equals sign. -/
  | named (name : String) (value : Option String)
  /-- Letters after a single hyphen. -/
  | cluster (letters : List Char)
  | link
  deriving Repr, DecidableEq

/-- Tell what an argument is; a lone hyphen is a link. -/
def Argument.of (text : String) : Argument :=
  match text.toList with
  | ['-', '-'] => .endOfOptions
  | '-' :: '-' :: rest =>
      let name := String.ofList (rest.takeWhile (· != '='))
      match rest.dropWhile (· != '=') with
      | [] => .named name none
      | _ :: value => .named name (some (String.ofList value))
  | '-' :: letter :: letters => .cluster (letter :: letters)
  | _ => .link

/-- Read the arguments in order, beginning with a reading of those before. -/
def readFrom : Reading → List String → Except Stop Reading
  | reading, [] => .ok reading
  | reading, argument :: rest =>
      match Argument.of argument with
      | .endOfOptions => .ok (reading.addLinks rest)
      | .link => readFrom (reading.addLinks [argument]) rest
      | .cluster letters => (reading.letters letters).bind (readFrom · rest)
      | .named name (some value) =>
          match Setting.named? name with
          | some setting =>
              (reading.give setting value).bind (readFrom · rest)
          | none => .error .misuse
      | .named "verbose" none => reading.makeVerbose.bind (readFrom · rest)
      | .named "version" none => .error .version
      | .named "help" none => .error .help
      | .named name none =>
          match Setting.named? name, rest with
          | some setting, value :: rest =>
              if Argument.of value = .link then
                (reading.give setting value).bind (readFrom · rest)
              else
                .error .misuse
          | _, _ => .error .misuse

/-- Read the variables of the settings that were not given. -/
def readVariables (environment : String → Option String) (reading : Reading) :
    Except Stop Reading :=
  let missing := Setting.all.filter (!reading.given.contains ·)
  missing.foldlM
    (fun reading setting =>
      match environment setting.variableName with
      | some value => reading.give setting value
      | none => .ok reading)
    reading

/-- The options that some arguments and an environment amount to. -/
def readOptions
    (environment : String → Option String)
    (arguments : List String) :
    Except Stop Options := do
  let reading ← readFrom .start arguments
  let reading ← readVariables environment reading
  if reading.options.links.isEmpty then
    .error .misuse
  else
    .ok reading.options

end Untrack.Command
