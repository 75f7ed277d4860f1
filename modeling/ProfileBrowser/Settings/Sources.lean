import ProfileBrowser.Files.Basic
import ProfileBrowser.Json.Reader
import ProfileBrowser.Settings.Basic
import ProfileBrowser.Toml.Document
import ProfileBrowser.Word
import ProfileBrowser.Yaml.Document
/-!
# Sources of settings

Settings come from a file and from the environment, the environment over the file. A file that is
named has to be there; the default one may be missing.
-/

namespace ProfileBrowser.Settings

/-- Why there are no settings. -/
inductive LoadError where
  /-- A file is missing or cannot be read. -/
  | loading
  /-- A value does not fit. -/
  | invalid
deriving DecidableEq, Repr, Inhabited

/-- The message of an error. -/
def LoadError.message : LoadError → String
  | .loading => "loading configuration"
  | .invalid => "invalid configuration"

/-! ### Files -/

/-- The formats of a file. -/
inductive Format where
  | toml | json | yaml
deriving DecidableEq, Repr, Inhabited

/-- The extensions of files with their formats. -/
def extensions : List (String × Format) :=
  [("toml", .toml), ("json", .json), ("yaml", .yaml), ("yml", .yaml)]

/-- How deep a document in the JSON format may be nested, plus one. -/
def jsonNesting : Nat := 128

/-- The document in a text. -/
def Format.read? (format : Format) (cs : List Char) : Option Json :=
  match format with
  | .toml => Toml.read? (String.ofList cs)
  | .yaml => Yaml.read? (String.ofList cs)
  | .json => (Json.read (some jsonNesting) (Text.utf8 cs)).toOption

/-- The settings in a file's bytes: a table. A byte order mark is passed over. -/
def readTable? (format : Format) (bytes : List UInt8) : Option Json.Members :=
  let bytes := match bytes with
    | 0xEF :: 0xBB :: 0xBF :: rest => rest
    | bytes => bytes
  match (Text.readUtf8 bytes).toOption.bind format.read? with
  | some (.obj ms) => some ms
  | _ => none

/-- The extension of a path: what follows the last point of its last name, if that point is not the
first character of the name. -/
def extension? (path : String) : Option String :=
  let name := (path.toList.reverse.dropWhile (· = '/')).takeWhile (· ≠ '/')
  match name.dropWhile (· ≠ '.') with
  | _ :: _ :: _ => some (String.ofList (name.takeWhile (· ≠ '.')).reverse)
  | _ => none

/-- The file that a path names, with its format: the file itself, or one with an extension more. -/
def findFile {m : Type → Type} [Monad m] (files : Files m) (path : String) :
    m (Option (String × Format)) := do
  if ← files.isFile path then
    return ((extension? path).bind fun e => extensions.lookup e).map (path, ·)
  else
    let base := String.ofList (path.toList.reverse.dropWhile (· = '/')).reverse
    extensions.findSomeM? fun (extension, format) => do
      let candidate := base ++ "." ++ extension
      return if ← files.isFile candidate then some (candidate, format) else none

/-- The settings of the file that a path names. -/
def readFile {m : Type → Type} [Monad m] (files : Files m) (required : Bool) (path : String) :
    m (Except LoadError Json.Members) := do
  let missing : Except LoadError Json.Members := if required then .error .loading else .ok []
  match ← findFile files path with
  | none => return missing
  | some (path, format) =>
    match ← files.read path with
    | .error _ => return missing
    | .ok bytes => return (readTable? format bytes).elim (.error .loading) .ok

/-! ### The environment -/

/-- What the names of the variables that set something start with, in any case. -/
def variablePrefix : List Char := "profview_".toList

/-- A text with a point for every two underscores. -/
def withPoints : List Char → List Char
  | '_' :: '_' :: rest => '.' :: withPoints rest
  | c :: rest => c :: withPoints rest
  | [] => []

/-- The key that a variable sets. -/
def variableKey? (name : String) : Option String :=
  let cs := name.toList
  if variablePrefix.isPrefixOf (Text.lower cs) then
    some (String.ofList (Text.lower (withPoints (cs.drop variablePrefix.length))))
  else none

/-- The settings of an environment. -/
def ofEnvironment (environment : List (String × String)) : List (String × Json) :=
  environment.filterMap fun (name, value) => (variableKey? name).map fun key => (key, .str value)

/-! ### Loading -/

/-- The file that is looked for when none is named. -/
def defaultFile : String := "profview.toml"

/-- The settings of a file and an environment. -/
def load {m : Type → Type} [Monad m] (files : Files m) (path : Option String)
    (environment : List (String × String)) : m (Except LoadError Settings) := do
  match ← readFile files path.isSome (path.getD defaultFile) with
  | .error e => return .error e
  | .ok members =>
    let tree := addSource (addSource (.obj []) members) (ofEnvironment environment)
    return (ofTree? tree).elim (.error .invalid) .ok

end ProfileBrowser.Settings
