import ProfileBrowser.CommandLine.Options
import ProfileBrowser.View.Mode
/-!
# Arguments of the program

What can be said on the command line: where the settings are, what overrides them, which profile is
looked at, and whether it is exported at once.
-/

namespace ProfileBrowser.CommandLine

/-- The options of the program. -/
inductive Argument where
  | config | endpoint | token | file | app | service | param | last | mode | export_ | logFile
deriving DecidableEq, Repr, Inhabited

/-- A path may not be empty. -/
def checkPath (value : String) : Option OptionError :=
  if value.isEmpty then some .invalidValue else none

/-- A mode must be one. -/
def checkMode (value : String) : Option OptionError :=
  match Mode.read value with
  | .ok _ => none
  | .error _ => some .valueValidation

/-- The grammar of the options. -/
def options : List (OptionSpec Argument) :=
  [{ key := .config, long := "config", short := some 'c', check := checkPath },
    { key := .endpoint, long := "endpoint", short := none },
    { key := .token, long := "token", short := none },
    { key := .file, long := "file", short := some 'f', check := checkPath },
    { key := .app, long := "app", short := some 'a' },
    { key := .service, long := "service", short := some 's' },
    { key := .param, long := "param", short := some 'p', repeatable := true },
    { key := .last, long := "last", short := some 'l' },
    { key := .mode, long := "mode", short := some 'm', check := checkMode },
    { key := .export_, long := "export", short := some 'e', check := checkPath },
    { key := .logFile, long := "log-file", short := none, check := checkPath }]

/-- A command line that has been read. -/
structure Arguments where
  config : Option String := none
  endpoint : Option String := none
  token : Option String := none
  file : Option String := none
  app : Option String := none
  service : Option String := none
  params : List String := []
  last : Option String := none
  mode : Option Mode := none
  exportPath : Option String := none
  logFile : Option String := none
deriving Inhabited

/-- Reads a command line without the program's name. A saved response and an endpoint exclude each
other. -/
def Arguments.read (arguments : List String) : Except OptionError Arguments := do
  let given ← readOptions options arguments
  let value (key : Argument) : Option String := (given.find? (·.1 = key)).map (·.2)
  if (value .endpoint).isSome && (value .file).isSome then throw .argumentConflict
  return {
    config := value .config
    endpoint := value .endpoint
    token := value .token
    file := value .file
    app := value .app
    service := value .service
    params := (given.filter (·.1 = .param)).map (·.2)
    last := value .last
    mode := (value .mode).bind fun s => (Mode.read s).toOption
    exportPath := value .export_
    logFile := value .logFile }

end ProfileBrowser.CommandLine
