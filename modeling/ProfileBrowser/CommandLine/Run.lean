import ProfileBrowser.CommandLine.Arguments
import ProfileBrowser.CommandLine.Parameter
import ProfileBrowser.Settings.Sources
import ProfileBrowser.View.Exchange
/-!
# Runs of the program

A run reads the command line and the settings, opens the log, sets up the backend and, when an
export is asked for, lets one controller come to rest over it and writes the state to a file. Files
are got at in any monad, so a run can be made on a disk as well as in memory.
-/

namespace ProfileBrowser

namespace CommandLine

/-- Why a run fails. -/
inductive Failure where
  | settings (e : Settings.LoadError)
  /-- The window cannot be read. -/
  | window (e : Duration.ReadError)
  /-- The log cannot be opened. -/
  | log (path : String)
  | parameter (e : ParameterError)
  /-- The backend cannot be set up. -/
  | backend (e : QueryError)
  /-- The screen needs a terminal, which this program does not drive. -/
  | noTerminal
deriving DecidableEq, Repr, Inhabited

/-- The message of a failure. -/
def Failure.message : Failure → String
  | .settings e => e.message
  | .window e => e.message
  | .log path => "opening log file " ++ path
  | .parameter e => e.message
  | .backend e => e.message
  | .noTerminal => osMessage 6

/-- What a run does, in a monad that has files: it may fail. -/
abbrev Attempt (m : Type → Type) := ExceptT Failure m

variable {m : Type → Type} [Monad m]

/-! ### Settings -/

/-- Settings with what the command line says over them. -/
def Arguments.override (a : Arguments) (s : Settings) : Settings :=
  { s with
    endpoint := a.endpoint.getD s.endpoint
    token := a.token <|> s.token
    last := a.last.getD s.last
    mode := a.mode.getD s.mode
    logFile := a.logFile <|> s.logFile }

/-- The settings of a run. A window that cannot be read is an error at once. -/
def loadSettings (files : Files m) (environment : List (String × String)) (a : Arguments) :
    Attempt m Settings := do
  match ← ExceptT.lift (Settings.load files a.config environment) with
  | .error e => throw (.settings e)
  | .ok s =>
    let s := a.override s
    match s.lookback with
    | .error e => throw (.window e)
    | .ok _ => return s

/-! ### Setting up -/

/-- Opens the log. -/
def openLog (files : Files m) (s : Settings) : Attempt m Unit := do
  match s.logFile with
  | none => return
  | some path =>
    match ← ExceptT.lift (files.touch path) with
    | .ok _ => return
    | .error _ => throw (.log path)

/-- The parameters of a run: those of the settings, then those with options of their own, then the
others in their order. -/
def Arguments.parameters (a : Arguments) (s : Settings) : Except Failure Params := do
  let set (key : String) (value : Option String) (p : Params) : Params :=
    match value with
    | none => p
    | some value => p.insert key (.str value)
  let named := set "service_name" a.service (set "app_name" a.app s.params)
  a.params.foldlM
    (fun p raw =>
      match readParameter raw with
      | .ok (key, value) => .ok (p.insert key value)
      | .error e => .error (.parameter e))
    named

/-- A backend in a run. -/
structure Backend (m : Type → Type) where
  /-- Its name on the screen. -/
  description : String
  /-- The answer to every request, as the backend is now. -/
  answers : m (Request → Except QueryError Response)

/-- The backend of a run: a saved response, or the API. -/
def Arguments.backend (a : Arguments) (files : Files m) (s : Settings) :
    Except Failure (Backend m) :=
  match a.file with
  | some path =>
    let file : SavedFile := ⟨path⟩
    .ok { description := file.description,
          answers := do return SavedFile.answer (← files.read path) }
  | none =>
    match ProfilingApi.make s.endpoint s.token s.headers with
    | .error e => .error (.backend e)
    | .ok api =>
      .ok { description := api.description, answers := do return fun _ => .error api.answer }

/-! ### Starting -/

/-- What a run starts with, once everything has been read: the backend and what to ask it for. -/
structure Start (m : Type → Type) where
  settings : Settings
  /-- How far the window goes back. -/
  window : Duration
  backend : Backend m
  context : Context

/-- The controller of a run, which has not asked for anything. -/
def Start.exchange (s : Start m) : Exchange := .new s.context s.settings.quiet s.settings.mode

/-- Starts a run with arguments that have been read, at a time of day in nanoseconds. -/
def start (files : Files m) (environment : List (String × String)) (now : Int) (a : Arguments) :
    Attempt m (Start m) := do
  let s ← loadSettings files environment a
  openLog files s
  match s.lookback, a.parameters s with
  | .error e, _ => throw (.window e)
  | _, .error e => throw e
  | .ok window, .ok params =>
    match a.backend files s with
    | .error e => throw e
    | .ok backend => return { settings := s, window, backend, context := ⟨params, .last now window⟩ }

/-! ### Exporting -/

/-- What a run says on its two channels, line by line, and its exit code. -/
structure Report where
  exit : Nat := 0
  output : List String := []
  complaints : List String := []
deriving DecidableEq, Repr, Inhabited

/-- The controller of a run after everything has come to rest. -/
def Start.atRest (s : Start m) (answers : Request → Except QueryError Response) : Controller :=
  (s.exchange.settle fun request => .ofResult (answers request)).controller

/-- Writes the state of a controller that has come to rest. -/
def exportState (files : Files m) (description path : String) (c : Controller) : m Report := do
  let complaints := match c.lastFailure with
    | none => []
    | some e => ["Query failed: " ++ e.message]
  match ← files.write path (c.stateText description) with
  | .ok _ => return { output := ["Exported profile view to: " ++ path], complaints }
  | .error fault =>
    return { exit := 1, complaints := complaints ++ ["Error: " ++ fault.message] }

/-- Exports what the backend of a run answers. -/
def Start.exportTo (s : Start m) (files : Files m) (path : String) : m Report := do
  let answers ← s.backend.answers
  exportState files s.backend.description path (s.atRest answers)

/-! ### Runs -/

/-- A run with arguments that have been read, at a time of day in nanoseconds. -/
def runWith (files : Files m) (environment : List (String × String)) (now : Int) (a : Arguments) :
    Attempt m Report := do
  let s ← start files environment now a
  match a.exportPath with
  | none => throw .noTerminal
  | some path => ExceptT.lift (s.exportTo files path)

/-- What is said of a command line that cannot be read. -/
def usage : String :=
  "usage: [--config FILE] [--endpoint URL | --file FILE] [--token TOKEN] [--app NAME] " ++
    "[--service NAME] [--param KEY=VALUE]... [--last WINDOW] [--mode MODE] [--export FILE] " ++
    "[--log-file FILE]"

/-- A run on a command line without the program's name. -/
def run (files : Files m) (environment : List (String × String)) (now : Int)
    (arguments : List String) : m Report := do
  match Arguments.read arguments with
  | .error .displayHelp => return { output := [usage] }
  | .error e => return { exit := 2, complaints := ["error: " ++ e.name, usage] }
  | .ok a =>
    match ← (runWith files environment now a).run with
    | .ok report => return report
    | .error e => return { exit := 1, complaints := ["Error: " ++ e.message] }

end CommandLine

end ProfileBrowser
