/-!
# Options

The grammar of a command line that has options with values and one flag for help, and nothing else.
An option is written `--long value`, `--long=value`, `-s value`, `-svalue` or `-s=value`. A value
that stands in the next argument may not look like an option, and is checked only when the option is
complete: at the next option, or at the end. So an unknown option after it is reported first.
-/

namespace ProfileBrowser.CommandLine

/-- Why a command line is refused, or not run. -/
inductive OptionError where
  /-- An argument that belongs to nothing. -/
  | unknownArgument
  /-- An option without a value, or an empty value where none may be empty. -/
  | invalidValue
  /-- A value that cannot be read. -/
  | valueValidation
  /-- An option twice, or two options that exclude each other. -/
  | argumentConflict
  /-- A value for a flag. -/
  | tooManyValues
  /-- The help is asked for. -/
  | displayHelp
deriving DecidableEq, Repr, Inhabited

/-- The name of an error. -/
def OptionError.name : OptionError → String
  | .unknownArgument => "UnknownArgument"
  | .invalidValue => "InvalidValue"
  | .valueValidation => "ValueValidation"
  | .argumentConflict => "ArgumentConflict"
  | .tooManyValues => "TooManyValues"
  | .displayHelp => "DisplayHelp"

/-- An option of a grammar. -/
structure OptionSpec (κ : Type) where
  key : κ
  long : String
  short : Option Char
  /-- Whether it may be given more than once. -/
  repeatable : Bool := false
  /-- What is wrong with a value, if anything. -/
  check : String → Option OptionError := fun _ => none

/-- The long name of the help flag. -/
def helpLong : String := "help"

/-- The short name of the help flag. -/
def helpShort : Char := 'h'

/-- What has been read of a command line. -/
structure Reading (κ : Type) where
  /-- The complete options with their values, the last first. -/
  given : List (κ × String) := []
  /-- The option that has no value yet, or whose value has not been checked. -/
  pending : Option (OptionSpec κ × Option String) := none
  /-- Whether the end of the options has been marked. -/
  ended : Bool := false

namespace Reading

variable {κ : Type} [DecidableEq κ]

/-- Takes in an option with its value. -/
def give (r : Reading κ) (o : OptionSpec κ) (value : String) : Except OptionError (Reading κ) :=
  if !o.repeatable && r.given.any (·.1 = o.key) then .error .argumentConflict
  else
    match o.check value with
    | some e => .error e
    | none => .ok { r with given := (o.key, value) :: r.given }

/-- Completes the pending option. -/
def complete (r : Reading κ) : Except OptionError (Reading κ) :=
  match r.pending with
  | none => .ok r
  | some (_, none) => .error .invalidValue
  | some (o, some value) => { r with pending := none }.give o value

/-- An option has been named, with the value that is attached to it, if there is one. -/
def start (r : Reading κ) (o : OptionSpec κ) (attached : Option String) :
    Except OptionError (Reading κ) := do
  let r ← r.complete
  match attached with
  | some value => r.give o value
  | none => return { r with pending := some (o, none) }

/-- The help flag has been named. -/
def help (r : Reading κ) : Except OptionError (Reading κ) := do
  let _ ← r.complete
  throw .displayHelp

/-- Splits a text at its first equals sign. -/
def splitEquals (cs : List Char) : List Char × Option (List Char) :=
  match cs.dropWhile (· ≠ '=') with
  | [] => (cs, none)
  | _ :: value => (cs.takeWhile (· ≠ '='), some value)

/-- An argument that starts with two dashes. -/
def long (options : List (OptionSpec κ)) (r : Reading κ) (cs : List Char) :
    Except OptionError (Reading κ) :=
  let (name, value) := splitEquals cs
  let value := value.map String.ofList
  match options.find? fun o => o.long.toList = name with
  | some o => r.start o value
  | none =>
    if name ≠ helpLong.toList then .error .unknownArgument
    else if value.isSome then .error .tooManyValues
    else r.help

/-- An argument that starts with one dash; `c` is the character after it. -/
def short (options : List (OptionSpec κ)) (r : Reading κ) (c : Char) (rest : List Char) :
    Except OptionError (Reading κ) :=
  match options.find? fun o => o.short = some c with
  | some o =>
    r.start o
      (match rest with
        | [] => none
        | '=' :: value => some (String.ofList value)
        | value => some (String.ofList value))
  | none => if c = helpShort then r.help else .error .unknownArgument

/-- One argument. -/
def step (options : List (OptionSpec κ)) (r : Reading κ) (argument : String) :
    Except OptionError (Reading κ) :=
  if r.ended then .error .unknownArgument
  else
    match argument.toList with
    | ['-', '-'] => .ok { r with ended := true }
    | '-' :: '-' :: cs => r.long options cs
    | '-' :: c :: rest => r.short options c rest
    | _ =>
      match r.pending with
      | some (o, none) => .ok { r with pending := some (o, some argument) }
      | _ => .error .unknownArgument

end Reading

/-- The options of a command line with their values, in their order. -/
def readOptions {κ : Type} [DecidableEq κ] (options : List (OptionSpec κ))
    (arguments : List String) : Except OptionError (List (κ × String)) := do
  let r ← arguments.foldlM (Reading.step options) {}
  return (← r.complete).given.reverse

end ProfileBrowser.CommandLine
