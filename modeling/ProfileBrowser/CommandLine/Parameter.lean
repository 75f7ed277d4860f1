import ProfileBrowser.Json.Reader
import ProfileBrowser.Text.Blank
import ProfileBrowser.Text.Quoted
/-!
# Parameters on the command line

A parameter is written `key=value`. The value is a JSON document if it is one, nested less than 128
deep, and a string otherwise.
-/

namespace ProfileBrowser.CommandLine

/-- Why a text is no parameter. -/
inductive ParameterError where
  | noEquals (raw : String)
  | emptyKey (raw : String)
deriving DecidableEq, Repr, Inhabited

/-- The message of an error. -/
def ParameterError.message : ParameterError → String
  | .noEquals raw => "Invalid parameter " ++ Text.quoted raw ++ ", expected KEY=VALUE"
  | .emptyKey raw => "Invalid parameter " ++ Text.quoted raw ++ ", empty key"

/-- The nesting at which a value is no longer taken as JSON. -/
def parameterNesting : Nat := 128

/-- The value that a text stands for. -/
def parameterValue (cs : List Char) : Json :=
  match Json.read (some parameterNesting) (Text.utf8 cs) with
  | .ok v => v
  | .error _ => .str (String.ofList cs)

/-- Reads a parameter. -/
def readParameter (raw : String) : Except ParameterError (String × Json) :=
  match raw.toList.dropWhile (· ≠ '=') with
  | [] => .error (.noEquals raw)
  | _ :: value =>
    let key := Text.trimChars (raw.toList.takeWhile (· ≠ '='))
    if key.isEmpty then .error (.emptyKey raw)
    else .ok (String.ofList key, parameterValue value)

end ProfileBrowser.CommandLine
