import ProfileBrowser.Files.Fault
import ProfileBrowser.Json.Reader
import ProfileBrowser.Profile.Diagrams.Decode
import ProfileBrowser.Query.Request
/-!
# Responses

What the profiling backend answers with, and what can go wrong on the way. A response is one JSON
document, nested as deep as it likes: either an object with the diagrams, or an envelope around such
an object that may also reject the request.
-/

namespace ProfileBrowser

/-! ### Failures -/

/-- Why a query failed. -/
inductive QueryError where
  | http (message : String)
  /-- The backend answered with a status that is no success. -/
  | status (code : Nat)
  | parse (message : String)
  /-- The backend rejected the request in its envelope. -/
  | api (message : String)
  | connection (message : String)
  | timeout
  /-- The query ended without an answer. -/
  | task (message : String)
  /-- A file could not be read. -/
  | io (fault : FileFault)
deriving DecidableEq, Repr, Inhabited

/-- The message of a failure. -/
def QueryError.message : QueryError → String
  | .http m => "HTTP request failed: " ++ m
  | .status code => "Backend returned status " ++ toString code
  | .parse m => "Failed to parse response: " ++ m
  | .api m => "Backend error: " ++ m
  | .connection m => "Connection failed: " ++ m
  | .timeout => "Request timed out"
  | .task m => "Query task failed: " ++ m
  | .io fault => "I/O error: " ++ fault.message

/-! ### Reading -/

/-- An answer; the diagrams are absent when there is nothing to show. -/
structure Response where
  diagrams : Option Diagrams := none
deriving Inhabited

namespace Response

/-- Takes one member of the object that holds the diagrams. -/
def takeMember (r : Response) (m : String × Json) : Except Json.DecodeError Response :=
  if m.1 = "diagrams" then do
    return { r with diagrams := ← Json.decodeOptional Diagrams.decode m.2 }
  else .ok r

/-- The answer in an object with the diagrams. -/
def ofMembers (ms : Json.Members) : Except QueryError Response :=
  match ms.foldlM takeMember {} with
  | .ok r => .ok r
  | .error e => .error (.parse e.message)

/-- The answer in a document. An envelope that says it failed is an error whatever else it holds; an
object under `data` is the answer; with no data, or null, the document itself is. -/
def ofJson : Json → Except QueryError Response
  | .obj ms =>
    if (Json.Members.get? "result" ms).bind Json.asBool? = some false then
      .error (.api
        (((Json.Members.get? "message" ms).bind Json.asString?).getD "request rejected"))
    else
      match Json.Members.get? "data" ms with
      | some (.obj data) => ofMembers data
      | some .null => ofMembers ms
      | none => ofMembers ms
      | some _ => .error (.parse "unexpected `data` field")
  | _ => .error (.parse "response is not a JSON object")

/-- The answer in the bytes of a document. -/
def ofBytes (bytes : List UInt8) : Except QueryError Response :=
  match Json.read none bytes with
  | .ok v => ofJson v
  | .error e => .error (.parse e.message)

/-- The answer with only the parts of the wanted kinds. -/
def retain (kinds : List DiagramKind) (r : Response) : Response :=
  ⟨r.diagrams.map (Diagrams.retain kinds)⟩

/-- An answer with its member in place. -/
def toJson (r : Response) : Json :=
  .obj [("diagrams", (r.diagrams.map Diagrams.toJson).getD .null)]

end Response

/-! ### Saved responses -/

/-- A backend that answers every request from a saved response. -/
structure SavedFile where
  path : String
deriving DecidableEq, Repr, Inhabited

namespace SavedFile

/-- The backend's name on the screen. -/
def description (f : SavedFile) : String := "file: " ++ f.path

/-- The answer to a request, given what reading the file gave. -/
def answer (content : Except FileFault (List UInt8)) (request : Request) :
    Except QueryError Response :=
  match content with
  | .error fault => .error (.io fault)
  | .ok bytes => (Response.ofBytes bytes).map (Response.retain request.kinds)

end SavedFile

end ProfileBrowser
