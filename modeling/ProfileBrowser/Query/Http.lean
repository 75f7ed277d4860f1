import ProfileBrowser.Query.Response
import ProfileBrowser.Url.Basic
import ProfileBrowser.Word
/-!
# The profiling API

A backend that is asked over HTTP: the headers and the token that go with every request, and what is
checked before a connection is made. This program makes no connection of its own; a request that
passes all checks fails at it.
-/

namespace ProfileBrowser

/-- The profiling API at an endpoint. -/
structure ProfilingApi where
  endpoint : String
  /-- The bearer token. -/
  token : Option String := none
deriving DecidableEq, Repr, Inhabited

namespace ProfilingApi

/-- The endpoint that is asked when none is named. -/
def defaultEndpoint : String := "http://localhost:8000/apm/profiling/query_graph_profile/"

/-! ### Headers -/

/-- The characters of a header's name besides letters and digits. -/
def nameMarks : List Char :=
  ['!', '#', '$', '%', '&', '\'', '*', '+', '-', '.', '^', '_', Char.ofNat 0x60, '|', '~']

/-- Whether a text may be the name of a header; its length is a word of 16 bits. -/
def isHeaderName (s : String) : Bool :=
  !s.isEmpty && s.length ≤ Word.greatestShort &&
    s.toList.all fun c => c.isAlphanum || nameMarks.contains c

/-- Whether a text may be the value of a header: no controls but tabs. -/
def isHeaderValue (s : String) : Bool :=
  s.toList.all fun c => c = '\t' || (0x20 ≤ c.toNat && c.toNat ≠ 0x7F)

/-- Checks a header. -/
def checkHeader (header : String × String) : Except QueryError Unit :=
  if !isHeaderName header.1 then
    .error (.http ("invalid header name '" ++ header.1 ++ "': invalid HTTP header name"))
  else if !isHeaderValue header.2 then
    .error (.http "invalid header value: failed to parse header value")
  else .ok ()

/-- The API with headers for every request; the first that is none is an error. -/
def make (endpoint : String) (token : Option String) (headers : List (String × String)) :
    Except QueryError ProfilingApi := do
  headers.forM checkHeader
  return { endpoint, token }

/-- The backend's name on the screen. -/
def description (api : ProfilingApi) : String := "http: " ++ api.endpoint

/-! ### Requests -/

/-- Why a request is not sent. -/
inductive Refusal where
  /-- The endpoint is no URL, or the token no header. -/
  | malformed
  /-- The endpoint is a URL to which nothing can be posted. -/
  | unfit (url : Url)
deriving DecidableEq, Repr, Inhabited

/-- The message of a refusal. -/
def Refusal.message : Refusal → String
  | .malformed => "builder error"
  | .unfit url => "builder error for url (" ++ url.text ++ ")"

/-- The characters of a domain besides letters and digits that a request may be addressed to. -/
def addressMarks : List Char :=
  ['!', '$', '&', '\'', '(', ')', '*', '+', ',', '-', '.', ';', '=', '_', '~']

/-- Whether requests can be addressed to a host. -/
def isAddress : Url.Host → Bool
  | .domain name => name.toList.all fun c => c.isAlphanum || addressMarks.contains c
  | _ => true

/-- The URL that requests are posted to. The user in it is not part of it, and its length stays
below the greatest word of 16 bits. -/
def target (api : ProfilingApi) : Except Refusal Url :=
  match Url.read? api.endpoint with
  | none => .error .malformed
  | some url =>
    if !url.hasHost then .error (.unfit url)
    else
      let url := url.withoutUser
      if !(api.token.all isHeaderValue) then .error .malformed
      else if url.scheme ≠ "http" ∧ url.scheme ≠ "https" then .error (.unfit url)
      else if !(url.host.all isAddress) || Word.greatestShort ≤ url.text.length then
        .error (.unfit url)
      else .ok url

/-- The answer to every request. -/
def answer (api : ProfilingApi) : QueryError :=
  match api.target with
  | .error refusal => .http refusal.message
  | .ok url => .connection ("error sending request for url (" ++ url.text ++ ")")

end ProfilingApi

end ProfileBrowser
