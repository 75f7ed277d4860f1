import ProfileBrowser.Url.Host
import ProfileBrowser.Word
/-!
# URLs

Absolute URLs: how they are read and how they are written. Reading brings a URL into its normal
form: the scheme and the domain in small letters, the TCP number only where it is not that of the
scheme, the path without dot segments, and every part encoded. A URL of a special scheme has a host
and a path that starts with a slash, and takes a backslash for a slash.
-/

namespace ProfileBrowser

/-- An absolute URL in its normal form. -/
structure Url where
  scheme : String
  user : String := ""
  password : String := ""
  /-- The host; an empty domain stands for one that is left out after two slashes. -/
  host : Option Url.Host := none
  /-- The TCP number behind the host. -/
  tcp : Option Nat := none
  path : String := ""
  query : Option String := none
  fragment : Option String := none
deriving DecidableEq, Repr, Inhabited

namespace Url

/-! ### Schemes -/

/-- The special schemes with their TCP numbers, files apart. -/
def specialNumbers : List (String × Nat) :=
  [("http", 80), ("https", 443), ("ws", 80), ("wss", 443), ("ftp", 21)]

/-- The TCP number of a scheme. -/
def defaultNumber? (scheme : String) : Option Nat := specialNumbers.lookup scheme

/-- The scheme of the files of a machine. -/
def fileScheme : String := "file"

/-- Whether a scheme is special. -/
def isSpecial (scheme : String) : Bool := (defaultNumber? scheme).isSome || scheme = fileScheme

/-- Splits the scheme from what follows its colon. -/
def splitScheme? (cs : List Char) : Option (String × List Char) :=
  let isSchemeChar (c : Char) : Bool := c.isAlphanum || c = '+' || c = '-' || c = '.'
  match cs.takeWhile isSchemeChar, cs.dropWhile isSchemeChar with
  | c :: scheme, ':' :: rest =>
    if c.isAlpha then some (Text.asciiLower (String.ofList (c :: scheme)), rest) else none
  | _, _ => none

/-! ### Paths -/

/-- Whether a character parts the segments of a path. -/
def isSlash (special : Bool) (c : Char) : Bool := c = '/' || (special && c = '\\')

/-- Whether a segment stands for the one it is in, or, with two dots, for the one before; a dot may
be encoded. -/
def isDots (n : Nat) (segment : List Char) : Bool :=
  let rec dots : List Char → Option Nat
    | [] => some 0
    | '.' :: rest => (dots rest).map (· + 1)
    | '%' :: '2' :: e :: rest => if e = 'e' || e = 'E' then (dots rest).map (· + 1) else none
    | _ => none
  dots segment = some n

/-- Whether a segment is the letter of a drive, with a colon behind it or a bar in place of one. -/
def isDrive : List Char → Bool
  | [letter, mark] => letter.isAlpha && (mark = ':' || mark = '|')
  | _ => false

/-- The segments of a path in normal form, after those that are known, the last of them first. A dot
segment at the end leaves an empty one, and a double dot does not lead out of a drive. -/
def normalise (known : List (List Char)) : List (List Char) → List (List Char)
  | [] => known.reverse
  | segment :: rest =>
    let open_ := if rest.isEmpty then [[]] else []
    if isDots 2 segment then
      normalise (open_ ++ if known.head?.any isDrive then known else known.drop 1) rest
    else if isDots 1 segment then normalise (open_ ++ known) rest
    else normalise (encode pathMarks segment :: known) rest

/-- The text of segments. -/
def pathText (segments : List (List Char)) : String :=
  String.ofList (segments.flatMap fun segment => '/' :: segment)

/-- The normal form of a path after its first slash. -/
def readPath (special : Bool) (cs : List Char) : List (List Char) :=
  normalise [] (cs.splitOnP (isSlash special))

/-- Whether a character ends a path. -/
def endsPath (c : Char) : Bool := c = '?' || c = '#'

/-! ### Query and fragment -/

/-- Takes in what follows the path. -/
def withTail (url : Url) (cs : List Char) : Url :=
  let marks := if isSpecial url.scheme then '\'' :: queryMarks else queryMarks
  let front := cs.takeWhile (· ≠ '#')
  let query := match front with
    | '?' :: query => some (String.ofList (encode marks query))
    | _ => none
  let fragment := match cs.dropWhile (· ≠ '#') with
    | _ :: fragment => some (String.ofList (encode fragmentMarks fragment))
    | [] => none
  { url with query, fragment }

/-! ### Authority -/

/-- Splits an authority at its last at sign into the user and the host with its number. -/
def splitUser (cs : List Char) : Option (List Char) × List Char :=
  if cs.contains '@' then
    let host := (cs.reverse.takeWhile (· ≠ '@')).reverse
    (some (cs.take (cs.length - host.length - 1)), host)
  else (none, cs)

/-- Splits a host from the number behind its colon. A colon between brackets belongs to the host. -/
def splitNumber (cs : List Char) : List Char × Option (List Char) :=
  let rec go (bracketed : Bool) : List Char → List Char × Option (List Char)
    | [] => ([], none)
    | c :: rest =>
      if c = ':' && !bracketed then ([], some rest)
      else
        let (host, number) := go (c = '[' || (bracketed && c ≠ ']')) rest
        (c :: host, number)
  go false cs

/-- A TCP number, a word of 16 bits. An empty one, and the one of the scheme, are left out. -/
def readNumber? (scheme : String) (cs : List Char) : Option (Option Nat) :=
  if cs.isEmpty then some none
  else
    match Text.number? 10 cs with
    | none => none
    | some n =>
      if Word.greatestShort < n then none
      else some (if defaultNumber? scheme = some n then none else some n)

/-- The user, host and number of a URL after two slashes. -/
def readAuthority? (scheme : String) (cs : List Char) : Option Url := do
  let (user, rest) := splitUser cs
  let (hostChars, number) := splitNumber rest
  let name := (user.getD []).takeWhile (· ≠ ':')
  let password := ((user.getD []).dropWhile (· ≠ ':')).drop 1
  let host ←
    if isSpecial scheme then if hostChars.isEmpty then none else Host.read? hostChars
    else if hostChars.isEmpty && (user.isSome || number.isSome) then none
    else Host.readOpaque? hostChars
  let tcp ← readNumber? scheme (number.getD [])
  return {
    scheme
    user := String.ofList (encode userMarks name)
    password := String.ofList (encode userMarks password)
    host := some host
    tcp }

/-! ### Reading -/

/-- What is left of a text that is to be read as a URL: no blanks and controls at its ends, and no
tabs and line ends anywhere. -/
def stripped (cs : List Char) : List Char :=
  let isEdge (c : Char) : Bool := c.toNat ≤ 0x20
  let inner := ((cs.dropWhile isEdge).reverse.dropWhile isEdge).reverse
  inner.filter fun c => c ≠ '\t' && c ≠ '\n' && c ≠ '\r'

/-- A URL of a special scheme that is not that of files. -/
def readSpecial? (scheme : String) (cs : List Char) : Option Url :=
  let cs := cs.dropWhile (isSlash true)
  let endsAuthority (c : Char) : Bool := isSlash true c || endsPath c
  (readAuthority? scheme (cs.takeWhile fun c => !endsAuthority c)).map fun url =>
    let rest := cs.dropWhile fun c => !endsAuthority c
    let path := rest.takeWhile fun c => !endsPath c
    withTail { url with path := pathText (readPath true (path.drop 1)) }
      (rest.dropWhile fun c => !endsPath c)

/-- The URL of a file. The name of this machine is left out, and so is any host in front of a path
that starts with a drive, which is also read in the place of a host. -/
def readFile? (cs : List Char) : Option Url := do
  let slashes := min 2 (cs.takeWhile (isSlash true)).length
  let rest := cs.drop slashes
  let endsHost (c : Char) : Bool := isSlash true c || endsPath c
  let hostChars := if slashes = 2 then rest.takeWhile fun c => !endsHost c else []
  let hostChars := if isDrive hostChars then [] else hostChars
  let host ← if hostChars.isEmpty then some (Host.domain "") else Host.read? hostChars
  let rest := rest.drop hostChars.length
  let path := rest.takeWhile fun c => !endsPath c
  let segments := readPath true (if path.head?.any (isSlash true) then path.drop 1 else path)
  let hasDrive := segments.head?.any isDrive
  let segments := if hasDrive then segments.modifyHead fun drive => drive.take 1 ++ [':']
    else segments
  let leading := segments.dropWhile List.isEmpty
  return withTail
    { scheme := fileScheme,
      host := some (if hasDrive || host = .domain "localhost" then .domain "" else host),
      path := pathText (if leading.isEmpty then [[]] else leading) }
    (rest.dropWhile fun c => !endsPath c)

/-- A URL of a scheme that is not special. Without a slash its path is kept as it is. -/
def readOther? (scheme : String) (cs : List Char) : Option Url :=
  let pathOf (cs : List Char) : String :=
    match cs.takeWhile fun c => !endsPath c with
    | [] => ""
    | _ :: path => pathText (readPath false path)
  let tail (cs : List Char) : List Char := cs.dropWhile fun c => !endsPath c
  match cs with
  | '/' :: '/' :: cs =>
    let endsAuthority (c : Char) : Bool := c = '/' || endsPath c
    (readAuthority? scheme (cs.takeWhile fun c => !endsAuthority c)).map fun url =>
      let rest := cs.dropWhile fun c => !endsAuthority c
      withTail { url with path := pathOf rest } (tail rest)
  | '/' :: _ => some (withTail { scheme, path := pathOf cs } (tail cs))
  | _ =>
    let path := cs.takeWhile fun c => !endsPath c
    some (withTail { scheme, path := String.ofList (encode [] path) } (tail cs))

/-- Reads an absolute URL. -/
def read? (s : String) : Option Url := do
  let (scheme, rest) ← splitScheme? (stripped s.toList)
  if scheme = fileScheme then readFile? rest
  else if isSpecial scheme then readSpecial? scheme rest
  else readOther? scheme rest

/-! ### Writing -/

/-- Whether a URL names a host. -/
def hasHost (url : Url) : Bool :=
  match url.host with
  | none => false
  | some host => host ≠ .domain ""

/-- The text of a URL. Two slashes at the start of a path without a host would name one, so a dot
stands in front of them. -/
def text (url : Url) : String :=
  let password := if url.password = "" then "" else ":" ++ url.password
  let user := if url.user = "" ∧ url.password = "" then "" else url.user ++ password ++ "@"
  let number := match url.tcp with
    | none => ""
    | some n => ":" ++ toString n
  let authority := match url.host with
    | none => if "//".isPrefixOf url.path then "/." else ""
    | some host => "//" ++ user ++ host.text ++ number
  let part (mark : String) : Option String → String
    | none => ""
    | some s => mark ++ s
  url.scheme ++ ":" ++ authority ++ url.path ++ part "?" url.query ++ part "#" url.fragment

/-- A URL without its user, if the user's name and password can be shown: their bytes are those of a
text. -/
def withoutUser (url : Url) : Url :=
  let isText (s : String) : Bool := (Text.readUtf8 (decode s.toList)).toBool
  if isText url.user && (url.user ≠ "" || isText url.password) then
    { url with user := "", password := "" }
  else url

end Url

end ProfileBrowser
