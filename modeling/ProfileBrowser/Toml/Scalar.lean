import ProfileBrowser.Binary64.Literal
import ProfileBrowser.Json.Basic
import ProfileBrowser.Text.Digits
import ProfileBrowser.Word
/-!
# TOML scalars

Strings, numbers, booleans and dates of the TOML format. A reader takes characters from the front of
a text; it fails without a reason, since a faulty document has one message.
-/

namespace ProfileBrowser.Toml

/-- Reads something from the front of a text. -/
abbrev Reader (α : Type) := StateT (List Char) Option α

namespace Reader

/-- Fails unless a condition holds. -/
def require (b : Bool) : Reader Unit := if b then pure () else fun _ => none

/-- The next character, which stays. -/
def peek? : Reader (Option Char) := do return (← get).head?

/-- The next character. -/
def next : Reader Char := fun cs =>
  match cs with
  | [] => none
  | c :: rest => some (c, rest)

/-- A given character. -/
def char (c : Char) : Reader Unit := do require ((← next) = c)

/-- A given character if it comes next; also whether it does. -/
def char? (c : Char) : Reader Bool := do
  if (← peek?) = some c then
    let _ ← next
    return true
  else return false

/-- The longest run of characters with a property. -/
def run (p : Char → Bool) : Reader (List Char) := fun cs => some (cs.takeWhile p, cs.dropWhile p)

/-- A fixed number of characters. -/
def take (n : Nat) : Reader (List Char) := do
  let cs ← get
  require (n ≤ cs.length)
  set (cs.drop n)
  return cs.take n

/-- A given text if it comes next; also whether it does. -/
def text? (s : List Char) : Reader Bool := do
  let cs ← get
  if s.isPrefixOf cs then
    set (cs.drop s.length)
    return true
  else return false

end Reader

open Reader

/-! ### Blanks and comments -/

/-- A blank inside a line. -/
def isBlank (c : Char) : Bool := c = ' ' || c = '\t'

/-- Whether a character may stand in a comment or, quotes and backslashes apart, in a string. -/
def isPlain (c : Char) : Bool := c = '\t' || (0x20 ≤ c.toNat && c.toNat ≠ 0x7F)

/-- Blanks inside a line. -/
def blanks : Reader Unit := do
  let _ ← run isBlank

/-- A line end, if one comes next; also whether it does. -/
def newline? : Reader Bool := do
  if ← char? '\n' then return true
  text? ['\r', '\n']

/-- A comment, if one comes next. -/
def comment : Reader Unit := do
  if ← char? '#' then
    let _ ← run isPlain

/-- Blanks, line ends and comments, over at most `fuel` lines. -/
def gap : Nat → Reader Unit
  | 0 => pure ()
  | fuel + 1 => do
    blanks
    comment
    if ← newline? then gap fuel

/-! ### Strings -/

/-- A character by its code in `n` hexadecimal digits. -/
def codeChar (n : Nat) : Reader Char := do
  let digits ← take n
  let code ← StateT.lift (Text.number? 16 digits)
  require (decide code.isValidChar)
  return Char.ofNat code

/-- What a backslash stands for together with what follows it. -/
def escape : Reader Char := do
  match ← next with
  | 'b' => return Char.ofNat 8
  | 't' => return '\t'
  | 'n' => return '\n'
  | 'f' => return Char.ofNat 12
  | 'r' => return '\r'
  | 'e' => return Char.ofNat 27
  | '"' => return '"'
  | '\\' => return '\\'
  | 'x' => codeChar 2
  | 'u' => codeChar 4
  | 'U' => codeChar 8
  | _ => require false; return ' '

/-- The rest of a string of one line with escapes, over at most `fuel` characters. -/
def basicRest : Nat → Reader (List Char)
  | 0 => do require false; return []
  | fuel + 1 => do
    let c ← next
    if c = '"' then return []
    else if c = '\\' then
      let c ← escape
      return c :: (← basicRest fuel)
    else
      require (isPlain c)
      return c :: (← basicRest fuel)

/-- The rest of a string of one line without escapes. -/
def literalRest : Reader (List Char) := do
  let cs ← run fun c => isPlain c && c ≠ '\''
  char '\''
  return cs

/-- The end of a string of many lines, after three quotes: up to two more of them still belong to
the string. -/
def lastQuotes (quote : Char) : Reader (List Char) := do
  if ← char? quote then
    if ← char? quote then return [quote, quote]
    return [quote]
  return []

/-- The rest of a string of many lines, over at most `fuel` characters. A backslash at the end of a
line takes away the line end and all blanks up to the next text. -/
def linesRest (quote : Char) (escapes : Bool) : Nat → Reader (List Char)
  | 0 => do require false; return []
  | fuel + 1 => do
    if ← text? [quote, quote, quote] then lastQuotes quote
    else if ← text? ['\r', '\n'] then return '\r' :: '\n' :: (← linesRest quote escapes fuel)
    else
      let c ← next
      if c = '\\' && escapes then
        let rest ← get
        match rest.dropWhile isBlank with
        | '\n' :: _ | '\r' :: '\n' :: _ =>
          let _ ← run fun c => isBlank c || c = '\n' || c = '\r'
          linesRest quote escapes fuel
        | _ =>
          let c ← escape
          return c :: (← linesRest quote escapes fuel)
      else
        require (isPlain c || c = '\n')
        return c :: (← linesRest quote escapes fuel)

/-- A string of one line. -/
def lineString : Reader String := do
  match ← next with
  | '"' => return String.ofList (← basicRest ((← get).length + 1))
  | '\'' => return String.ofList (← literalRest)
  | _ => require false; return ""

/-- A string. -/
def string : Reader String := do
  if ← text? ['"', '"', '"'] then
    let _ ← newline?
    return String.ofList (← linesRest '"' true ((← get).length + 1))
  else if ← text? ['\'', '\'', '\''] then
    let _ ← newline?
    return String.ofList (← linesRest '\'' false ((← get).length + 1))
  else lineString

/-! ### Numbers -/

/-- Digits of which neighbours may be parted by an underscore; also the rest. -/
def digits? (isDigit : Char → Bool) (cs : List Char) : Option (List Char × List Char) :=
  let piece := cs.takeWhile fun c => isDigit c || c = '_'
  let ds := piece.filter isDigit
  let paired := (piece.zip (piece.drop 1)).all fun (a, b) => isDigit a || isDigit b
  if piece.head?.any isDigit && piece.getLast?.any isDigit && paired then
    some (ds, cs.dropWhile fun c => isDigit c || c = '_')
  else none

/-- The value of digits in a base. -/
def numberOf (base : Nat) (ds : List Char) : Nat := (Text.number? base ds).getD 0

/-- An integer of 64 bits. -/
def integer? (negative : Bool) (n : Nat) : Option Json :=
  let i : Int := if negative then -n else n
  if Word.isSigned i then some (.int i) else none

/-- An integer in another base than ten. -/
def based? (base : Nat) (isDigit : Char → Bool) (cs : List Char) : Option Json :=
  match digits? isDigit cs with
  | some (ds, []) => integer? false (numberOf base ds)
  | _ => none

/-- A finite float with the given literal. -/
def float? (literal : List Char) : Option Json :=
  match Binary64.ofLiteral? literal with
  | some (.finite s m q) => some (.float (.finite s m q))
  | _ => none

/-- A decimal number without its sign. Only a float may have digits after the first when that is a
zero. -/
def decimal? (negative : Bool) (cs : List Char) : Option Json := do
  let sign := if negative then ['-'] else []
  let (whole, rest) ← digits? Char.isDigit cs
  if whole.length > 1 && whole.head? = some '0' then none
  else
    let (fraction, rest) ← match rest with
      | '.' :: more => (digits? Char.isDigit more).map fun (ds, rest) => (some ds, rest)
      | rest => some (none, rest)
    let fractionText := match fraction with
      | some ds => '.' :: ds
      | none => []
    match rest with
    | [] =>
      if fraction.isSome then float? (sign ++ whole ++ fractionText)
      else integer? negative (numberOf 10 whole)
    | mark :: more =>
      if mark ≠ 'e' ∧ mark ≠ 'E' then none
      else
        let (expSign, more) := match more with
          | '-' :: more => (['-'], more)
          | '+' :: more => ([], more)
          | more => ([], more)
        match ← digits? Char.isDigit more with
        | (ds, []) => float? (sign ++ whole ++ fractionText ++ ['e'] ++ expSign ++ ds)
        | _ => none

/-- A number with a sign or without one. -/
def number? : List Char → Option Json
  | '0' :: 'x' :: cs => based? 16 (fun c => (Text.hexDigit? c).isSome) cs
  | '0' :: 'o' :: cs => based? 8 (fun c => '0' ≤ c && c ≤ '7') cs
  | '0' :: 'b' :: cs => based? 2 (fun c => c = '0' || c = '1') cs
  | '-' :: cs => signed true cs
  | '+' :: cs => signed false cs
  | cs => signed false cs
where
  signed (negative : Bool) (cs : List Char) : Option Json :=
    if cs = ['i', 'n', 'f'] then some (.float (.infinite negative))
    else if cs = ['n', 'a', 'n'] then some (.float .nan)
    else decimal? negative cs

/-! ### Dates -/

/-- A number of exactly `n` digits. -/
def fixedDigits (n : Nat) : Reader Nat := do
  let ds ← take n
  require (ds.all Char.isDigit)
  return numberOf 10 ds

/-- A number with at least `n` digits. -/
def padded (n : Nat) (k : Nat) : List Char :=
  let ds := Nat.toDigits 10 k
  List.replicate (n - ds.length) '0' ++ ds

/-- How many days a month has. -/
def daysInMonth (year month : Nat) : Nat :=
  if month = 2 then
    if year % 4 = 0 ∧ (year % 100 ≠ 0 ∨ year % 400 = 0) then 29 else 28
  else if month = 4 ∨ month = 6 ∨ month = 9 ∨ month = 11 then 30
  else 31

/-- A date, and its text. -/
def date : Reader (List Char) := do
  let year ← fixedDigits 4
  char '-'
  let month ← fixedDigits 2
  char '-'
  let day ← fixedDigits 2
  require (1 ≤ month && month ≤ 12 && 1 ≤ day && day ≤ daysInMonth year month)
  return padded 4 year ++ '-' :: padded 2 month ++ '-' :: padded 2 day

/-- The part of a time after the seconds: of at most nine digits, without trailing zeros but with
one digit. -/
def fractionText (ds : List Char) : List Char :=
  match ((ds.take 9).reverse.dropWhile (· = '0')).reverse with
  | [] => ['.', '0']
  | ds => '.' :: ds

/-- The seconds of a time with their fraction, and their text. -/
def seconds : Reader (List Char) := do
  let second ← fixedDigits 2
  require (second ≤ 60)
  let fraction ← if ← char? '.' then
      let ds ← run Char.isDigit
      require (!ds.isEmpty)
      pure (fractionText ds)
    else pure []
  return padded 2 second ++ fraction

/-- A time of day, and its text. It may be told to the minute. -/
def time : Reader (List Char) := do
  let hour ← fixedDigits 2
  char ':'
  let minute ← fixedDigits 2
  require (hour ≤ 23 && minute ≤ 59)
  let rest ← if ← char? ':' then pure (':' :: (← seconds)) else pure []
  return padded 2 hour ++ ':' :: padded 2 minute ++ rest

/-- The offset of a time from universal time, if there is one, and its text. None is negative and
zero.
-/
def offset : Reader (List Char) := do
  match ← peek? with
  | some 'Z' | some 'z' =>
    let _ ← next
    return ['Z']
  | some '+' | some '-' =>
    let sign ← next
    let hour ← fixedDigits 2
    char ':'
    let minute ← fixedDigits 2
    require (hour ≤ 23 && minute ≤ 59)
    let sign := if hour = 0 ∧ minute = 0 then '+' else sign
    return sign :: padded 2 hour ++ ':' :: padded 2 minute
  | _ => return []

/-- The end of the text. -/
def finished : Reader Unit := do require (← get).isEmpty

/-- A date, a date with a time, or a time. It is kept as its text. -/
def moment : Reader Json := do
  let cs ← get
  if cs.drop 2 |>.head? |>.any (· = ':') then
    let t ← time
    finished
    return .str (String.ofList t)
  else
    let d ← date
    if (← get).isEmpty then return .str (String.ofList d)
    let mark ← next
    require (mark = 'T' || mark = 't' || mark = ' ')
    let t ← time
    let o ← offset
    finished
    return .str (String.ofList (d ++ 'T' :: t ++ o))

/-- Whether a text without quotes is to be read as a date or a time. -/
def looksLikeMoment (cs : List Char) : Bool :=
  match cs with
  | _ :: _ :: ':' :: _ => true
  | a :: b :: c :: d :: '-' :: _ => [a, b, c, d].all Char.isDigit
  | _ => false

/-- A scalar without quotes. A date and its time may be parted by one blank. -/
def bareScalar : Reader Json := do
  let isBare (c : Char) : Bool :=
    c.isAlphanum || c = '_' || c = '-' || c = '+' || c = '.' || c = ':'
  let cs ← run isBare
  let cs ← match ← get with
    | ' ' :: d :: _ =>
      if looksLikeMoment cs && cs.length = 10 && d.isDigit then
        let _ ← next
        pure (cs ++ ' ' :: (← run isBare))
      else pure cs
    | _ => pure cs
  if cs = "true".toList then return .bool true
  else if cs = "false".toList then return .bool false
  else
    let value := if looksLikeMoment cs then (moment cs).map (·.1) else number? cs
    match value with
    | some v => return v
    | none => require false; return .null

end ProfileBrowser.Toml
