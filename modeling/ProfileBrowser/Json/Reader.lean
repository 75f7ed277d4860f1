import ProfileBrowser.Json.Basic
import ProfileBrowser.Text.Utf8
import ProfileBrowser.Word
/-!
# Reading JSON

A machine that reads a JSON document one byte at a time. What it has read of the enclosing arrays
and objects is on an explicit stack, so a document may nest as deep as it likes, and reading one
part of a document and then the rest is reading the whole (`feed` is a fold). A fault carries the
line and the column at which it is noticed; a column counts bytes and is 0 right after a line feed.

A number is an integer while it fits into 64 bits. Otherwise its digits, as many as fit into a word,
are scaled by a power of ten in binary64 arithmetic, so the last place may differ from that of the
nearest number.
-/

namespace ProfileBrowser.Json

/-! ### Faults -/

/-- What can be wrong with a document. -/
inductive Fault where
  | endInValue | endInList | endInObject | endInString
  | expectedColon | expectedListEnd | expectedObjectEnd | expectedIdent | expectedValue
  | keyNotString | trailingComma | trailingCharacters
  | invalidNumber | numberOutOfRange
  | invalidEscape | loneSurrogate | unfinishedSurrogate | controlCharacter | invalidCodePoint
  | tooDeep
deriving DecidableEq, Repr, Inhabited

/-- The words for a fault. -/
def Fault.words : Fault → String
  | .endInValue => "EOF while parsing a value"
  | .endInList => "EOF while parsing a list"
  | .endInObject => "EOF while parsing an object"
  | .endInString => "EOF while parsing a string"
  | .expectedColon => "expected `:`"
  | .expectedListEnd => "expected `,` or `]`"
  | .expectedObjectEnd => "expected `,` or `\x7d`"
  | .expectedIdent => "expected ident"
  | .expectedValue => "expected value"
  | .keyNotString => "key must be a string"
  | .trailingComma => "trailing comma"
  | .trailingCharacters => "trailing characters"
  | .invalidNumber => "invalid number"
  | .numberOutOfRange => "number out of range"
  | .invalidEscape => "invalid escape"
  | .loneSurrogate => "lone leading surrogate in hex escape"
  | .unfinishedSurrogate => "unexpected end of hex escape"
  | .controlCharacter => "control character (\\u0000-\\u001F) found while parsing a string"
  | .invalidCodePoint => "invalid unicode code point"
  | .tooDeep => "recursion limit exceeded"

/-- A place in a document. -/
structure Position where
  line : Nat
  column : Nat
deriving DecidableEq, Repr, Inhabited

/-- The place at the start. -/
def Position.start : Position := ⟨1, 0⟩

/-- The place after a byte. -/
def Position.after (p : Position) (b : UInt8) : Position :=
  if b = 10 then ⟨p.line + 1, 0⟩ else ⟨p.line, p.column + 1⟩

/-- The words for a place. -/
def Position.words (p : Position) : String :=
  " at line " ++ toString p.line ++ " column " ++ toString p.column

/-- A fault and where it was noticed. -/
structure SyntaxFault where
  fault : Fault
  place : Position
deriving DecidableEq, Repr, Inhabited

/-- The message of a fault. -/
def SyntaxFault.message (e : SyntaxFault) : String := e.fault.words ++ e.place.words

/-! ### States -/

/-- An array or object that is still open. -/
inductive Frame where
  /-- An array with its items so far, the last first. -/
  | list (done : List Json)
  /-- An object between two members. -/
  | object (done : Members)
  /-- An object whose next value belongs to `key`. -/
  | member (done : Members) (key : String)

/-- A number as far as it has been read. -/
inductive Numeral where
  /-- A sign, no digit yet. -/
  | sign
  /-- A single zero. -/
  | zero
  /-- Digits that fit into a word. -/
  | whole (n : Nat)
  /-- Digits that no longer fit; the last ones are dropped and counted. -/
  | long (n dropped : Nat)
  /-- A point, no digit after it yet. -/
  | point (n : Nat) (scale : Int)
  | fraction (n : Nat) (scale : Int)
  /-- Digits after the point that no longer fit are dropped. -/
  | longFraction (n : Nat) (scale : Int)
  /-- An exponent mark. -/
  | mark (n : Nat) (scale : Int)
  /-- An exponent mark and a sign. -/
  | markSign (n : Nat) (scale : Int) (negative : Bool)
  | exponent (n : Nat) (scale : Int) (negative : Bool) (e : Nat)
  /-- An exponent too large to count, of a number that is zero all the same. -/
  | vanishing
deriving Inhabited

/-- A string as far as it has been read. -/
structure Piece where
  /-- The characters so far, the last first. -/
  done : List Char
  /-- The bytes since the last escape, the last first. -/
  raw : List UInt8
  /-- The column in front of those bytes. -/
  rawColumn : Nat
deriving Inhabited

/-- Where a string stands. -/
inductive StringPhase where
  | plain
  /-- After a backslash. -/
  | escape
  /-- Inside a code of four digits, with the bytes so far, the last first. -/
  | code (digits : List UInt8)
  /-- After a leading surrogate: a backslash must follow. -/
  | pairBackslash (high : Nat)
  /-- After that backslash: the letter u must follow. -/
  | pairLetter (high : Nat)
  /-- Inside the code of the second surrogate. -/
  | pairCode (high : Nat) (digits : List UInt8)
deriving Inhabited

/-- What the machine expects next. -/
inductive Mode where
  /-- A value, at the start, after a colon, or after a comma in an array. -/
  | value
  /-- An item or the end of an array that has none yet. -/
  | firstItem
  /-- An item after a comma. -/
  | nextItem
  /-- A key or the end of an object that has none yet. -/
  | firstKey
  /-- A key after a comma. -/
  | nextKey
  | colon (key : String)
  /-- A comma or the end of the innermost array or object. -/
  | afterValue
  /-- The bytes of a word still to come, and its value. -/
  | word (rest : List UInt8) (v : Json)
  | number (negative : Bool) (n : Numeral)
  | string (isKey : Bool) (phase : StringPhase) (piece : Piece)
  /-- The document's value is complete. -/
  | done (v : Json)
deriving Inhabited

/-- The machine between two bytes. -/
structure State where
  mode : Mode
  /-- The open arrays and objects, the innermost first. -/
  stack : List Frame
  /-- How many there are. -/
  depth : Nat
  place : Position
deriving Inhabited

/-- The machine before a document that starts at a place, inside `depth` arrays and objects. -/
def State.initial (depth : Nat) (place : Position) : State := ⟨.value, [], depth, place⟩

/-! ### Numbers -/

/-- Whether a byte is a decimal digit. -/
def isDigit (b : UInt8) : Bool := 48 ≤ b && b ≤ 57

/-- The value of a digit. -/
def digitValue (b : UInt8) : Nat := b.toNat - 48

/-- `10^k` as a float. -/
def tenTo (k : Nat) : Binary64 := Binary64.ofNat (Binary64.tenTo k)

/-- `x · 10^e`, one multiplication or division by a power of ten that a float holds at a time;
`none` if it is too large. Three divisions make any word vanish. -/
def scaleBy : Nat → Binary64 → Int → Option Binary64
  | 0, _, _ => some (Binary64.zero false)
  | fuel + 1, x, e =>
    if e.natAbs ≤ 308 then
      if 0 ≤ e then
        match x * tenTo e.natAbs with
        | .infinite _ => none
        | y => some y
      else some (x / tenTo e.natAbs)
    else if Binary64.le x (Binary64.zero false) then some x
    else if 0 ≤ e then none
    else scaleBy fuel (x / tenTo 308) (e + 308)

/-- A float with the given digits, scale and sign. -/
def floatOf (negative : Bool) (n : Nat) (scale : Int) : Option Json :=
  (scaleBy 5 (Binary64.ofNat n) scale).map fun x => .float (if negative then x.negate else x)

/-- An integer with the given digits and sign, or the float nearest to it. -/
def wholeOf (negative : Bool) (n : Nat) : Json :=
  if negative then
    if n = 0 ∨ Word.signedCount < n then .float (Binary64.ofNat n).negate else .int (-n)
  else .int n

/-- The value of a number that ends here. -/
def Numeral.value (negative : Bool) : Numeral → Except Fault Json
  | .zero => .ok (wholeOf negative 0)
  | .whole n => .ok (wholeOf negative n)
  | .long n dropped => (floatOf negative n dropped).elim (.error .numberOutOfRange) .ok
  | .fraction n scale => (floatOf negative n scale).elim (.error .numberOutOfRange) .ok
  | .longFraction n scale => (floatOf negative n scale).elim (.error .numberOutOfRange) .ok
  | .exponent n scale down e =>
    (floatOf negative n (if down then scale - e else scale + e)).elim (.error .numberOutOfRange) .ok
  | .vanishing => .ok (.float (Binary64.zero negative))
  | .sign | .point _ _ | .mark _ _ | .markSign _ _ _ => .error .endInValue

/-- What a byte does to a number. -/
inductive NumeralStep where
  | goesOn (n : Numeral)
  /-- The byte does not belong to the number. -/
  | ends
  /-- The byte is wrong. -/
  | fails (f : Fault)

/-- What the exponent of a number is below, `2^31`. -/
def exponentBound : Nat := 2147483648

/-- A digit of an exponent, of which only the size of a 32-bit integer is counted. -/
def exponentDigit (n : Nat) (scale : Int) (down : Bool) (e : Nat) (b : UInt8) : NumeralStep :=
  let e' := e * 10 + digitValue b
  if e' < exponentBound then .goesOn (.exponent n scale down e')
  else if n ≠ 0 ∧ !down then .fails .numberOutOfRange
  else .goesOn .vanishing

/-- A point or an exponent mark after the digits of a number. -/
def afterDigits (n : Nat) (scale : Int) (b : UInt8) : NumeralStep :=
  if b = 46 then .goesOn (.point n scale)
  else if b = 101 ∨ b = 69 then .goesOn (.mark n scale)
  else .ends

/-- A digit after the point. -/
def fractionDigit (n : Nat) (scale : Int) (b : UInt8) : NumeralStep :=
  let n' := n * 10 + digitValue b
  if n' ≤ Word.greatest then .goesOn (.fraction n' (scale - 1)) else .goesOn (.longFraction n scale)

/-- One byte of a number. -/
def Numeral.step (b : UInt8) : Numeral → NumeralStep
  | .sign =>
    if b = 48 then .goesOn .zero
    else if isDigit b then .goesOn (.whole (digitValue b))
    else .fails .invalidNumber
  | .zero => if isDigit b then .fails .invalidNumber else afterDigits 0 0 b
  | .whole n =>
    if isDigit b then
      let n' := n * 10 + digitValue b
      if n' ≤ Word.greatest then .goesOn (.whole n') else .goesOn (.long n 1)
    else afterDigits n 0 b
  | .long n dropped =>
    if isDigit b then .goesOn (.long n (dropped + 1)) else afterDigits n dropped b
  | .point n scale => if isDigit b then fractionDigit n scale b else .fails .invalidNumber
  | .fraction n scale =>
    if isDigit b then fractionDigit n scale b
    else if b = 101 ∨ b = 69 then .goesOn (.mark n scale)
    else .ends
  | .longFraction n scale =>
    if isDigit b then .goesOn (.longFraction n scale)
    else if b = 101 ∨ b = 69 then .goesOn (.mark n scale)
    else .ends
  | .mark n scale =>
    if b = 43 then .goesOn (.markSign n scale false)
    else if b = 45 then .goesOn (.markSign n scale true)
    else if isDigit b then exponentDigit n scale false 0 b
    else .fails .invalidNumber
  | .markSign n scale down =>
    if isDigit b then exponentDigit n scale down 0 b else .fails .invalidNumber
  | .exponent n scale down e => if isDigit b then exponentDigit n scale down e b else .ends
  | .vanishing => if isDigit b then .goesOn .vanishing else .ends

/-! ### Strings -/

/-- The string read so far with the bytes since the last escape taken in, or the column of the first
byte that is no text. -/
def Piece.close (p : Piece) : Except Nat (List Char) :=
  match Text.readUtf8 p.raw.reverse with
  | .ok cs => .ok (cs.reverse ++ p.done)
  | .error valid => .error (p.rawColumn + valid + 1)

/-- The value of a hexadecimal digit. -/
def hexValue (b : UInt8) : Option Nat :=
  let n := b.toNat
  if 48 ≤ n ∧ n ≤ 57 then some (n - 48)
  else if 65 ≤ n ∧ n ≤ 70 then some (n - 55)
  else if 97 ≤ n ∧ n ≤ 102 then some (n - 87)
  else none

/-- The value of four digits, the last first. -/
def codeValue : List UInt8 → Option Nat
  | [d, c, b, a] => do
    return (← hexValue a) * 0x1000 + (← hexValue b) * 0x100 + (← hexValue c) * 0x10 + (← hexValue d)
  | _ => none

/-- What a letter after a backslash stands for. -/
def escapeChar (b : UInt8) : Option Char :=
  if b = 34 then some '"'
  else if b = 92 then some '\\'
  else if b = 47 then some '/'
  else if b = 98 then some (Char.ofNat 8)
  else if b = 102 then some (Char.ofNat 12)
  else if b = 110 then some '\n'
  else if b = 114 then some '\r'
  else if b = 116 then some '\t'
  else none

/-! ### Steps -/

/-- JSON white space. -/
def isSpace (b : UInt8) : Bool := b = 32 || b = 10 || b = 9 || b = 13

/-- A complete value goes to the innermost open array or object. -/
def State.deliver (s : State) (v : Json) : State :=
  match s.stack with
  | [] => { s with mode := .done v }
  | .list done :: outer => { s with mode := .afterValue, stack := .list (v :: done) :: outer }
  | .member done key :: outer =>
    { s with mode := .afterValue, stack := .object (Members.insert key v done) :: outer }
  | .object done :: outer => { s with mode := .afterValue, stack := .object done :: outer }

/-- The innermost array or object ends. -/
def State.close (s : State) (outer : List Frame) (v : Json) : State :=
  State.deliver { s with stack := outer, depth := s.depth - 1 } v

/-- A string starts; `place` is after its quote. -/
def State.openString (s : State) (isKey : Bool) (place : Position) : State :=
  { s with mode := .string isKey .plain ⟨[], [], place.column⟩, place }

/-- A new array or object is opened, unless that is one too many. -/
def State.enter (limit : Option Nat) (s : State) (mode : Mode) (frame : Frame) (place : Position) :
    Except SyntaxFault State :=
  if limit = some (s.depth + 1) then .error ⟨.tooDeep, place⟩
  else .ok { mode, stack := frame :: s.stack, depth := s.depth + 1, place }

/-- The first byte of a value. -/
def State.beginValue (limit : Option Nat) (s : State) (b : UInt8) : Except SyntaxFault State :=
  let place := s.place.after b
  if b = 110 then .ok { s with mode := .word [117, 108, 108] .null, place }
  else if b = 116 then .ok { s with mode := .word [114, 117, 101] (.bool true), place }
  else if b = 102 then .ok { s with mode := .word [97, 108, 115, 101] (.bool false), place }
  else if b = 45 then .ok { s with mode := .number true .sign, place }
  else if b = 48 then .ok { s with mode := .number false .zero, place }
  else if isDigit b then .ok { s with mode := .number false (.whole (digitValue b)), place }
  else if b = 34 then .ok (s.openString false place)
  else if b = 91 then s.enter limit .firstItem (.list []) place
  else if b = 123 then s.enter limit .firstKey (.object []) place
  else .error ⟨.expectedValue, place⟩

/-- A byte after a value, no white space. -/
def State.afterValue (s : State) (b : UInt8) : Except SyntaxFault State :=
  let place := s.place.after b
  match s.stack with
  | .list done :: outer =>
    if b = 44 then .ok { s with mode := .nextItem, place }
    else if b = 93 then .ok ({ s with place }.close outer (.arr done.reverse))
    else .error ⟨.expectedListEnd, place⟩
  | .object done :: outer | .member done _ :: outer =>
    if b = 44 then .ok { s with mode := .nextKey, place }
    else if b = 125 then .ok ({ s with place }.close outer (.obj done))
    else .error ⟨.expectedObjectEnd, place⟩
  | [] => .error ⟨.trailingCharacters, place⟩

/-- A byte where nothing but the end of a number was to come. -/
def State.goOn (s : State) (b : UInt8) : Except SyntaxFault State :=
  if isSpace b then .ok { s with place := s.place.after b } else s.afterValue b

/-- A byte of a string. -/
def State.stringStep (s : State) (isKey : Bool) (phase : StringPhase) (p : Piece) (b : UInt8) :
    Except SyntaxFault State :=
  let place := s.place.after b
  let stay (phase : StringPhase) (p : Piece) : Except SyntaxFault State :=
    .ok { s with mode := .string isKey phase p, place }
  let take (c : Char) : Except SyntaxFault State := stay .plain ⟨c :: p.done, [], place.column⟩
  match phase with
  | .plain =>
    if b = 34 then
      match p.close with
      | .error column => .error ⟨.invalidCodePoint, ⟨place.line, column⟩⟩
      | .ok done =>
        let text := String.ofList done.reverse
        if isKey then .ok { s with mode := .colon text, place }
        else .ok ({ s with place }.deliver (.str text))
    else if b = 92 then
      match p.close with
      | .error column => .error ⟨.invalidCodePoint, ⟨place.line, column⟩⟩
      | .ok done => stay .escape ⟨done, [], place.column⟩
    else if b < 32 then .error ⟨.controlCharacter, place⟩
    else stay .plain { p with raw := b :: p.raw }
  | .escape =>
    if b = 117 then stay (.code []) p
    else
      match escapeChar b with
      | some c => take c
      | none => .error ⟨.invalidEscape, place⟩
  | .code digits =>
    if digits.length < 3 then stay (.code (b :: digits)) p
    else
      match codeValue (b :: digits) with
      | none => .error ⟨.invalidEscape, place⟩
      | some n =>
        if 0xDC00 ≤ n ∧ n ≤ 0xDFFF then .error ⟨.loneSurrogate, place⟩
        else if 0xD800 ≤ n ∧ n ≤ 0xDBFF then stay (.pairBackslash n) p
        else take (Char.ofNat n)
  | .pairBackslash high =>
    if b = 92 then stay (.pairLetter high) p else .error ⟨.unfinishedSurrogate, place⟩
  | .pairLetter high =>
    if b = 117 then stay (.pairCode high []) p else .error ⟨.unfinishedSurrogate, place⟩
  | .pairCode high digits =>
    if digits.length < 3 then stay (.pairCode high (b :: digits)) p
    else
      match codeValue (b :: digits) with
      | none => .error ⟨.invalidEscape, place⟩
      | some n =>
        if 0xDC00 ≤ n ∧ n ≤ 0xDFFF then
          take (Char.ofNat ((high - 0xD800) * 0x400 + (n - 0xDC00) + 0x10000))
        else .error ⟨.loneSurrogate, place⟩

/-- One byte of a document whose arrays and objects may be nested less than `limit` deep. -/
def State.step (limit : Option Nat) (s : State) (b : UInt8) : Except SyntaxFault State :=
  let place := s.place.after b
  let skip : Except SyntaxFault State := .ok { s with place }
  match s.mode with
  | .value => if isSpace b then skip else s.beginValue limit b
  | .firstItem =>
    if isSpace b then skip
    else if b = 93 then .ok ({ s with place }.close s.stack.tail (.arr []))
    else s.beginValue limit b
  | .nextItem =>
    if isSpace b then skip
    else if b = 93 then .error ⟨.trailingComma, place⟩
    else s.beginValue limit b
  | .firstKey =>
    if isSpace b then skip
    else if b = 125 then .ok ({ s with place }.close s.stack.tail (.obj []))
    else if b = 34 then .ok (s.openString true place)
    else .error ⟨.keyNotString, place⟩
  | .nextKey =>
    if isSpace b then skip
    else if b = 125 then .error ⟨.trailingComma, place⟩
    else if b = 34 then .ok (s.openString true place)
    else .error ⟨.keyNotString, place⟩
  | .colon key =>
    if isSpace b then skip
    else if b = 58 then
      match s.stack with
      | .object done :: outer =>
        .ok { s with mode := .value, stack := .member done key :: outer, place }
      | _ => .ok { s with mode := .value, place }
    else .error ⟨.expectedColon, place⟩
  | .afterValue => s.goOn b
  | .word [] v => (s.deliver v).goOn b
  | .word (x :: rest) v =>
    if b ≠ x then .error ⟨.expectedIdent, place⟩
    else if rest.isEmpty then .ok ({ s with place }.deliver v)
    else .ok { s with mode := .word rest v, place }
  | .number negative n =>
    match n.step b with
    | .goesOn n => .ok { s with mode := .number negative n, place }
    | .fails f => .error ⟨f, place⟩
    | .ends =>
      match n.value negative with
      | .error f => .error ⟨f, s.place⟩
      | .ok v => (s.deliver v).goOn b
  | .string isKey phase p => s.stringStep isKey phase p b
  | .done _ => if isSpace b then skip else .error ⟨.trailingCharacters, place⟩

/-- Reads bytes one after the other. -/
def State.feed (limit : Option Nat) : State → List UInt8 → Except SyntaxFault State
  | s, [] => .ok s
  | s, b :: rest =>
    match s.step limit b with
    | .ok s => State.feed limit s rest
    | .error e => .error e

/-- What is missing where a document ends. -/
def State.missing (s : State) : Fault :=
  match s.mode with
  | .firstItem => .endInList
  | .firstKey => .endInObject
  | .colon _ => .endInObject
  | .string _ _ _ => .endInString
  | .afterValue =>
    match s.stack with
    | .list _ :: _ => .endInList
    | _ => .endInObject
  | _ => .endInValue

/-- The value of a document that ends here. -/
def State.finish (s : State) : Except SyntaxFault Json :=
  match s.mode with
  | .done v => .ok v
  | .number negative n =>
    match n.value negative with
    | .error f => .error ⟨f, s.place⟩
    | .ok v =>
      match (s.deliver v).mode with
      | .done v => .ok v
      | _ => .error ⟨(s.deliver v).missing, s.place⟩
  | _ => .error ⟨s.missing, s.place⟩

/-- Reads a whole document. -/
def read (limit : Option Nat) (bytes : List UInt8) : Except SyntaxFault Json :=
  match (State.initial 0 .start).feed limit bytes with
  | .ok s => s.finish
  | .error e => .error e

end ProfileBrowser.Json
