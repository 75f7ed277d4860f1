import ProfileBrowser.Text.Digits
import ProfileBrowser.Yaml.Scalar.Gap
/-!
# Quoted scalars

Scalars in single or double quotes. Between single quotes, a quote is written twice. Between double
quotes, a backslash starts an escape, and one at the end of a line takes the line end away.
-/

namespace ProfileBrowser.Yaml.Cursor

/-- What a letter after a backslash stands for. -/
def escape? : Char → Option Char
  | '0' => some (Char.ofNat 0)
  | 'a' => some (Char.ofNat 7)
  | 'b' => some (Char.ofNat 8)
  | 't' => some '\t'
  | '\t' => some '\t'
  | 'n' => some '\n'
  | 'v' => some (Char.ofNat 11)
  | 'f' => some (Char.ofNat 12)
  | 'r' => some '\r'
  | 'e' => some (Char.ofNat 27)
  | ' ' => some ' '
  | '"' => some '"'
  | '/' => some '/'
  | '\\' => some '\\'
  | 'N' => some (Char.ofNat 0x85)
  | '_' => some (Char.ofNat 0xA0)
  | 'L' => some (Char.ofNat 0x2028)
  | 'P' => some (Char.ofNat 0x2029)
  | _ => none

/-- How many digits the code after a letter has. -/
def codeLength? : Char → Option Nat
  | 'x' => some 2
  | 'u' => some 4
  | 'U' => some 8
  | _ => none

/-- What stands after a backslash, and how many characters it takes. -/
def escaped? : List Char → Option (Char × Nat)
  | [] => none
  | c :: rest =>
    match escape? c, codeLength? c with
    | some d, _ => some (d, 1)
    | none, some n =>
      if rest.length < n then none
      else
        (Text.number? 16 (rest.take n)).bind fun code =>
          if decide code.isValidChar then some (Char.ofNat code, n + 1) else none
    | none, none => none

/-- The characters up to a space, to the quote or to a line end after a backslash, at most `fuel`;
also what follows, and whether a line end was taken away. -/
def quotedWord? (quote : Char) : Nat → Cursor → Option (List Char × Bool × Cursor)
  | 0, _ => none
  | fuel + 1, c =>
    let take (d : Char) (n : Nat) : Option (List Char × Bool × Cursor) :=
      (quotedWord? quote fuel (c.skip n)).map fun (w, cut, next) => (d :: w, cut, next)
    match c.rest with
    | [] => some ([], false, c)
    | d :: rest =>
      if isSpace d then some ([], false, c)
      else if d = '\'' && quote = '\'' && rest.head? = some '\'' then take d 2
      else if d = quote then some ([], false, c)
      else if d = '\\' && quote = '"' then
        if rest.head?.any isBreak then some ([], true, (c.skip 1).newLine)
        else (escaped? rest).bind fun (e, n) => take e (n + 1)
      else take d 1

/-- A scalar after its quote, of at most `fuel` words, the lines of which are indented by at least
`indent` columns; also what follows the quote at its end. -/
def quoted? (quote : Char) (indent : Int) : Nat → Cursor → Option (List Char × Cursor)
  | 0, _ => none
  | fuel + 1, c =>
    if c.atStart || c.atStop || c.rest.isEmpty || c.column < indent then none
    else
      (quotedWord? quote (c.rest.length + 1) c).bind fun (w, cut, next) =>
        if next.rest.head? = some quote then some (w, next.skip 1)
        else
          let gap :=
            if cut then
              (skipFolded? false indent (next.rest.length + 1) next).map fun (n, next) =>
                (List.replicate n '\n', next)
            else gap? false indent next
          gap.bind fun (gap, next) =>
            (quoted? quote indent fuel next).map fun (more, next) => (w ++ gap ++ more, next)

end ProfileBrowser.Yaml.Cursor
