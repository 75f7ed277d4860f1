import ProfileBrowser.View.Viewer
/-!
# Keys and the mouse

What a key or a mouse event does to the viewer. An open help swallows the next key; while a filter
is typed, keys edit its text and nothing else.
-/

namespace ProfileBrowser

/-! ### Keys -/

/-- A key. -/
inductive Key where
  | enter | escape | backspace | tab | backTab | left | right | up | down
  | pageUp | pageDown | home | end_ | delete
  | function (n : Nat)
  | char (c : Char)
  /-- Insert, a lock, a media key or a modifier on its own: no command. -/
  | other
deriving DecidableEq, Repr, Inhabited

/-- A key with the modifiers held down. -/
structure KeyPress where
  key : Key
  control : Bool := false
  shift : Bool := false
  alt : Bool := false
deriving DecidableEq, Repr, Inhabited

namespace Viewer

/-- How many rows a page key moves by. -/
def pageRows : Nat := 10

/-- A key while a filter is typed. -/
def filterKey (v : Viewer) (press : KeyPress) : Viewer :=
  match press.key with
  | .enter | .escape => { v with filterActive := false }
  | .backspace =>
    let v := v.popFilter
    if v.view.filter.isEmpty then { v with filterActive := false } else v
  | .char c => if c = 'c' && press.control then v.clearFilter else v.pushFilter c
  | _ => v

/-- A letter or sign as a command; also the file that it wants written. -/
def command (v : Viewer) (c : Char) (wall : Int) : Viewer × Option Saving :=
  match c with
  | 'q' => ({ v with running := false }, none)
  | 'h' => (v.setMode v.mode.prev, none)
  | 'l' => (v.setMode v.mode.next, none)
  | '1' => (v.setMode .combine, none)
  | '2' => (v.setMode .table, none)
  | '3' => (v.setMode .flame, none)
  | '4' => (v.setMode .topo, none)
  | 'k' => (v.selectPrev 1, none)
  | 'j' => (v.selectNext 1, none)
  | 'r' => (v.reload wall, none)
  | '?' => ({ v with helpShown := !v.helpShown }, none)
  | 's' => (if v.mode.showsTable then v.cycleSort else v, none)
  | 'S' => (if v.mode.showsTable then v.toggleSortDirection else v, none)
  | '/' => ({ v with filterActive := true }, none)
  | 'c' => (if v.view.filter.isEmpty then v else v.clearFilter, none)
  | 't' => (v.send .toggleDirection, none)
  | 'd' => v.download .image
  | 'p' => v.download .pprof
  | 'e' => (v, some v.exportState)
  | _ => (v, none)

/-- A key as a command; also the file that it wants written. -/
def commandKey (v : Viewer) (press : KeyPress) (wall : Int) : Viewer × Option Saving :=
  match press.key with
  | .tab => (v.setMode (if press.shift then v.mode.prev else v.mode.next), none)
  | .backTab | .left => (v.setMode v.mode.prev, none)
  | .right => (v.setMode v.mode.next, none)
  | .up => (v.selectPrev 1, none)
  | .down => (v.selectNext 1, none)
  | .pageUp => (v.selectPrev pageRows, none)
  | .pageDown => (v.selectNext pageRows, none)
  | .home => (v.selectFirst, none)
  | .end_ => (v.selectLast, none)
  | .char c =>
    if c = 'c' && press.control then ({ v with running := false }, none) else v.command c wall
  | _ => (v, none)

/-- A key; also the file that it wants written. `wall` is the time of day. -/
def press (v : Viewer) (press : KeyPress) (wall : Int) : Viewer × Option Saving :=
  if v.helpShown then ({ v with helpShown := false }, none)
  else if v.filterActive then (v.filterKey press, none)
  else v.commandKey press wall

end Viewer

/-! ### The mouse -/

/-- A mouse event. -/
inductive MouseEvent where
  | scrollUp | scrollDown
  /-- The left button goes down on a cell. -/
  | leftDown (x y : Nat)
  /-- Anything else. -/
  | other
deriving DecidableEq, Repr, Inhabited

/-- The first line below the header and the tabs. -/
def contentTop : Nat := 2

/-- What a mouse event does: the wheel moves the cursor, a click on a tab switches the mode, and a
click on a row selects it. -/
def Viewer.mouse (v : Viewer) : MouseEvent → Viewer
  | .scrollUp => v.selectPrev 1
  | .scrollDown => v.selectNext 1
  | .leftDown x y =>
    if y = contentTop - 1 then
      match Mode.tabAt x 0 with
      | some mode => v.setMode mode
      | none => v
    else
      match v.rowAt x y with
      | some row => v.selectRow row
      | none => v
  | .other => v

end ProfileBrowser
