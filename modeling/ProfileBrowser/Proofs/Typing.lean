import ProfileBrowser.Proofs.Sessions
import Mathlib.Data.List.Induction
/-!
# Typing a filter

While the input of a filter is open, a key edits the text or closes the input, and that is all: the viewer
stays the same but for the text, the cursor and whether the input is open (`Viewer.retyped`). What keys make
of the text is said without the viewer (`KeyPress.edit`, `typed`), and so is which of them closes the input
(`KeyPress.Ends`). One key is taken apart in `filterKey_eq`, a sequence of keys in `run_keystrokes`.
-/

namespace ProfileBrowser

namespace KeyPress

/-! ### Keys that edit -/

/-- The key that empties the text and closes the input. -/
def IsCancel (press : KeyPress) : Prop := press.key = .char 'c' ∧ press.control = true

instance (press : KeyPress) : Decidable press.IsCancel := inferInstanceAs (Decidable (_ ∧ _))

/-- What a key makes of the text. -/
def edit (text : List Char) (press : KeyPress) : List Char :=
  match press.key with
  | .char c => if press.IsCancel then [] else text ++ [c]
  | .backspace => text.dropLast
  | _ => text

/-- Where a key leaves the cursor: an edit puts it on the first row. -/
def editRow (row : Nat) (press : KeyPress) : Nat :=
  match press.key with
  | .char _ | .backspace => 0
  | _ => row

/-- Whether a key closes the input, the text being the one that it leaves. -/
def Ends (press : KeyPress) (text : List Char) : Prop :=
  press.key = .enter ∨ press.key = .escape ∨ press.IsCancel ∨ press.key = .backspace ∧ text = []

instance (press : KeyPress) (text : List Char) : Decidable (press.Ends text) :=
  inferInstanceAs (Decidable (_ ∨ _ ∨ _ ∨ _ ∧ _))

end KeyPress

/-- What keys make of a text, one after the other. -/
def typed (text : List Char) (keys : List KeyPress) : List Char := keys.foldl KeyPress.edit text

/-- A key as it arrives in a session, with all that a command would need. -/
structure Keystroke where
  press : KeyPress
  wall : Int
  stamp : String
  failure : Option FileFault

/-- Its event. -/
def Keystroke.event (k : Keystroke) : Viewer.Event := .press k.press k.wall k.stamp k.failure

namespace Viewer

variable {v : Viewer}

/-! ### One key -/

/-- The viewer with another filter text, the cursor on a row, and the input open or not; the same in all
else. -/
def retyped (v : Viewer) (text : List Char) (row : Nat) (filterActive : Bool) : Viewer :=
  { v with exchange.controller.view.filter := String.ofList text, selectedRow := row, filterActive }

@[simp] theorem retyped_filter (text : List Char) (row : Nat) (filterActive : Bool) :
    (v.retyped text row filterActive).view.filter = String.ofList text := rfl

@[simp] theorem retyped_filterActive (text : List Char) (row : Nat) (filterActive : Bool) :
    (v.retyped text row filterActive).filterActive = filterActive := rfl

@[simp] theorem retyped_helpShown (text : List Char) (row : Nat) (filterActive : Bool) :
    (v.retyped text row filterActive).helpShown = v.helpShown := rfl

@[simp] theorem retyped_selectedRow (text : List Char) (row : Nat) (filterActive : Bool) :
    (v.retyped text row filterActive).selectedRow = row := rfl

@[simp] theorem retyped_retyped (text later : List Char) (row next : Nat) (filterActive active : Bool) :
    (v.retyped text row filterActive).retyped later next active = v.retyped later next active := rfl

theorem retyped_same (filterActive : Bool) :
    v.retyped v.view.filter.toList v.selectedRow filterActive = { v with filterActive } := by
  rw [retyped, String.ofList_toList]
  rfl

theorem retyped_self (hactive : v.filterActive = true) :
    v.retyped v.view.filter.toList v.selectedRow true = v := by
  rw [retyped_same, ← hactive]

theorem setFilter_eq (text : String) :
    v.setFilter text = v.retyped text.toList 0 v.filterActive := by
  rw [retyped, String.ofList_toList]
  rfl

theorem pushFilter_eq (hactive : v.filterActive = true) (c : Char) :
    v.pushFilter c = v.retyped (v.view.filter.toList ++ [c]) 0 true := by
  rw [pushFilter, setFilter_eq, String.toList_push, hactive]

theorem popFilter_eq (hactive : v.filterActive = true) :
    v.popFilter = v.retyped v.view.filter.toList.dropLast 0 true := by
  rw [popFilter, setFilter_eq, String.toList_ofList, hactive]

theorem clearFilter_eq (v : Viewer) : v.clearFilter = v.retyped [] 0 false := rfl

/-- **A key while a filter is typed** edits the text, or closes the input. -/
theorem filterKey_eq (hactive : v.filterActive = true) (press : KeyPress) :
    let text := press.edit v.view.filter.toList
    v.filterKey press = v.retyped text (press.editRow v.selectedRow) (!decide (press.Ends text)) := by
  obtain ⟨key, control, shift, alt⟩ := press
  cases key with
  | enter | escape => exact (retyped_same false).symm
  | backspace =>
    by_cases hempty : v.view.filter.toList.dropLast = []
    · simp [filterKey, popFilter_eq hactive, KeyPress.edit, KeyPress.editRow, KeyPress.Ends, hempty]
      rfl
    · simp [filterKey, popFilter_eq hactive, KeyPress.edit, KeyPress.editRow, KeyPress.Ends,
        KeyPress.IsCancel, hempty]
  | char c =>
    by_cases hcancel : c = 'c' ∧ control = true
    · simp [filterKey, clearFilter_eq, KeyPress.edit, KeyPress.editRow, KeyPress.Ends, KeyPress.IsCancel,
        hcancel]
    · simp [filterKey, pushFilter_eq hactive, KeyPress.edit, KeyPress.editRow, KeyPress.Ends,
        KeyPress.IsCancel, hcancel]
  | tab | backTab | left | right | up | down | pageUp | pageDown | home | end_ | delete | function
  | other => exact (retyped_self hactive).symm

/-- With the help open a key closes it. -/
theorem press_of_helpShown (hhelp : v.helpShown = true) (press : KeyPress) (wall : Int) :
    v.press press wall = ({ v with helpShown := false }, none) := if_pos hhelp

/-- While a filter is typed, a key is no command and no file is asked for. -/
theorem press_of_filterActive (hactive : v.filterActive = true) (hhelp : v.helpShown = false)
    (press : KeyPress) (wall : Int) : v.press press wall = (v.filterKey press, none) := by
  rw [Viewer.press, hhelp, hactive]
  rfl

/-! ### Keys one after the other -/

theorem handle_keystroke (hactive : v.filterActive = true) (hhelp : v.helpShown = false) (k : Keystroke) :
    let text := k.press.edit v.view.filter.toList
    v.handle k.event =
      v.retyped text (k.press.editRow v.selectedRow) (!decide (k.press.Ends text)) := by
  rw [Keystroke.event, handle, press_of_filterActive hactive hhelp]
  exact filterKey_eq hactive k.press

/-- The input is open whenever one of the keys arrives; the last of them may close it. -/
def Typing (v : Viewer) (keys : List Keystroke) : Prop :=
  ∀ n < keys.length, (v.run ((keys.take n).map Keystroke.event)).filterActive = true

theorem typing_concat {keys : List Keystroke} {last : Keystroke} :
    v.Typing (keys ++ [last]) ↔
      v.Typing keys ∧ (v.run (keys.map Keystroke.event)).filterActive = true := by
  constructor
  · intro h
    refine ⟨fun n hn => ?_, ?_⟩
    · have hopen := h n (by simp; omega)
      rwa [List.take_append_of_le_length (Nat.le_of_lt hn)] at hopen
    · have hopen := h keys.length (by simp)
      rwa [List.take_left] at hopen
  · rintro ⟨hkeys, hlast⟩ n hn
    rcases Nat.lt_or_ge n keys.length with hlt | hge
    · rw [List.take_append_of_le_length (Nat.le_of_lt hlt)]
      exact hkeys n hlt
    · obtain rfl : n = keys.length := by simp at hn; omega
      rwa [List.take_left]

/-- **Keys that are typed into a filter**, one after the other: nothing changes but the text, the cursor and
whether the input is open, and that is up to the last key. -/
theorem run_keystrokes (hactive : v.filterActive = true) (hhelp : v.helpShown = false)
    {keys : List Keystroke} (h : v.Typing keys) :
    let presses := keys.map (·.press)
    let text := typed v.view.filter.toList presses
    v.run (keys.map Keystroke.event) = v.retyped text (presses.foldl KeyPress.editRow v.selectedRow)
      (!presses.getLast?.any (fun last => last.Ends text)) := by
  -- from the end: the last key meets the viewer that the others have left
  induction keys using List.reverseRecOn with
  | nil => exact (retyped_self hactive).symm
  | append_singleton keys last ih =>
    obtain ⟨hkeys, hopen⟩ := typing_concat.mp h
    have hrun := ih hkeys
    have hhelp' : (v.run (keys.map Keystroke.event)).helpShown = false := by
      rw [hrun, retyped_helpShown, hhelp]
    have hlast := handle_keystroke hopen hhelp' last
    intro presses text
    rw [List.map_append, List.map_singleton, run, List.foldl_concat, ← run, hlast, hrun]
    simp [presses, text, typed]

/-- **Typing a filter reaches the filter only.** While its input is open and no help is shown, keys that arrive
at an open input leave the viewer as it was, but for the text, to which each of them has done its edit, the
cursor and the state of the input; no file is asked for. The input is closed by a last key that ends it. With
the help shown, a key closes the help and nothing else. -/
theorem typing_reaches_filter_only (v : Viewer) :
    (v.filterActive = true → v.helpShown = false → ∀ keys : List Keystroke, v.Typing keys →
      let presses := keys.map (·.press)
      let text := typed v.view.filter.toList presses
      let w := v.run (keys.map Keystroke.event)
      w = { v with
        exchange.controller.view.filter := String.ofList text
        selectedRow := presses.foldl KeyPress.editRow v.selectedRow
        filterActive := w.filterActive } ∧
      (w.filterActive = false ↔ ∃ last, presses.getLast? = some last ∧ last.Ends text) ∧
      ∀ n k, keys[n]? = some k →
        ((v.run ((keys.take n).map Keystroke.event)).press k.press k.wall).2 = none) ∧
    (v.helpShown = true → ∀ k : Keystroke, v.handle k.event = { v with helpShown := false } ∧
      (v.press k.press k.wall).2 = none) := by
  refine ⟨fun hactive hhelp keys h => ?_, fun hhelp k => ?_⟩
  · intro presses text w
    have hrun : w = v.retyped text (presses.foldl KeyPress.editRow v.selectedRow)
        (!presses.getLast?.any (fun last => last.Ends text)) := run_keystrokes hactive hhelp h
    refine ⟨?_, ?_, fun n k hk => ?_⟩
    · rw [hrun]
      rfl
    · rw [hrun, retyped_filterActive]
      simp [Option.any_eq_true]
    · have hn : n < keys.length := (List.getElem?_eq_some_iff.mp hk).1
      have hfront : v.Typing (keys.take n) := fun m hm => by
        have hmn : m < n := by simp at hm; omega
        rw [List.take_take, Nat.min_eq_left (Nat.le_of_lt hmn)]
        exact h m (Nat.lt_trans hmn hn)
      have hhelp' : (v.run ((keys.take n).map Keystroke.event)).helpShown = false := by
        rw [run_keystrokes hactive hhelp hfront, retyped_helpShown, hhelp]
      rw [press_of_filterActive (h n hn) hhelp']
  · rw [press_of_helpShown hhelp]
    refine ⟨?_, rfl⟩
    rw [Keystroke.event, handle, press_of_helpShown hhelp]
    rfl

/-- Keys that would quit, reload, switch the mode and show the help, a correction, and the end of the input. -/
theorem typing_reaches_filter_only_commands :
    let v := (opened (.new default 300 .table) "scripted" .dark (some (.ofSeconds 900)) ".").run
      [.press { key := .char '/' } 0 "" none]
    let keys : List Keystroke :=
      [{ key := .char 'q' }, { key := .char 'r', control := true }, { key := .right },
        { key := .char '?' }, { key := .backspace }, { key := .enter }].map
          fun press => ⟨press, 0, "", none⟩
    let helped := { v with helpShown := true }
    (v.filterActive = true ∧ v.helpShown = false ∧ v.Typing keys ∧ helped.helpShown = true) ∧
    v.run (keys.map Keystroke.event) = { v with
      exchange.controller.view.filter := "qr", selectedRow := 0, filterActive := false } ∧
    ∀ k : Keystroke, helped.handle k.event = v := by
  intro v keys helped
  have htyping : v.Typing keys := by unfold Typing; decide +kernel
  obtain ⟨hrun, hends, -⟩ := v.typing_reaches_filter_only.1 rfl rfl keys htyping
  obtain ⟨-, hhelp⟩ := helped.typing_reaches_filter_only
  refine ⟨⟨rfl, rfl, htyping, rfl⟩, ?_, fun k => (hhelp rfl k).1⟩
  rw [hends.mpr ⟨_, rfl, .inl rfl⟩] at hrun
  exact hrun

end Viewer

end ProfileBrowser
