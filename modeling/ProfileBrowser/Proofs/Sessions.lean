import ProfileBrowser.Proofs.Accounts
import ProfileBrowser.Screen.Draw
import Mathlib.Logic.Relation
/-!
# Sessions of the viewer

A session is what happens to a viewer from the moment it is opened around a controller: keys, the mouse,
ticks and frames, and beside them the clock and the answers of the backend. There are many keys, but
they do few things. `Move` lists those, each with the bounds that its operation keeps to by itself, and
`handle_moves` says that every event is made of them, a reload apart. So what is to hold all through a
session is proved of the moves and of the reload (`handle_keeps`).

What a session does to the controller is a run of the exchange (`run_exchange`), so what holds in every
state of a run holds of the controller in every state of a session.
-/

namespace ProfileBrowser

namespace Viewer

/-! ### Events -/

/-- What can happen to a viewer. -/
inductive Event where
  /-- A key at a time of day. The file that it may ask for is written under a stamp, or cannot be. -/
  | press (press : KeyPress) (wall : Int) (stamp : String) (failure : Option FileFault)
  | mouse (event : MouseEvent)
  | tick
  /-- A frame of a size is drawn. -/
  | draw (width height : Nat)
  /-- Time passes. -/
  | advance (millis : Nat)
  /-- The backend answers a request. -/
  | answer (number : Nat) (outcome : Outcome)

/-- Takes in how the writing of the file went that an operation has asked for. -/
def written (result : Viewer × Option Saving) (stamp : String) (failure : Option FileFault) :
    Viewer :=
  match result with
  | (v, some saving) => v.saved saving stamp failure
  | (v, none) => v

/-- What an event does. -/
def handle (v : Viewer) : Event → Viewer
  | .press press wall stamp failure => written (v.press press wall) stamp failure
  | .mouse event => v.mouse event
  | .tick => v.tick.1
  | .draw width height => (v.draw width height).1
  | .advance millis => (v.send (.advance millis)).ageNotice millis
  | .answer number outcome => v.send (.answer number outcome)

/-- What a sequence of events does. -/
def run (v : Viewer) (events : List Event) : Viewer := events.foldl handle v

/-- A viewer that has just been opened around a controller. -/
def opened (exchange : Exchange) (source : String) (theme : Theme) (lookback : Option Duration)
    (exportDirectory : String) : Viewer :=
  { exchange, source, theme, lookback, exportDirectory }

/-- Whether an event is the key that fetches again. -/
def Event.reloads (v : Viewer) : Event → Bool
  | .press pressed _ _ _ => pressed.key = .char 'r' && !v.helpShown && !v.filterActive
  | _ => false

/-- Whether an event is one of the user's or of the clock: neither a tick nor an answer of the backend. -/
def Event.ofUser : Event → Bool
  | .tick | .answer _ _ => false
  | _ => true

/-! ### Moves -/

/-- **A move**: what the operations of a viewer do, a reload apart. -/
inductive Move (v : Viewer) : Viewer → Prop where
  /-- Nothing of the profile changes, nor does the cursor: the viewer is quit, an overlay or the input of
  a filter is opened or closed, a message comes, or a frame is drawn. -/
  | aside (running helpShown filterActive : Bool) (tableCursor : Option Nat) (tableOffset : Nat)
      (tableArea : Rect) (notice : Option Notice) :
    Move v { v with running, helpShown, filterActive, tableCursor, tableOffset, tableArea, notice }
  /-- The mode is switched. -/
  | setMode (mode : Mode) : Move v (v.setMode mode)
  /-- The cursor goes to a row, not past the last one unless it has been there. -/
  | row {row : Nat} (hrow : row ≤ v.visibleRows.length - 1 ∨ row ≤ v.selectedRow) :
    Move v (v.moveTo row)
  /-- The call graph is scrolled to a line, not past the last one unless it has been there. -/
  | line {line : Nat} (htopo : v.mode = .topo)
      (hline : line ≤ v.topoLineCount - 1 ∨ line ≤ v.topoScroll) :
    Move v { v with topoScroll := line }
  /-- The rows are fetched in an order. -/
  | sort (sort : TableSort) : Move v { v with sort }.applySort
  /-- The filter text is replaced. -/
  | filter (text : String) : Move v (v.setFilter text)
  /-- Labels are turned round. -/
  | turn : Move v (v.send .toggleDirection)
  /-- What has arrived is taken in. -/
  | tick : Move v v.tick.1
  /-- Time passes. -/
  | wait (millis : Nat) : Move v (v.send (.advance millis))
  /-- The backend answers a request. -/
  | answer (number : Nat) (outcome : Outcome) : Move v (v.send (.answer number outcome))

/-- Moves one after the other. -/
abbrev Moves : Viewer → Viewer → Prop := Relation.ReflTransGen Move

variable {v w : Viewer}

/-- **An act**: a move of the user's, in which the backend answers nothing and nothing that has arrived is
taken in. -/
structure Act (v w : Viewer) : Prop where
  move : Move v w
  answered : w.exchange.answered = v.exchange.answered
  arrived : w.exchange.arrived = v.exchange.arrived

/-- Acts one after the other. -/
abbrev Acts : Viewer → Viewer → Prop := Relation.ReflTransGen Act

theorem Act.acts (h : Act v w) : Acts v w := .single h

theorem Acts.moves (h : Acts v w) : Moves v w :=
  Relation.ReflTransGen.mono (fun _ _ (hact : Act _ _) => hact.move) _ _ h

/-! ### Operations in acts -/

/-- What does not touch the controller is an act. -/
theorem Move.act (h : Move v w) (hsame : w.exchange = v.exchange) : Act v w :=
  ⟨h, congrArg Exchange.answered hsame, congrArg Exchange.arrived hsame⟩

theorem notify_act (v : Viewer) (text : String) : Act v (v.notify text) :=
  Move.act (.aside v.running v.helpShown v.filterActive v.tableCursor v.tableOffset v.tableArea
    (some { text })) rfl

theorem filterActive_act (v : Viewer) (filterActive : Bool) : Act v { v with filterActive } :=
  Move.act (.aside v.running v.helpShown filterActive v.tableCursor v.tableOffset v.tableArea v.notice) rfl

theorem helpShown_act (v : Viewer) (helpShown : Bool) : Act v { v with helpShown } :=
  Move.act (.aside v.running helpShown v.filterActive v.tableCursor v.tableOffset v.tableArea v.notice) rfl

theorem quit_act (v : Viewer) : Act v { v with running := false } :=
  Move.act (.aside false v.helpShown v.filterActive v.tableCursor v.tableOffset v.tableArea v.notice) rfl

theorem setMode_act (v : Viewer) (mode : Mode) : Act v (v.setMode mode) := ⟨.setMode mode, rfl, rfl⟩

theorem filter_act (v : Viewer) (text : String) : Act v (v.setFilter text) := ⟨.filter text, rfl, rfl⟩

theorem turn_act (v : Viewer) : Act v (v.send .toggleDirection) := ⟨.turn, rfl, rfl⟩

theorem sort_act (v : Viewer) (sort : TableSort) : Act v { v with sort }.applySort :=
  ⟨.sort sort, rfl, rfl⟩

theorem row_act {row : Nat} (hrow : row ≤ v.visibleRows.length - 1 ∨ row ≤ v.selectedRow) :
    Act v (v.moveTo row) := ⟨.row hrow, rfl, rfl⟩

theorem line_act {line : Nat} (htopo : v.mode = .topo)
    (hline : line ≤ v.topoLineCount - 1 ∨ line ≤ v.topoScroll) : Act v { v with topoScroll := line } :=
  Move.act (.line htopo hline) rfl

theorem selectNext_act (v : Viewer) (n : Nat) : Act v (v.selectNext n) := by
  rw [selectNext]
  split
  case isTrue htopo => exact line_act htopo (.inl (Nat.min_le_right _ _))
  case isFalse => exact row_act (.inl (Nat.min_le_right _ _))

theorem selectPrev_act (v : Viewer) (n : Nat) : Act v (v.selectPrev n) := by
  rw [selectPrev]
  split
  case isTrue htopo => exact line_act htopo (.inr (Nat.sub_le _ _))
  case isFalse => exact row_act (.inr (Nat.sub_le _ _))

theorem selectFirst_act (v : Viewer) : Act v v.selectFirst := by
  rw [selectFirst]
  split
  case isTrue htopo => exact line_act htopo (.inl (Nat.zero_le _))
  case isFalse => exact row_act (.inl (Nat.zero_le _))

theorem selectLast_act (v : Viewer) : Act v v.selectLast := by
  rw [selectLast]
  split
  case isTrue htopo => exact line_act htopo (.inl (Nat.le_refl _))
  case isFalse => exact row_act (.inl (Nat.le_refl _))

theorem selectRow_acts (v : Viewer) (row : Nat) : Acts v (v.selectRow row) := by
  rw [selectRow]
  split
  case isTrue hlt => exact (row_act (.inl (Nat.le_sub_one_of_lt hlt))).acts
  case isFalse => exact .refl

theorem clearFilter_acts (v : Viewer) : Acts v v.clearFilter :=
  (v.filter_act "").acts.tail (filterActive_act _ false)

theorem download_acts (v : Viewer) (format : Controller.DownloadFormat) :
    Acts v (v.download format).1 := by
  unfold download
  cases v.controller.image? format with
  | some image => exact .refl
  | none =>
    cases format with
    | image | pprof => exact (notify_act _ _).acts

/-- A file that has been asked for changes the message at most. -/
theorem written_acts (result : Viewer × Option Saving) (stamp : String)
    (failure : Option FileFault) : Acts result.1 (written result stamp failure) := by
  obtain ⟨v, saving⟩ := result
  cases saving with
  | none => exact .refl
  | some saving => exact (notify_act _ _).acts

/-! ### Events in acts -/

/-- A key while a filter is typed. -/
theorem filterKey_acts (v : Viewer) (press : KeyPress) : Acts v (v.filterKey press) := by
  unfold filterKey
  split
  · exact (filterActive_act v false).acts
  · exact (filterActive_act v false).acts
  · have hpop : Acts v v.popFilter := (v.filter_act _).acts
    dsimp only
    split
    · exact hpop.tail (filterActive_act _ false)
    · exact hpop
  · split
    · exact v.clearFilter_acts
    · exact (v.filter_act _).acts
  · exact .refl

/-- A letter or sign as a command. -/
theorem command_acts (v : Viewer) {c : Char} (hc : c ≠ 'r') (wall : Int) :
    Acts v (v.command c wall).1 := by
  unfold command
  split
  · exact v.quit_act.acts
  · exact (v.setMode_act _).acts
  · exact (v.setMode_act _).acts
  · exact (v.setMode_act _).acts
  · exact (v.setMode_act _).acts
  · exact (v.setMode_act _).acts
  · exact (v.setMode_act _).acts
  · exact (v.selectPrev_act 1).acts
  · exact (v.selectNext_act 1).acts
  · exact absurd rfl hc
  · exact (v.helpShown_act _).acts
  · split
    · exact (v.sort_act _).acts
    · exact .refl
  · split
    · exact (v.sort_act _).acts
    · exact .refl
  · exact (v.filterActive_act true).acts
  · split
    · exact .refl
    · exact v.clearFilter_acts
  · exact v.turn_act.acts
  · exact v.download_acts _
  · exact v.download_acts _
  · exact .refl
  · exact .refl

/-- A key as a command. -/
theorem commandKey_acts (v : Viewer) {press : KeyPress} (hr : press.key ≠ .char 'r') (wall : Int) :
    Acts v (v.commandKey press wall).1 := by
  obtain ⟨key, control, shift, alt⟩ := press
  cases key with
  | tab | backTab | left | right => exact (v.setMode_act _).acts
  | up | pageUp => exact (v.selectPrev_act _).acts
  | down | pageDown => exact (v.selectNext_act _).acts
  | home => exact v.selectFirst_act.acts
  | end_ => exact v.selectLast_act.acts
  | char c =>
    unfold commandKey
    dsimp only
    split
    · exact v.quit_act.acts
    · exact v.command_acts (fun hc => hr (congrArg Key.char hc)) wall
  | enter | escape | backspace | delete | function | other => exact .refl

/-- A mouse event. -/
theorem mouse_acts (v : Viewer) (event : MouseEvent) : Acts v (v.mouse event) := by
  cases event with
  | scrollUp => exact (v.selectPrev_act 1).acts
  | scrollDown => exact (v.selectNext_act 1).acts
  | leftDown x y =>
    unfold mouse
    dsimp only
    split
    · split
      · exact (v.setMode_act _).acts
      · exact .refl
    · split
      · exact v.selectRow_acts _
      · exact .refl
  | other => exact .refl

/-- The drawing of a frame. -/
theorem drawn_act (v : Viewer) (screen : Rect) : Act v (v.drawn screen) := by
  rw [drawn]
  split
  · exact Move.act (.aside v.running v.helpShown v.filterActive _ _ _ v.notice) rfl
  · exact Move.act
      (.aside v.running v.helpShown v.filterActive v.tableCursor v.tableOffset {} v.notice) rfl

/-- The passing of time. -/
theorem advance_acts (v : Viewer) (millis : Nat) : Acts v (v.handle (.advance millis)) := by
  have hwait : Act v (v.send (.advance millis)) := ⟨.wait millis, rfl, rfl⟩
  exact hwait.acts.tail (Move.act (.aside _ _ _ _ _ _ _) rfl)

/-- **What an event of the user's does, in acts**, unless it is the key that fetches again. -/
theorem handle_acts (v : Viewer) {e : Event} (he : e.ofUser) :
    (∃ wall, e.reloads v ∧ v.handle e = v.reload wall) ∨ Acts v (v.handle e) := by
  cases e with
  | press press wall stamp failure =>
    rw [handle, Viewer.press]
    split_ifs with hhelp hfilter
    · exact .inr (v.helpShown_act false).acts
    · exact .inr (v.filterKey_acts press)
    · by_cases hr : press.key = .char 'r'
      · refine .inl ⟨wall, ?_, ?_⟩
        · simp [Event.reloads, hr, hhelp, hfilter]
        · rw [commandKey, hr]
          rfl
      · exact .inr ((v.commandKey_acts hr wall).trans (written_acts _ _ _))
  | mouse event => exact .inr (v.mouse_acts event)
  | draw width height => exact .inr (v.drawn_act _).acts
  | advance millis => exact .inr (v.advance_acts millis)
  | tick | answer => cases he

/-- **What an event does, in moves**, unless it is the key that fetches again. -/
theorem handle_moves (v : Viewer) (e : Event) :
    (∃ wall, e.reloads v ∧ v.handle e = v.reload wall) ∨ Moves v (v.handle e) := by
  cases e with
  | tick => exact .inr (.single .tick)
  | answer number outcome => exact .inr (.single (.answer number outcome))
  | press | mouse | draw | advance => exact (v.handle_acts rfl).imp_right Acts.moves

/-- What one step after the other keeps. -/
theorem keeps_of_steps {R : Viewer → Viewer → Prop} {P : Viewer → Prop}
    (hstep : ∀ {v w : Viewer}, P v → R v w → P w) (h : Relation.ReflTransGen R v w) (hv : P v) : P w := by
  induction h with
  | refl => exact hv
  | tail _ h ih => exact hstep ih h

/-- **What every move and the reload keep, every event keeps.** -/
theorem handle_keeps {P : Viewer → Prop} (hmove : ∀ {v w : Viewer}, P v → Move v w → P w) {e : Event}
    (hreload : ∀ wall, e.reloads v → P (v.reload wall)) (hv : P v) : P (v.handle e) := by
  rcases v.handle_moves e with ⟨wall, hreloads, hwall⟩ | h
  · exact hwall ▸ hreload wall hreloads
  · exact keeps_of_steps hmove h hv

/-- What every act and the reload keep, every event of the user's keeps. -/
theorem handle_keeps_of_acts {P : Viewer → Prop} (hact : ∀ {v w : Viewer}, P v → Act v w → P w)
    {e : Event} (he : e.ofUser) (hreload : ∀ wall, e.reloads v → P (v.reload wall)) (hv : P v) :
    P (v.handle e) := by
  rcases v.handle_acts he with ⟨wall, hreloads, hwall⟩ | h
  · exact hwall ▸ hreload wall hreloads
  · exact keeps_of_steps hact h hv

/-! ### Ticks and reloads -/

/-- A tick polls. If that has changed anything and the cursor is past the rows now, it goes to the last.
-/
theorem tick_eq (v : Viewer) :
    let polled := v.send .poll
    v.tick.1 = { polled with selectedRow :=
      if v.exchange.poll.2 && polled.visibleRows.length ≤ v.selectedRow then
        polled.visibleRows.length - 1
      else v.selectedRow } := by
  intro polled
  by_cases hpast : v.exchange.poll.2 && polled.visibleRows.length ≤ v.selectedRow
  · rw [if_pos hpast]
    exact congrArg Prod.fst (if_pos hpast)
  · rw [if_neg hpast]
    exact congrArg Prod.fst (if_neg hpast)

/-- A reload passes an event on that asks for table and flame graph, or for a look-back window one that
moves it. -/
theorem reload_eq_send (v : Viewer) (wall : Int) :
    ∃ e : Exchange.Event, v.reload wall = v.send e ∧
      (e = .refresh ∨ v.lookback.isSome ∧ ∃ range, e = .setRange range) := by
  rw [reload]
  cases v.lookback with
  | none => exact ⟨.refresh, rfl, .inl rfl⟩
  | some window => exact ⟨.setRange (.last wall window), rfl, .inr ⟨rfl, _, rfl⟩⟩

theorem Move.lookback (h : Move v w) : w.lookback = v.lookback := by
  cases h with
  | tick => rw [tick_eq]; rfl
  | aside | setMode | row | line | sort | filter | turn | wait | answer => rfl

/-- The look-back window is chosen once. -/
theorem handle_lookback (v : Viewer) (e : Event) : (v.handle e).lookback = v.lookback := by
  refine handle_keeps (P := fun w => w.lookback = v.lookback) ?_ ?_ rfl
  · exact fun hw hmove => hmove.lookback.trans hw
  · intro wall _
    obtain ⟨sent, heq, -⟩ := v.reload_eq_send wall
    rw [heq]
    rfl

/-! ### What a session does to the controller -/

/-- A move does nothing to the controller, or passes an event on that does not replace the context. -/
theorem Move.exchange (h : Move v w) :
    w.exchange = v.exchange ∨
      ∃ e : Exchange.Event, ¬ e.replaces ∧ w.exchange = v.exchange.handle e := by
  cases h with
  | aside | line => exact .inl rfl
  | setMode mode => exact .inr ⟨.setMode mode, nofun, rfl⟩
  | row => exact .inr ⟨.highlight _, nofun, rfl⟩
  | sort => exact .inr ⟨.sortBy _, nofun, rfl⟩
  | filter text => exact .inr ⟨.setFilter text, nofun, rfl⟩
  | turn => exact .inr ⟨.toggleDirection, nofun, rfl⟩
  | tick => exact .inr ⟨.poll, nofun, by rw [tick_eq]; rfl⟩
  | wait millis => exact .inr ⟨.advance millis, nofun, rfl⟩
  | answer number outcome => exact .inr ⟨.answer number outcome, nofun, rfl⟩

/-- An act does nothing to the controller, or passes an event on at which nothing is answered. -/
theorem Act.exchange (h : Act v w) :
    w.exchange = v.exchange ∨
      ∃ e : Exchange.Event, ¬ e.answers ∧ w.exchange = v.exchange.handle e := by
  rcases h.move.exchange with heq | ⟨e, -, heq⟩
  · exact .inl heq
  · cases e with
    | answer number outcome =>
      rcases v.exchange.answer_cases number fun _ => outcome with hsame | ⟨fetch, -, -, hnew⟩
      · exact .inl (heq.trans hsame)
      · have hanswered := h.answered
        rw [heq, Exchange.handle, hnew] at hanswered
        exact absurd hanswered (List.cons_ne_self _ _)
    | setParams | setRange | refresh | setMode | sortBy | highlight | setFilter | toggleDirection
    | advance | poll =>
      refine .inr ⟨_, ?_, heq⟩
      exact Bool.false_ne_true

/-- What an event does to the controller is a run of the exchange, in which nothing is answered but by the
event. -/
theorem handle_exchange (v : Viewer) (e : Event) :
    ∃ sent : List Exchange.Event, (v.handle e).exchange = v.exchange.run sent ∧
      ∀ number outcome, .answer number outcome ∈ sent → e = .answer number outcome := by
  by_cases huser : e.ofUser
  · suffices h : ∃ sent : List Exchange.Event,
        (v.handle e).exchange = v.exchange.run sent ∧ ∀ e ∈ sent, ¬ e.answers by
      obtain ⟨sent, hrun, hnone⟩ := h
      exact ⟨sent, hrun, fun _ _ hmem => absurd rfl (hnone _ hmem)⟩
    refine handle_keeps_of_acts (P := fun w => ∃ sent : List Exchange.Event,
      w.exchange = v.exchange.run sent ∧ ∀ e ∈ sent, ¬ e.answers) ?_ huser ?_ ⟨[], rfl, by simp⟩
    · rintro u w ⟨sent, hrun, hnone⟩ hact
      rcases hact.exchange with heq | ⟨e, he, heq⟩
      · exact ⟨sent, heq.trans hrun, hnone⟩
      · refine ⟨sent ++ [e], by rw [heq, hrun, Exchange.run_append]; rfl, ?_⟩
        exact List.forall_mem_append.mpr ⟨hnone, List.forall_mem_singleton.mpr he⟩
    · intro wall _
      obtain ⟨sent, heq, hsent⟩ := v.reload_eq_send wall
      refine ⟨[sent], by rw [heq]; rfl, List.forall_mem_singleton.mpr ?_⟩
      rcases hsent with rfl | ⟨-, range, rfl⟩ <;> exact Bool.false_ne_true
  · cases e with
    | tick => exact ⟨[.poll], by rw [handle, tick_eq]; rfl, by simp⟩
    | answer number outcome =>
      refine ⟨[.answer number outcome], rfl, fun _ _ hmem => ?_⟩
      cases List.mem_singleton.mp hmem
      rfl
    | press | mouse | draw | advance => exact absurd rfl huser

/-- **What a session does to the controller is a run of the exchange**, with no other answers. -/
theorem run_exchange (v : Viewer) (events : List Event) :
    ∃ sent : List Exchange.Event, (v.run events).exchange = v.exchange.run sent ∧
      ∀ number outcome, .answer number outcome ∈ sent → .answer number outcome ∈ events := by
  induction events generalizing v with
  | nil => exact ⟨[], rfl, fun _ _ hmem => absurd hmem List.not_mem_nil⟩
  | cons e events ih =>
    obtain ⟨first, hfirst, hanswered⟩ := v.handle_exchange e
    obtain ⟨later, hlater, hmore⟩ := ih (v.handle e)
    rw [hfirst, ← Exchange.run_append] at hlater
    refine ⟨first ++ later, hlater, fun number outcome hmem => ?_⟩
    rcases List.mem_append.mp hmem with hmem | hmem
    · exact hanswered number outcome hmem ▸ List.mem_cons_self
    · exact List.mem_cons_of_mem _ (hmore number outcome hmem)

/-- A session of a viewer opened around a new controller is a course of its exchange, and the answers
that were taken in are the backend's. -/
theorem run_course (context : Context) (quiet : Nat) (mode : Mode) (source : String) (theme : Theme)
    (lookback : Option Duration) (exportDirectory : String) (events : List Event) :
    ∃ past, Exchange.Course
        ((opened (.new context quiet mode) source theme lookback exportDirectory).run events).exchange
        past ∧
      ∀ number completion, .applied number completion ∈ past →
        .answer number completion.outcome ∈ events := by
  obtain ⟨sent, hrun, hanswers⟩ :=
    (opened (.new context quiet mode) source theme lookback exportDirectory).run_exchange events
  refine ⟨_, hrun ▸ Exchange.course_run context quiet mode sent, fun number completion happlied => ?_⟩
  exact hanswers _ _ (Exchange.answer_of_applied_run happlied)

end Viewer

end ProfileBrowser
