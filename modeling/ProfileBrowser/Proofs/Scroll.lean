import ProfileBrowser.Proofs.CallGraph
import ProfileBrowser.Proofs.Sessions
/-!
# Scrolling the call graph

The keys that scroll the call graph keep to the lines of its text, and a switch of the mode goes back to
the first. The text itself is replaced by the controller alone: a call graph that is shown stays while
the context does, and one that comes finds the first line on the screen, as without a text there is
nothing to scroll over. So a line of the call graph is in view in every state of a session whose window
is fixed.

It is not if a look-back window moves. The reload drops the call graph and leaves the scrolling as it
is, and unlike the cursor, which a tick puts back on a row, it stays there when a shorter text comes
(`call_graph_out_of_view`). `call_graph_in_view` says that nothing else does this, and what brings the
text back.
-/

namespace ProfileBrowser

/-! ### Lines of a text -/

namespace Text

theorem linesFrom_eq_nil {line rest : List Char} :
    linesFrom line rest = [] ↔ line = [] ∧ rest = [] := by
  fun_induction linesFrom line rest with
  | case1 line hline => simpa using hline
  | case2 line hline => simpa using hline
  | case3 => simp
  | case4 line c rest hfeed ih => simp [ih]

/-- Only the empty text has no line. -/
theorem lines_eq_nil {s : String} : lines s = [] ↔ s = "" := by
  rw [lines, List.map_eq_nil_iff, linesFrom_eq_nil, String.toList_eq_nil_iff]
  exact and_iff_right rfl

end Text

namespace Exchange

/-- A call graph that is shown stays until the context is replaced. -/
theorem Course.topology_handle {x : Exchange} {past : List Happening} (h : Course x past)
    (hshown : x.controller.view.topology ≠ "") {e : Event} (he : ¬ e.replaces) :
    (x.handle e).controller.view.topology = x.controller.view.topology :=
  (h.steps_shown hshown (h.handle_steps e) fun hmem => he (replaces_of_replaced_mem hmem)).1

end Exchange

open Exchange (Course Happening)

namespace Viewer

variable {v w : Viewer} {past : List Happening}

/-! ### In view -/

/-- The call graph is not scrolled past its last line; without a text it is at the start. -/
def InView (v : Viewer) : Prop := v.topoScroll ≤ (Text.lines v.view.topology).length - 1

theorem InView.lt_length (hv : v.InView) (hshown : v.view.topology ≠ "") :
    v.topoScroll < (Text.lines v.view.topology).length := by
  have hlines : 0 < (Text.lines v.view.topology).length :=
    List.length_pos_iff.mpr fun hnone => hshown (Text.lines_eq_nil.mp hnone)
  rw [InView] at hv
  omega

theorem InView.topoScroll_eq_zero (hv : v.InView) (hnone : v.view.topology = "") :
    v.topoScroll = 0 := by
  rw [InView, hnone] at hv
  exact Nat.le_zero.mp hv

theorem inView_of_topoScroll (h : v.topoScroll = 0) : v.InView := by
  rw [InView, h]
  exact Nat.zero_le _

/-- What scrolls to a line that can be scrolled over. -/
theorem inView_of_le (hline : w.topoScroll ≤ v.topoLineCount - 1) (hview : w.view = v.view) :
    w.InView := by
  rw [InView, hview]
  exact Nat.le_trans hline (Nat.sub_le_sub_right (Nat.min_le_left _ _) 1)

/-- **A line in view stays there while the context does**: either no text has been shown, so that the
scrolling is at the start, or the text is the one that has been shown. -/
theorem InView.of_handle (hv : v.InView) (h : Course v.exchange past) {e : Exchange.Event}
    (he : ¬ e.replaces) (hexchange : w.exchange = v.exchange.handle e)
    (hscroll : w.topoScroll ≤ v.topoScroll) : w.InView := by
  by_cases hshown : v.view.topology = ""
  · have hzero := hv.topoScroll_eq_zero hshown
    exact inView_of_topoScroll (Nat.le_zero.mp (hzero ▸ hscroll))
  · have htext : w.view.topology = v.view.topology := by
      rw [view, controller, hexchange]
      exact h.topology_handle hshown he
    rw [InView, htext]
    exact Nat.le_trans hscroll hv

/-! ### In view through moves -/

/-- A move scrolls the call graph down only over its lines, and does nothing else then. -/
theorem Move.topoScroll_le (h : Move v w) :
    w.topoScroll ≤ v.topoScroll ∨ w.view = v.view ∧ w.topoScroll ≤ v.topoLineCount - 1 := by
  cases h with
  | line _ hline => exact hline.symm.imp id fun hline => ⟨rfl, hline⟩
  | setMode => exact .inl (Nat.zero_le _)
  | tick => exact .inl (by rw [tick_eq]; exact Nat.le_refl _)
  | aside | row | sort | filter | turn | wait | answer => exact .inl (Nat.le_refl _)

/-- The controller has come to its state in a run, and the call graph is in view. -/
structure Steady (v : Viewer) : Prop where
  course : ∃ past, Course v.exchange past
  inView : v.InView

theorem Steady.move (hv : v.Steady) (hmove : Move v w) : w.Steady := by
  obtain ⟨past, h⟩ := hv.course
  have hinView : v.InView := hv.inView
  rcases hmove.exchange with hsame | ⟨e, he, hexchange⟩
  · have hview : w.view = v.view := congrArg (·.controller.view) hsame
    refine ⟨hsame ▸ hv.course, ?_⟩
    rcases hmove.topoScroll_le with hscroll | ⟨-, hline⟩
    · rw [InView, hview]
      exact Nat.le_trans hscroll hinView
    · exact inView_of_le hline hview
  · refine ⟨⟨_, hexchange ▸ h.steps (h.handle_steps e)⟩, ?_⟩
    rcases hmove.topoScroll_le with hscroll | ⟨hview, hline⟩
    · exact hinView.of_handle h he hexchange hscroll
    · exact inView_of_le hline hview

/-! ### In view through a session -/

/-- Whether an event moves the window while the call graph is scrolled. -/
def strays (v : Viewer) (e : Event) : Bool :=
  e.reloads v && v.lookback.isSome && v.topoScroll != 0

/-- Whether no event of a sequence does. -/
def calm (v : Viewer) : List Event → Bool
  | [] => true
  | e :: events => !v.strays e && (v.handle e).calm events

/-- With a fixed window every session is calm. -/
theorem calm_of_fixed (h : v.lookback = none) (events : List Event) : v.calm events := by
  induction events generalizing v with
  | nil => rfl
  | cons e events ih =>
    rw [calm, ih ((v.handle_lookback e).trans h), strays, h]
    simp

theorem Steady.reload (hv : v.Steady) (hstill : v.lookback.isSome → v.topoScroll = 0) (wall : Int) :
    (v.reload wall).Steady := by
  obtain ⟨past, h⟩ := hv.course
  obtain ⟨sent, heq, hsent⟩ := v.reload_eq_send wall
  rw [heq]
  refine ⟨⟨_, h.steps (h.handle_steps sent)⟩, ?_⟩
  rcases hsent with rfl | ⟨hwindow, range, rfl⟩
  · exact hv.inView.of_handle (e := .refresh) h nofun rfl (Nat.le_refl _)
  · exact inView_of_topoScroll (hstill hwindow)

theorem Steady.handle (hv : v.Steady) {e : Event} (he : ¬ v.strays e) : (v.handle e).Steady := by
  refine handle_keeps Steady.move (fun wall hreloads => hv.reload (fun hwindow => ?_) wall) hv
  simpa [strays, hreloads, hwindow] using he

theorem Steady.run (hv : v.Steady) {events : List Event} (hcalm : v.calm events) :
    (v.run events).Steady := by
  induction events generalizing v with
  | nil => exact hv
  | cons e events ih =>
    rw [calm, Bool.and_eq_true, Bool.not_eq_true'] at hcalm
    exact ih (hv.handle (Bool.eq_false_iff.mp hcalm.1)) hcalm.2

/-! ### Back into view -/

/-- **A return**: an operation after which the call graph is in view wherever it has been scrolled to. -/
inductive Returns (v : Viewer) : Viewer → Prop where
  /-- A step down. -/
  | down (htopo : v.mode = .topo) (n : Nat) : Returns v (v.selectNext n)
  /-- A jump to the first line. -/
  | first (htopo : v.mode = .topo) : Returns v v.selectFirst
  /-- A jump to the last line. -/
  | last (htopo : v.mode = .topo) : Returns v v.selectLast
  /-- A switch of the mode. -/
  | mode (mode : Mode) : Returns v (v.setMode mode)

theorem Returns.inView (h : Returns v w) : w.InView := by
  cases h with
  | down htopo n =>
    rw [selectNext, if_pos htopo]
    exact inView_of_le (v := v) (Nat.min_le_right _ _) rfl
  | first htopo =>
    rw [selectFirst, if_pos htopo]
    exact inView_of_topoScroll rfl
  | last htopo =>
    rw [selectLast, if_pos htopo]
    exact inView_of_le (v := v) (Nat.le_refl _) rfl
  | mode => exact inView_of_topoScroll rfl

/-! ### The call graph in a session -/

/-- **The call graph is not scrolled past its text unless a look-back window moves while it is scrolled.**
In a session around a controller of any run, whatever the backend answers and in whatever order: a line
of a call graph that is shown is in view if the window is fixed, or if it has not been moved with the
call graph scrolled; and it is after every step down, every jump and every switch of the mode. -/
theorem call_graph_in_view (context : Context) (quiet : Nat) (mode : Mode)
    (before : List Exchange.Event) (source : String) (theme : Theme) (lookback : Option Duration)
    (exportDirectory : String) (events : List Event) :
    let start :=
      opened ((Exchange.new context quiet mode).run before) source theme lookback exportDirectory
    let v := start.run events
    ((lookback = none ∨ start.calm events) → v.view.topology ≠ "" →
        v.topoScroll < (Text.lines v.view.topology).length) ∧
      ∀ w, Returns v w → w.view.topology ≠ "" →
        w.topoScroll < (Text.lines w.view.topology).length := by
  intro start v
  refine ⟨fun hstill => ?_, fun w hreturn => hreturn.inView.lt_length⟩
  have hcalm : start.calm events :=
    hstill.elim (fun hfixed => calm_of_fixed hfixed events) id
  have hstart : start.Steady :=
    ⟨⟨_, Exchange.course_run context quiet mode before⟩, inView_of_topoScroll rfl⟩
  exact (hstart.run hcalm).inView.lt_length

/-- A window that moves up while the first line is on the screen: the call graph that comes is shorter,
and it is scrolled over then. -/
theorem call_graph_in_view_after_home :
    let key (key : Key) : Event := .press { key } 0 "" none
    let graph (number : Nat) (text : String) : Event :=
      .answer number (.data { callGraph := some (.str text) })
    let start := opened ((Exchange.new default 16 .combine).run [.setMode .topo]) "scripted" .dark
      (some (.ofSeconds 900)) "."
    let events := [graph 0 "a\nb\nc", .tick, key .end_, key .home, key (.char 'r'), .advance 16, .tick,
      graph 2 "a\nb", .tick, key .end_]
    let v := start.run events
    (start.calm events ∧ v.view.topology = "a\nb" ∧ v.topoScroll = 1 ∧ Returns v v.selectFirst) ∧
      ((some (Duration.ofSeconds 900) = none ∨ start.calm events) → v.view.topology ≠ "" →
        v.topoScroll < (Text.lines v.view.topology).length) ∧
      ∀ w, Returns v w → w.view.topology ≠ "" →
        w.topoScroll < (Text.lines w.view.topology).length := by
  intro key graph start events v
  have hfirst : Returns v v.selectFirst := .first (by decide)
  exact ⟨⟨by decide, by decide, by decide, hfirst⟩, call_graph_in_view _ _ _ _ _ _ _ _ _⟩

/-- A window that moves up while the last of three lines is on the screen: of the call graph that comes
the only line is not. -/
theorem call_graph_out_of_view :
    let key (key : Key) : Event := .press { key } 0 "" none
    let graph (number : Nat) (text : String) : Event :=
      .answer number (.data { callGraph := some (.str text) })
    let v := (opened (.new default 16 .topo) "scripted" .dark (some (.ofSeconds 900)) ".").run
      [.advance 16, .tick, graph 1 "a\nb\nc", .tick, key .end_, key (.char 'r'), .advance 16, .tick,
        graph 3 "a", .tick]
    v.view.topology ≠ "" ∧ v.topoScroll = 2 ∧ Text.lines v.view.topology = ["a"] ∧
      ¬ v.topoScroll < (Text.lines v.view.topology).length := by
  decide

end Viewer

end ProfileBrowser
