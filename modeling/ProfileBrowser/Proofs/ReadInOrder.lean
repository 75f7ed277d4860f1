import ProfileBrowser.Json.Reader
import ProfileBrowser.Proofs.Members
/-!
# What is read is in order

Every value that the machine reads has the members of its objects in order, at every depth
(`read_ordered`). The invariant is one of states: so are the items and members that are on the stack, and
the value of a word or of a complete document. An object grows by `insert` alone, and a byte delivers a
value, opens or closes an array or object, or changes nothing of this (`step_keeps`).
-/

namespace ProfileBrowser.Json

/-! ### Ordered states -/

/-- What has been read of an open array or object is in order. -/
def Frame.Ordered : Frame → Prop
  | .list done => ∀ v ∈ done, v.Ordered
  | .object done | .member done _ => Json.Ordered (.obj done)

/-- So is the value that a mode holds ready. -/
def Mode.Ordered : Mode → Prop
  | .word _ v | .done v => v.Ordered
  | _ => True

/-- Everything that a state has read is in order. -/
structure State.Ordered (s : State) : Prop where
  mode : s.mode.Ordered
  stack : ∀ frame ∈ s.stack, frame.Ordered

/-- A step leads to an ordered state, unless it fails. -/
def KeepsOrder (r : Except SyntaxFault State) : Prop := ∀ t, r = .ok t → t.Ordered

theorem keepsOrder_ok {s : State} (h : s.Ordered) : KeepsOrder (.ok s) := by
  rintro t ⟨⟩
  exact h

theorem keepsOrder_error (e : SyntaxFault) : KeepsOrder (.error e) := nofun

/-! ### Steps -/

variable {s t : State} {v : Json}

theorem Ordered.insert {ms : Members} (h : Ordered (.obj ms)) (key : String) (hv : v.Ordered) :
    Ordered (.obj (Members.insert key v ms)) := by
  cases h with
  | obj hkeys hvalues =>
    refine .obj (hkeys.insert key v) fun m hm => ?_
    rcases Members.mem_insert hm with rfl | hm
    · exact hv
    · exact hvalues m hm

/-- A delivered value takes its place in order. -/
theorem ordered_deliver (hstack : ∀ frame ∈ s.stack, frame.Ordered) (hv : v.Ordered) :
    (s.deliver v).Ordered := by
  obtain ⟨mode, stack, depth, place⟩ := s
  cases stack with
  | nil => exact ⟨hv, nofun⟩
  | cons frame outer =>
    obtain ⟨hframe, houter⟩ := List.forall_mem_cons.mp hstack
    cases frame with
    | list done =>
      exact ⟨trivial, List.forall_mem_cons.mpr ⟨List.forall_mem_cons.mpr ⟨hv, hframe⟩, houter⟩⟩
    | object done => exact ⟨trivial, hstack⟩
    | member done key =>
      exact ⟨trivial, List.forall_mem_cons.mpr ⟨hframe.insert key hv, houter⟩⟩

theorem beginValue_keeps (limit : Option Nat) (hs : s.Ordered) (b : UInt8) :
    KeepsOrder (s.beginValue limit b) := by
  have henter : ∀ (mode : Mode) (frame : Frame) (place : Position), mode.Ordered → frame.Ordered →
      KeepsOrder (s.enter limit mode frame place) := by
    intro mode frame place hmode hframe
    rw [State.enter]
    split_ifs
    · exact keepsOrder_error _
    · exact keepsOrder_ok ⟨hmode, List.forall_mem_cons.mpr ⟨hframe, hs.stack⟩⟩
  rw [State.beginValue]
  split_ifs
  · exact keepsOrder_ok ⟨.null, hs.stack⟩
  · exact keepsOrder_ok ⟨.bool _, hs.stack⟩
  · exact keepsOrder_ok ⟨.bool _, hs.stack⟩
  · exact keepsOrder_ok ⟨trivial, hs.stack⟩
  · exact keepsOrder_ok ⟨trivial, hs.stack⟩
  · exact keepsOrder_ok ⟨trivial, hs.stack⟩
  · exact keepsOrder_ok ⟨trivial, hs.stack⟩
  · exact henter _ _ _ trivial nofun
  · exact henter _ _ _ trivial (.obj Members.ascending_nil nofun)
  · exact keepsOrder_error _

theorem afterValue_keeps (hstack : ∀ frame ∈ s.stack, frame.Ordered) (b : UInt8) :
    KeepsOrder (s.afterValue b) := by
  obtain ⟨mode, stack, depth, place⟩ := s
  cases stack with
  | nil => exact keepsOrder_error _
  | cons frame outer =>
    obtain ⟨hframe, houter⟩ := List.forall_mem_cons.mp hstack
    cases frame with
    | list done =>
      rw [State.afterValue]
      dsimp only
      split_ifs
      · exact keepsOrder_ok ⟨trivial, hstack⟩
      · exact keepsOrder_ok (ordered_deliver houter (.arr fun v hv => hframe v (List.mem_reverse.mp hv)))
      · exact keepsOrder_error _
    | object done | member done key =>
      rw [State.afterValue]
      dsimp only
      split_ifs
      · exact keepsOrder_ok ⟨trivial, hstack⟩
      · exact keepsOrder_ok (ordered_deliver houter hframe)
      · exact keepsOrder_error _

theorem goOn_keeps (hs : s.Ordered) (b : UInt8) : KeepsOrder (s.goOn b) := by
  rw [State.goOn]
  split_ifs
  · exact keepsOrder_ok ⟨hs.mode, hs.stack⟩
  · exact afterValue_keeps hs.stack b

theorem stringStep_keeps (hs : s.Ordered) (isKey : Bool) (phase : StringPhase) (p : Piece) (b : UInt8) :
    KeepsOrder (s.stringStep isKey phase p b) := by
  have hstay : ∀ (phase : StringPhase) (p : Piece) (place : Position),
      KeepsOrder (.ok { s with mode := .string isKey phase p, place }) :=
    fun _ _ _ => keepsOrder_ok ⟨trivial, hs.stack⟩
  unfold State.stringStep
  dsimp only
  cases phase with
  | plain =>
    dsimp only
    split_ifs
    · cases p.close with
      | error column => exact keepsOrder_error _
      | ok done => exact keepsOrder_ok ⟨trivial, hs.stack⟩
    · cases p.close with
      | error column => exact keepsOrder_error _
      | ok done => exact keepsOrder_ok (ordered_deliver hs.stack (.str _))
    · cases p.close with
      | error column => exact keepsOrder_error _
      | ok done => exact hstay _ _ _
    · exact keepsOrder_error _
    · exact hstay _ _ _
  | escape =>
    dsimp only
    split_ifs
    · exact hstay _ _ _
    · cases escapeChar b with
      | none => exact keepsOrder_error _
      | some c => exact hstay _ _ _
  | code digits =>
    dsimp only
    split_ifs
    · exact hstay _ _ _
    · cases codeValue (b :: digits) with
      | none => exact keepsOrder_error _
      | some n =>
        dsimp only
        split_ifs
        · exact keepsOrder_error _
        · exact hstay _ _ _
        · exact hstay _ _ _
  | pairBackslash high | pairLetter high =>
    dsimp only
    split_ifs
    · exact hstay _ _ _
    · exact keepsOrder_error _
  | pairCode high digits =>
    dsimp only
    split_ifs
    · exact hstay _ _ _
    · cases codeValue (b :: digits) with
      | none => exact keepsOrder_error _
      | some n =>
        dsimp only
        split_ifs
        · exact hstay _ _ _
        · exact keepsOrder_error _

/-- A number. -/
inductive IsNumber : Json → Prop where
  | int (i : Int) : IsNumber (.int i)
  | float (x : Binary64) : IsNumber (.float x)

theorem IsNumber.ordered (h : v.IsNumber) : v.Ordered := by
  cases h with
  | int i => exact .int i
  | float x => exact .float x

/-- What a number is read as is one. -/
theorem isNumber_value {negative : Bool} {n : Numeral} (h : n.value negative = .ok v) : v.IsNumber := by
  have hwhole : ∀ k, (wholeOf negative k).IsNumber := by
    intro k
    rw [wholeOf]
    split_ifs
    · exact .float _
    · exact .int _
    · exact .int _
  have hfloat : ∀ (k : Nat) (scale : Int) (w : Json),
      (floatOf negative k scale).elim (Except.error Fault.numberOutOfRange) .ok = .ok w → w.IsNumber := by
    intro k scale w hw
    rw [floatOf] at hw
    cases hscale : scaleBy 5 (Binary64.ofNat k) scale <;> rw [hscale] at hw <;> cases hw
    exact .float _
  cases n with
  | zero | whole =>
    cases h
    exact hwhole _
  | long | fraction | longFraction | exponent => exact hfloat _ _ _ h
  | vanishing =>
    cases h
    exact .float _
  | sign | point | mark | markSign => cases h

/-- **Every byte keeps the order.** -/
theorem step_keeps (limit : Option Nat) (hs : s.Ordered) (b : UInt8) :
    KeepsOrder (s.step limit b) := by
  obtain ⟨mode, stack, depth, place⟩ := s
  have hstack : ∀ frame ∈ stack, frame.Ordered := hs.stack
  have hskip : KeepsOrder (.ok ⟨mode, stack, depth, place.after b⟩) := keepsOrder_ok ⟨hs.mode, hstack⟩
  have hbegin := beginValue_keeps limit hs b
  have hclose : ∀ v : Json, v.Ordered →
      KeepsOrder (.ok (State.close ⟨mode, stack, depth, place.after b⟩ stack.tail v)) := fun v hv =>
    keepsOrder_ok (ordered_deliver (fun frame hframe => hstack frame (List.mem_of_mem_tail hframe)) hv)
  unfold State.step
  dsimp only
  cases mode with
  | value =>
    dsimp only
    split_ifs
    · exact hskip
    · exact hbegin
  | firstItem =>
    dsimp only
    split_ifs
    · exact hskip
    · exact hclose _ (.arr nofun)
    · exact hbegin
  | nextItem =>
    dsimp only
    split_ifs
    · exact hskip
    · exact keepsOrder_error _
    · exact hbegin
  | firstKey =>
    dsimp only
    split_ifs
    · exact hskip
    · exact hclose _ (.obj Members.ascending_nil nofun)
    · exact keepsOrder_ok ⟨trivial, hstack⟩
    · exact keepsOrder_error _
  | nextKey =>
    dsimp only
    split_ifs
    · exact hskip
    · exact keepsOrder_error _
    · exact keepsOrder_ok ⟨trivial, hstack⟩
    · exact keepsOrder_error _
  | colon key =>
    dsimp only
    split_ifs
    · exact hskip
    · cases stack with
      | nil => exact keepsOrder_ok ⟨trivial, hstack⟩
      | cons frame outer =>
        obtain ⟨hframe, houter⟩ := List.forall_mem_cons.mp hstack
        cases frame with
        | object done => exact keepsOrder_ok ⟨trivial, List.forall_mem_cons.mpr ⟨hframe, houter⟩⟩
        | list done | member done k => exact keepsOrder_ok ⟨trivial, hstack⟩
    · exact keepsOrder_error _
  | afterValue => exact goOn_keeps hs b
  | word rest v =>
    cases rest with
    | nil => exact goOn_keeps (ordered_deliver hstack hs.mode) b
    | cons x rest =>
      dsimp only
      split_ifs
      · exact keepsOrder_error _
      · exact keepsOrder_ok (ordered_deliver hstack hs.mode)
      · exact keepsOrder_ok ⟨hs.mode, hstack⟩
  | number negative n =>
    dsimp only
    cases n.step b with
    | goesOn m => exact keepsOrder_ok ⟨trivial, hstack⟩
    | fails f => exact keepsOrder_error _
    | ends =>
      cases hvalue : n.value negative with
      | error f => exact keepsOrder_error _
      | ok v => exact goOn_keeps (ordered_deliver hstack (isNumber_value hvalue).ordered) b
  | string isKey phase p => exact stringStep_keeps hs isKey phase p b
  | done v =>
    dsimp only
    split_ifs
    · exact hskip
    · exact keepsOrder_error _

/-! ### Documents -/

theorem feed_keeps (limit : Option Nat) {bytes : List UInt8} (hs : s.Ordered)
    (h : s.feed limit bytes = .ok t) : t.Ordered := by
  induction bytes generalizing s with
  | nil =>
    cases h
    exact hs
  | cons b bytes ih =>
    rw [State.feed] at h
    split at h
    next u hstep => exact ih (step_keeps limit hs b u hstep) h
    next => cases h

theorem ordered_finish (hs : s.Ordered) (h : s.finish = .ok v) : v.Ordered := by
  obtain ⟨mode, stack, depth, place⟩ := s
  cases mode with
  | done w =>
    cases h
    exact hs.mode
  | number negative n =>
    rw [State.finish] at h
    dsimp only at h
    split at h
    next => cases h
    next w hvalue =>
      have hdelivered := ordered_deliver hs.stack (isNumber_value hvalue).ordered
      split at h
      next u hmode =>
        cases h
        have hlast := hdelivered.mode
        rwa [hmode] at hlast
      next => cases h
  | _ => cases h

/-- **What is read is in order**, at every depth. -/
theorem read_ordered {limit : Option Nat} {bytes : List UInt8} (h : read limit bytes = .ok v) :
    v.Ordered := by
  have hstart : (State.initial 0 .start).Ordered := ⟨trivial, List.forall_mem_nil _⟩
  rw [read] at h
  split at h
  next t hfeed => exact ordered_finish (feed_keeps limit hstart hfeed) h
  next => cases h

end ProfileBrowser.Json
