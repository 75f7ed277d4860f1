import ProfileBrowser.CommandLine.Run
import ProfileBrowser.Proofs.Members
import ProfileBrowser.Proofs.Sessions
import ProfileBrowser.Proofs.Settled
/-!
# Where the members of a request come from

A parameter can be set in three places: in the settings, by an option of its own, and by a `key=value` on
the command line. They are put in one after the other, and a request puts its own members over them, so
of a key the place that comes last counts (`Arguments.parameters_of_read`, `Request.body_members`).

A run starts with the merged parameters (`CommandLine.start_of_read`), and they stay the same: nothing that it
does with its controller replaces them, and every request is built from them (`Controller.Carries`). So the
layers can be read off every request of an export and of a session (`CommandLine.body_of_layers`). A run with
a `key=value` that cannot be read ends before there is a controller.
-/

namespace ProfileBrowser

open Json (Members)

/-! ### Members put in one after the other -/

namespace Json.Members

/-- Of members that are put in one after the other with one key, the last counts. -/
theorem get?_insertAll (key : String) (ms : List (String × Json)) (acc : Members) :
    get? key (ms.foldl (fun acc m => insert m.1 m.2 acc) acc) =
      (ms.reverse.lookup key).or (get? key acc) := by
  induction ms generalizing acc with
  | nil => rfl
  | cons m rest ih =>
    have hm : get? key (insert m.1 m.2 acc) = ([m].lookup key).or (get? key acc) := by
      rw [get?_insert, List.lookup_cons]
      split_ifs with hkey
      · rw [hkey, beq_self_eq_true]
        rfl
      · rw [beq_false_of_ne hkey]
        rfl
    rw [List.foldl_cons, ih, hm, List.reverse_cons, List.lookup_append, Option.or_assoc]

theorem Ascending.insertAll {acc : Members} (h : acc.Ascending) (ms : List (String × Json)) :
    (ms.foldl (fun acc m => Members.insert m.1 m.2 acc) acc).Ascending := by
  induction ms generalizing acc with
  | nil => exact h
  | cons m rest ih => exact ih (h.insert _ _)

end Json.Members

theorem Params.get?_insert (p : Params) (key k : String) (v : Json) :
    (p.insert k v).get? key = if key = k then some v else p.get? key :=
  Members.get?_insert _ _ _ _

/-! ### The body of a request -/

namespace Request

/-- What a request says under a key by itself. -/
def own? (r : Request) (key : String) : Option Json :=
  if key = "start" then some (.word r.start)
  else if key = "end" then some (.word r.stop)
  else if key = "diagram_types" then some (.arr (r.kinds.map fun k => .str k.name))
  else if key = "sort" then r.sort.map .str
  else none

/-- **The body of a request** has its own members over the parameters, and its keys ascend if those of the
parameters do. -/
theorem body_members (r : Request) :
    ∃ ms : Members, r.body = .obj ms ∧
      (∀ key, Members.get? key ms = (r.own? key).or (r.params.get? key)) ∧
      (r.params.entries.Ascending → ms.Ascending) := by
  obtain ⟨⟨entries⟩, start, stop, kinds, sort⟩ := r
  cases sort with
  | none =>
    refine ⟨_, rfl, fun key => ?_, fun h => ((h.insert _ _).insert _ _).insert _ _⟩
    simp only [Members.get?_insert, own?, Params.get?]
    split_ifs with hkinds hstop hstart <;> simp_all
  | some sort =>
    refine ⟨_, rfl, fun key => ?_, fun h => (((h.insert _ _).insert _ _).insert _ _).insert _ _⟩
    simp only [Members.get?_insert, own?, Params.get?]
    split_ifs with hsort hkinds hstop hstart <;> simp_all

end Request

/-! ### Controllers over parameters -/

namespace Controller

/-- **A controller carries parameters**: they are those of its context, and all that it has asked for was
asked for with them. -/
structure Carries (params : Params) (c : Controller) : Prop where
  context : c.context.params = params
  ledger : ∀ fetch ∈ c.ledger, fetch.request.params = params

namespace Carries

variable {params : Params} {c d : Controller}

theorem of_same (h : c.Carries params) (hcontext : d.context.params = c.context.params)
    (hledger : d.ledger = c.ledger) : d.Carries params :=
  ⟨hcontext.trans h.context, hledger ▸ h.ledger⟩

theorem issue (h : c.Carries params) {request : Request} (hrequest : request.params = params)
    (purpose : Purpose) : (c.issue request purpose).Carries params :=
  ⟨h.context, List.forall_mem_cons.mpr ⟨hrequest, h.ledger⟩⟩

theorem requestTopology (h : c.Carries params) : c.requestTopology.Carries params := by
  by_cases hmissing : c.TopologyMissing
  · rw [requestTopology_of_missing hmissing]
    have hmarked : ({ c with view := { c.view with isLoading := true },
                             topologyInFlight := some c.generation } : Controller).Carries params :=
      h.of_same rfl rfl
    exact hmarked.issue (show (c.request [.callgraph]).params = params from h.context) _
  · rwa [requestTopology_of_present hmissing]

theorem fetchDiagrams (h : c.Carries params) : c.fetchDiagrams.Carries params := by
  have hmarked : ({ c with view := { c.view with highlight := none, isLoading := true } } :
      Controller).Carries params := h.of_same rfl rfl
  have hcharts : c.fetchCharts.Carries params :=
    hmarked.issue (show (c.request [.table, .flamegraph]).params = params from h.context) _
  by_cases hmode : c.view.mode = .topo
  · rw [fetchDiagrams_topo hmode]
    exact hcharts.requestTopology
  · rwa [fetchDiagrams_other hmode]

theorem setMode (h : c.Carries params) (mode : Mode) : (c.setMode mode).Carries params := by
  rw [Controller.setMode]
  split_ifs
  · exact h
  · exact requestTopology (h.of_same rfl rfl)
  · exact h.of_same rfl rfl

theorem apply (h : c.Carries params) (completion : Completion) : (c.apply completion).Carries params :=
  h.of_same (by rw [apply_context]) (apply_ledger c completion)

theorem fireDue (h : c.Carries params) (now : Nat) : (c.fireDue now).1.Carries params := by
  have hfold : ∀ (due : List Trigger) (c : Controller), c.Carries params →
      (due.foldl (fun c _ => c.fetchDiagrams) c).Carries params := by
    intro due
    induction due with
    | nil => exact fun _ h => h
    | cons trigger due ih => exact fun _ h => ih _ h.fetchDiagrams
  exact hfold _ _ (h.of_same rfl rfl)

theorem poll (h : c.Carries params) (now : Nat) (arrived : List Completion) :
    (c.poll now arrived).1.Carries params := by
  have hfold : ∀ (arrived : List Completion) (c : Controller), c.Carries params →
      (arrived.foldl Controller.apply c).Carries params := by
    intro arrived
    induction arrived with
    | nil => exact fun _ h => h
    | cons completion arrived ih => exact fun _ h => ih _ (h.apply completion)
  exact hfold _ _ (h.fireDue now)

end Carries

end Controller

namespace Exchange

variable {params : Params} {x : Exchange}

/-- **Only the event that replaces the parameters replaces them.** -/
theorem carries_handle (h : x.controller.Carries params) {e : Event} (he : ∀ other, e ≠ .setParams other) :
    (x.handle e).controller.Carries params := by
  cases e with
  | setParams other => exact absurd rfl (he other)
  | setMode mode => exact h.setMode mode
  | sortBy directive => exact h.issue h.context _
  | poll => exact h.poll _ _
  | answer number outcome =>
    rw [handle, answer_controller]
    exact h
  | setRange | refresh | highlight | setFilter | toggleDirection | advance => exact h.of_same rfl rfl

theorem carries_run (h : x.controller.Carries params) {events : List Event}
    (hevents : ∀ other, .setParams other ∉ events) : (x.run events).controller.Carries params := by
  induction events generalizing x with
  | nil => exact h
  | cons e events ih =>
    have hfirst : ∀ other, e ≠ .setParams other := fun other heq => hevents other (heq ▸ List.mem_cons_self)
    exact ih (carries_handle h hfirst) fun other hmem => hevents other (List.mem_cons_of_mem _ hmem)

theorem carries_settle (h : x.controller.Carries params) (reply : Request → Outcome) :
    (x.settle reply).controller.Carries params := by
  have hexhaust : ∀ {x : Exchange}, x.controller.Carries params →
      (x.exhaust reply).controller.Carries params := by
    intro x h
    have hanswered : (x.poll.1.answerAll reply).controller.Carries params := by
      rw [answerAll_controller]
      exact h.poll _ _
    exact hanswered.poll _ _
  rw [settle]
  generalize x.controller.debouncer.pending.length = fuel
  induction fuel generalizing x with
  | zero => exact hexhaust h
  | succ fuel ih =>
    rw [settleWithin]
    split
    · exact hexhaust h
    · exact ih (hexhaust h)

end Exchange

namespace Viewer

theorem carries_run {params : Params} {v : Viewer} (h : v.controller.Carries params)
    (events : List Event) : (v.run events).controller.Carries params := by
  induction events generalizing v with
  | nil => exact h
  | cons e events ih =>
    refine ih (handle_keeps (P := fun w => w.controller.Carries params) ?_ ?_ h)
    · intro v w hv hmove
      rcases hmove.exchange with heq | ⟨sent, hsent, heq⟩
      · rwa [controller, heq]
      · rw [controller, heq]
        exact Exchange.carries_handle hv fun other hother => hsent (hother ▸ rfl)
    · intro wall _
      obtain ⟨sent, heq, hsent⟩ := v.reload_eq_send wall
      rw [heq]
      rcases hsent with rfl | ⟨-, range, rfl⟩
      · exact Exchange.carries_handle h nofun
      · exact Exchange.carries_handle h nofun

end Viewer

namespace CommandLine

variable {m : Type → Type}

/-- **The controllers of a run** that has started. -/
inductive Serves (s : Start m) : Controller → Prop where
  /-- In an export, after everything has come to rest. -/
  | atRest (answers : Request → Except QueryError Response) : Serves s (s.atRest answers)
  /-- At any time of a session. -/
  | session (theme : Theme) (events : List Viewer.Event) :
    Serves s ((Viewer.opened s.exchange s.backend.description theme (some s.window)
      s.settings.exportDirectory).run events).controller
  /-- After any other events that do not replace the parameters. -/
  | run {events : List Exchange.Event} (hevents : ∀ other, .setParams other ∉ events) :
    Serves s (s.exchange.run events).controller

theorem Serves.carries {s : Start m} {c : Controller} (h : Serves s c) : c.Carries s.context.params := by
  have hnew : s.exchange.controller.Carries s.context.params := ⟨rfl, nofun⟩
  cases h with
  | atRest answers => exact Exchange.carries_settle hnew _
  | session theme events => exact Viewer.carries_run hnew events
  | run hevents => exact Exchange.carries_run hnew hevents

/-- **An export asks its backend** for table and flame graph in any case. -/
theorem Start.exists_fetch (s : Start m) (answers : Request → Except QueryError Response) :
    ∃ fetch ∈ (s.atRest answers).ledger, fetch.isCharts := by
  have hcourse : Exchange.Course s.exchange [.triggered 0] :=
    Exchange.Course.start s.context s.settings.quiet s.settings.mode
  obtain ⟨hsettled, -⟩ := hcourse.settle fun request => .ofResult (answers request)
  obtain ⟨graph, hledger, -⟩ := hsettled.fetched rfl
  refine ⟨s.context.chartsFetch, ?_, rfl⟩
  rw [Start.atRest, hledger]
  exact List.mem_append_right _ List.mem_cons_self

/-! ### Layers -/

namespace Arguments

/-- What the options for the application and the service say under a key. -/
def named? (a : Arguments) (key : String) : Option Json :=
  if key = "app_name" then a.app.map .str
  else if key = "service_name" then a.service.map .str
  else none

/-- Puts in a parameter that has an option of its own, if it is given. -/
def put (key : String) (value : Option String) (p : Params) : Params :=
  match value with
  | none => p
  | some value => p.insert key (.str value)

/-- Puts in a parameter that is written `key=value`. -/
def take (p : Params) (raw : String) : Except Failure Params :=
  match readParameter raw with
  | .ok (key, value) => .ok (p.insert key value)
  | .error e => .error (.parameter e)

theorem parameters_eq (a : Arguments) (s : Settings) :
    a.parameters s =
      a.params.foldlM take (put "service_name" a.service (put "app_name" a.app s.params)) := rfl

theorem get?_put (p : Params) (key k : String) (value : Option String) :
    (put k value p).get? key = (if key = k then value.map .str else none).or (p.get? key) := by
  cases value with
  | none => split_ifs <;> rfl
  | some value =>
    rw [put, Params.get?_insert]
    split_ifs <;> rfl

theorem ascending_put {p : Params} (h : p.entries.Ascending) (k : String) (value : Option String) :
    (put k value p).entries.Ascending := by
  cases value with
  | none => exact h
  | some value => exact h.insert _ _

/-- What can be read is put in, one after the other. -/
theorem foldlM_take {raws : List String} {given : List (String × Json)}
    (h : List.Forall₂ (fun raw p => readParameter raw = .ok p) raws given) (p : Params) :
    raws.foldlM take p = .ok ⟨given.foldl (fun acc m => Members.insert m.1 m.2 acc) p.entries⟩ := by
  induction h generalizing p with
  | nil => rfl
  | @cons raw m raws given hraw _ ih =>
    have htake : take p raw = .ok (p.insert m.1 m.2) := by rw [take, hraw]
    rw [List.foldlM_cons, htake]
    exact ih _

/-- **The parameters of a run** whose `key=value` can all be read: the last of them with a key, or else the
option for it, or else the settings. -/
theorem parameters_of_read {a : Arguments} {given : List (String × Json)}
    (h : List.Forall₂ (fun raw p => readParameter raw = .ok p) a.params given) (s : Settings) :
    ∃ params, a.parameters s = .ok params ∧
      (∀ key, params.get? key =
        (given.reverse.lookup key).or ((a.named? key).or (s.params.get? key))) ∧
      (s.params.entries.Ascending → params.entries.Ascending) := by
  refine ⟨_, (a.parameters_eq s).trans (foldlM_take h _), fun key => ?_, fun hs => ?_⟩
  · have hnamed : (put "service_name" a.service (put "app_name" a.app s.params)).get? key =
        (a.named? key).or (s.params.get? key) := by
      rw [get?_put, get?_put, named?]
      by_cases happ : key = "app_name"
      · rw [if_pos happ, if_pos happ, if_neg (by rw [happ]; decide), Option.none_or]
      · rw [if_neg happ, if_neg happ, Option.none_or]
    rw [← hnamed]
    exact Members.get?_insertAll key given _
  · exact (ascending_put (ascending_put hs _ _) _ _).insertAll given

example :
    let a : Arguments := { app := some "shop", params := ["limit=5", " limit =all"] }
    (a.parameters {}).toOption.map (·.entries) = some [("app_name", .str "shop"), ("limit", .str "all")] := rfl

theorem exists_of_read {raws : List String} {given : List (String × Json)}
    (h : List.Forall₂ (fun raw p => readParameter raw = .ok p) raws given) :
    ∀ raw ∈ raws, ∃ p, readParameter raw = .ok p := by
  induction h with
  | nil => exact nofun
  | cons hraw _ ih => exact List.forall_mem_cons.mpr ⟨⟨_, hraw⟩, ih⟩

/-- Either all can be read, or there is a first one that cannot. -/
theorem read_cases (raws : List String) :
    (∃ given, List.Forall₂ (fun raw p => readParameter raw = .ok p) raws given) ∨
      ∃ before raw after given e, raws = before ++ raw :: after ∧
        List.Forall₂ (fun raw p => readParameter raw = .ok p) before given ∧
        readParameter raw = .error e := by
  induction raws with
  | nil => exact .inl ⟨[], .nil⟩
  | cons raw raws ih =>
    cases hraw : readParameter raw with
    | error e => exact .inr ⟨[], raw, raws, [], e, rfl, .nil, hraw⟩
    | ok m =>
      rcases ih with ⟨given, hgiven⟩ | ⟨before, bad, after, given, e, rfl, hbefore, hbad⟩
      · exact .inl ⟨m :: given, .cons hraw hgiven⟩
      · exact .inr ⟨raw :: before, bad, after, m :: given, e, rfl, .cons hraw hbefore, hbad⟩

/-- The first `key=value` that cannot be read is what is reported. -/
theorem parameters_of_unread {a : Arguments} {before after : List String} {raw : String}
    {given : List (String × Json)} {e : ParameterError} (hparams : a.params = before ++ raw :: after)
    (hbefore : List.Forall₂ (fun raw p => readParameter raw = .ok p) before given)
    (hraw : readParameter raw = .error e) (s : Settings) :
    a.parameters s = .error (.parameter e) := by
  have htake : ∀ p, take p raw = .error (.parameter e) := fun p => by rw [take, hraw]
  rw [parameters_eq, hparams, List.foldlM_append, foldlM_take hbefore]
  show (raw :: after).foldlM take _ = _
  rw [List.foldlM_cons, htake]
  rfl

end Arguments

/-! ### Settings -/

/-- A member of a tree replaces the parameters by those of a table, or leaves them. -/
theorem params_takeMember {s t : Settings} {member : String × Json} (h : s.takeMember member = some t) :
    t.params = s.params ∨ ∃ ms, t.params = .ofMembers ms := by
  obtain ⟨key, v⟩ := member
  simp only [Settings.takeMember] at h
  split at h
  case h_5 =>
    obtain ⟨p, hp, rfl⟩ := Option.map_eq_some_iff.mp h
    obtain ⟨ms, -, rfl⟩ : ∃ ms, v = .obj ms ∧ .ofMembers (Settings.sendableMembers ms) = p := by
      cases v <;> simp_all [Settings.params?]
    exact .inr ⟨_, rfl⟩
  case h_12 => exact .inl (congrArg Settings.params (Option.some.inj h).symm)
  all_goals
    obtain ⟨_, _, rfl⟩ := Option.map_eq_some_iff.mp h
    exact .inl rfl

/-- **The parameters of loaded settings** have ascending keys. -/
theorem ascending_of_loaded {tree : Json} {s : Settings} (h : Settings.ofTree? tree = some s) :
    s.params.entries.Ascending := by
  rw [Settings.ofTree?] at h
  have hfold : ∀ (ms : List (String × Json)) {s t : Settings}, ms.foldlM Settings.takeMember s = some t →
      s.params.entries.Ascending → t.params.entries.Ascending := by
    intro ms
    induction ms with
    | nil =>
      intro s t h hs
      rwa [← Option.some.inj h]
    | cons m ms ih =>
      intro s t h hs
      rw [List.foldlM_cons, Option.bind_eq_bind, Option.bind_eq_some_iff] at h
      obtain ⟨r, hr, ht⟩ := h
      refine ih ht ?_
      rcases params_takeMember hr with heq | ⟨ms, heq⟩
      · rwa [heq]
      · rw [heq]
        exact Members.ascending_nil.insertAll ms
  exact hfold _ h Members.ascending_nil

/-! ### Runs -/

/-- The members of a request come from layers: what the request says itself, the last `key=value`, the
options, and the settings. -/
def Layered (a : Arguments) (given : List (String × Json)) (s : Settings) (r : Request) : Prop :=
  ∃ ms : Members, r.body = .obj ms ∧
    (∀ key, ms.get? key =
      (r.own? key).or ((given.reverse.lookup key).or ((a.named? key).or (s.params.get? key)))) ∧
    ∀ tree loaded, Settings.ofTree? tree = some loaded → s = a.override loaded → ms.Ascending

/-- **The requests of a run that has started** over the parameters of its command line. -/
theorem Serves.layered {a : Arguments} {given : List (String × Json)} {s : Start m} {c : Controller}
    (hgiven : List.Forall₂ (fun raw p => readParameter raw = .ok p) a.params given)
    (hparams : a.parameters s.settings = .ok s.context.params) (h : Serves s c) :
    ∀ fetch ∈ c.ledger, Layered a given s.settings fetch.request := by
  intro fetch hfetch
  obtain ⟨params, hread, hlayers, hascending⟩ := Arguments.parameters_of_read hgiven s.settings
  obtain ⟨ms, hbody, hget, hms⟩ := fetch.request.body_members
  rw [h.carries.ledger fetch hfetch, ← Except.ok.inj (hread.symm.trans hparams)] at hget hms
  refine ⟨ms, hbody, fun key => ?_, fun tree loaded hloaded hs => hms (hascending ?_)⟩
  · rw [hget, hlayers]
  · have hkept : (a.override loaded).params = loaded.params := rfl
    rw [hs, hkept]
    exact ascending_of_loaded hloaded

/-- What a run does that fails on its parameters: it loads the settings, opens the log and does nothing
else. -/
def failing [Monad m] {α : Type} (files : Files m) (environment : List (String × String)) (a : Arguments)
    (e : ParameterError) : Attempt m α := do
  let s ← loadSettings files environment a
  openLog files s
  match s.lookback with
  | .error e => throw (.window e)
  | .ok _ => throw (.parameter e)

section Runs

variable [Monad m] {a : Arguments} (files : Files m) (environment : List (String × String)) (now : Int)

/-- **A run whose parameters are read** starts with a controller over them. -/
theorem start_of_read {merged : Settings → Params} (h : ∀ s, a.parameters s = .ok (merged s)) :
    start files environment now a =
      (do
        let s ← loadSettings files environment a
        openLog files s
        match s.lookback with
        | .error e => throw (.window e)
        | .ok window =>
          match a.backend files s with
          | .error e => throw e
          | .ok backend => return ⟨s, window, backend, ⟨merged s, .last now window⟩⟩) := by
  refine bind_congr fun s => bind_congr fun _ => ?_
  rw [h]
  cases s.lookback <;> rfl

/-- **A run that fails on its parameters** does not start. -/
theorem start_of_unread {e : ParameterError} (h : ∀ s, a.parameters s = .error (.parameter e)) :
    start files environment now a = failing files environment a e := by
  refine bind_congr fun s => bind_congr fun _ => ?_
  rw [h]
  cases s.lookback <;> rfl

theorem runWith_of_unread [LawfulMonad m] {e : ParameterError}
    (h : ∀ s, a.parameters s = .error (.parameter e)) :
    runWith files environment now a = failing files environment a e := by
  rw [runWith, start_of_unread files environment now h, failing, bind_assoc]
  refine bind_congr fun s => ?_
  rw [bind_assoc]
  refine bind_congr fun _ => ?_
  cases s.lookback with
  | error e => exact ExceptT.bind_throw (ε := Failure) (m := m) _
  | ok window => exact ExceptT.bind_throw (ε := Failure) (m := m) _

end Runs

/-- **A key of a request** has the value that the request sets itself; or else that of the last `key=value`
with it; or else that of its option; or else that of the settings. A run whose `key=value` can all be read
hands the merged parameters to its controller, and an export lets that come to rest; so this holds of every
request of an export and of a session, and in an export there is one. Loaded settings lead to no key twice.
If a `key=value` cannot be read then the run ends with the first of these, before there is a backend to
ask. -/
theorem body_of_layers (a : Arguments) :
    (∀ given, List.Forall₂ (fun raw p => readParameter raw = .ok p) a.params given →
      ∃ merged : Settings → Params, (∀ s, a.parameters s = .ok (merged s)) ∧
        (∀ {m : Type → Type} [Monad m] (files : Files m) (environment : List (String × String)) (now : Int),
          start files environment now a =
            (do
              let s ← loadSettings files environment a
              openLog files s
              match s.lookback with
              | .error e => throw (.window e)
              | .ok window =>
                match a.backend files s with
                | .error e => throw e
                | .ok backend => return ⟨s, window, backend, ⟨merged s, .last now window⟩⟩) ∧
          runWith files environment now a =
            (do
              let s ← start files environment now a
              match a.exportPath with
              | none => throw .noTerminal
              | some path => ExceptT.lift do
                let answers ← s.backend.answers
                exportState files s.backend.description path (s.atRest answers))) ∧
        ∀ {m : Type → Type} (s : Start m), s.context.params = merged s.settings →
          (∀ answers, ∃ fetch ∈ (s.atRest answers).ledger, fetch.isCharts) ∧
          ∀ c, Serves s c → ∀ fetch ∈ c.ledger, Layered a given s.settings fetch.request) ∧
    (∀ bad ∈ a.params, ∀ e, readParameter bad = .error e →
      ∃ before raw after e, a.params = before ++ raw :: after ∧
        (∀ earlier ∈ before, ∃ p, readParameter earlier = .ok p) ∧ readParameter raw = .error e ∧
        ∀ {m : Type → Type} [Monad m] [LawfulMonad m] (files : Files m)
          (environment : List (String × String)) (now : Int),
          start files environment now a = failing files environment a e ∧
          runWith files environment now a = failing files environment a e) := by
  refine ⟨fun given hread => ?_, fun bad hbad e hunread => ?_⟩
  · choose merged hmerged using fun s => Arguments.parameters_of_read hread s
    refine ⟨merged, fun s => (hmerged s).1, fun files environment now =>
      ⟨start_of_read files environment now fun s => (hmerged s).1, rfl⟩, fun s hparams => ?_⟩
    exact ⟨s.exists_fetch, fun c hserves => hserves.layered hread (hparams ▸ (hmerged s.settings).1)⟩
  · rcases Arguments.read_cases a.params with
      ⟨given, hread⟩ | ⟨before, raw, after, given, e, hsplit, hbefore, hraw⟩
    · obtain ⟨p, hp⟩ := Arguments.exists_of_read hread bad hbad
      cases hunread.symm.trans hp
    · have hparams := Arguments.parameters_of_unread hsplit hbefore hraw
      exact ⟨before, raw, after, e, hsplit, Arguments.exists_of_read hbefore, hraw,
        fun files environment now => ⟨start_of_unread files environment now hparams,
          runWith_of_unread files environment now hparams⟩⟩

/-- An export with a parameter that is given twice, one over the option for it, and one that the request has a
say in itself. -/
theorem body_of_layers_of_cart :
    let a : Arguments :=
      { app := some "shop", params := ["limit=5", "app_name=cart", " limit =9", "end=0"] }
    let settings : Settings := { params := .ofMembers [("limit", .int 1), ("zone", .str "eu")] }
    let merged : Params :=
      .ofMembers [("app_name", .str "cart"), ("end", .int 0), ("limit", .int 9), ("zone", .str "eu")]
    let hour : Duration := ⟨3600000000000⟩
    let s : Start Id :=
      ⟨settings, hour, ⟨"saved.json", fun _ => .error default⟩, ⟨merged, .last 7200000000000 hour⟩⟩
    a.parameters settings = .ok merged ∧
    ∃ fetch ∈ (s.atRest fun _ => .error default).ledger, ∃ ms : Members, fetch.request.body = .obj ms ∧
      ms.get? "limit" = some (.int 9) ∧ ms.get? "app_name" = some (.str "cart") ∧
      ms.get? "zone" = some (.str "eu") ∧ ms.get? "end" = some (.word fetch.request.stop) ∧
      ms.get? "diagram_types" = some (.arr [.str "table", .str "flamegraph"]) := by
  intro a settings merged hour s
  have hparams : a.parameters settings = .ok merged := rfl
  have hgiven : List.Forall₂ (fun raw p => readParameter raw = .ok p) a.params
      [("limit", .int 5), ("app_name", .str "cart"), ("limit", .int 9), ("end", .int 0)] :=
    .cons rfl (.cons rfl (.cons rfl (.cons rfl .nil)))
  obtain ⟨params, hread, -, hstarted⟩ := (body_of_layers a).1 _ hgiven
  have hmerged : s.context.params = params settings := Except.ok.inj (hparams.symm.trans (hread settings))
  obtain ⟨hasked, hlayered⟩ := hstarted s hmerged
  obtain ⟨fetch, hfetch, hcharts⟩ := hasked fun _ => .error default
  obtain ⟨ms, hbody, hget, -⟩ := hlayered _ (.atRest _) fetch hfetch
  have hkinds : fetch.request.own? "diagram_types" = some (.arr [.str "table", .str "flamegraph"]) := by
    rw [Request.own?, of_decide_eq_true hcharts]
    rfl
  refine ⟨hparams, fetch, hfetch, ms, hbody, hget "limit", hget "app_name", hget "zone", hget "end", ?_⟩
  rw [hget, hkinds]
  rfl

end CommandLine

end ProfileBrowser
