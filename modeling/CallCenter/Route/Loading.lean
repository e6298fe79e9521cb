import CallCenter.Framework.Transition
import CallCenter.LuaUtils.Reload
import CallCenter.Route.External

/-! # Loading and Reloading the Script

    The tables of `route.lua` are locals of its chunk, so running the chunk
    again makes new ones.  `FreshTables` is what a load leaves behind,
    whatever there was before (`routeScript_fresh`); a reload that succeeds
    does the same (`reload_resets`), and nothing of the old state is left. -/

namespace Route

open CFormat Lua Script LuaUtils

/-! ## Section 1: A load -/

/-- The agent stands for an extension of a department, as `init_agent_status`
    makes it. -/
def FreshAgent (p : Platform) (key : CStr) (agent : Agent) : Prop :=
  agent.state = .idle ∧ agent.calls = 0 ∧ p.Reads agent.lastActive ∧
    ∃ d ∈ departments, ∃ ext, d.2.rangeStart ≤ ext ∧ ext ≤ d.2.rangeEnd ∧ key = natText ext ∧
      agent.department = d.1

def RouteTables.withAgents (t : RouteTables) (agents : AgentTable) : RouteTables :=
  { t with agents := agents }

/-- The tables after a load: as declared, with an idle agent for every
    extension. -/
structure FreshTables (p : Platform) (t : RouteTables) : Prop where
  declared : t = RouteTables.declared.withAgents t.agents
  fresh : ∀ key agent, t.agents.lookup key = some agent → FreshAgent p key agent
  provisioned : ∀ d ∈ departments, ∀ ext, d.2.rangeStart ≤ ext → ext ≤ d.2.rangeEnd →
    (t.agents.lookup (natText ext)).isSome

theorem FreshTables.config {p : Platform} {t : RouteTables} (h : FreshTables p t) :
    t.config = .default := by
  rw [h.declared]
  rfl

/-- The state of the loop: the departments that are done. -/
structure InitInv (p : Platform) (done : List (CStr × Department)) (s : RouteState) : Prop where
  declared : s.tables = RouteTables.declared.withAgents s.tables.agents
  fresh : ∀ key agent, s.tables.agents.lookup key = some agent → FreshAgent p key agent
  provisioned : ∀ d ∈ done, ∀ ext, d.2.rangeStart ≤ ext → ext ≤ d.2.rangeEnd →
    (s.tables.agents.lookup (natText ext)).isSome

theorem insert_isSome {agents : AgentTable} {key : CStr} (agent : Agent)
    (h : (agents.lookup key).isSome) : ((agents.insert agent).lookup key).isSome := by
  by_cases hkey : key = agent.extension
  · subst hkey
    simp [AgentTable.insert]
  · simpa [AgentTable.insert, hkey] using h

/-- An iteration of the inner loop. -/
theorem initAgent_returns (p : Platform) {done : List (CStr × Department)} {s : RouteState}
    (hinv : InitInv p done s) {d : CStr × Department} (hd : d ∈ departments) {ext : Nat}
    (hlo : d.2.rangeStart ≤ ext) (hhi : ext ≤ d.2.rangeEnd) :
    Returns (initAgent p d.1 ext) s fun _ s' => InitInv p done s' ∧
      (s'.tables.agents.lookup (natText ext)).isSome ∧
        ∀ key, (s.tables.agents.lookup key).isSome → (s'.tables.agents.lookup key).isSome := by
  let agent : Agent := ⟨.idle, 0, p.clock s.reads, natText ext, d.1⟩
  refine ⟨(), s.tick.withTables (s.tables.withAgents (s.tables.agents.insert agent)), rfl, ?_,
    ?_, fun key h => insert_isSome agent h⟩
  · constructor
    · exact congrArg (·.withAgents (s.tables.agents.insert agent)) hinv.declared
    · intro key a ha
      by_cases hkey : key = natText ext
      · subst hkey
        have hself : (s.tables.agents.insert agent).lookup (natText ext) = some agent :=
          Function.update_self _ _ _
        obtain rfl := Option.some.inj (hself.symm.trans ha)
        exact ⟨rfl, rfl, ⟨_, rfl⟩, d, hd, ext, hlo, hhi, rfl, rfl⟩
      · have hother : (s.tables.agents.insert agent).lookup key = s.tables.agents.lookup key :=
          Function.update_of_ne hkey _ _
        exact hinv.fresh key a (hother.symm.trans ha)
    · intro e he x hx hx'
      exact insert_isSome agent (hinv.provisioned e he x hx hx')
  · have hself : (s.tables.agents.insert agent).lookup (natText ext) = some agent :=
      Function.update_self _ _ _
    show ((s.tables.agents.insert agent).lookup (natText ext)).isSome
    rw [hself]
    rfl

/-- The inner loop provisions a department. -/
theorem initDepartment_returns (p : Platform) {done : List (CStr × Department)} {s : RouteState}
    (hinv : InitInv p done s) {d : CStr × Department} (hd : d ∈ departments) :
    Returns ((List.range' d.2.rangeStart (d.2.rangeEnd + 1 - d.2.rangeStart)).forM
      fun ext => initAgent p d.1 ext) s fun _ s' => InitInv p (done ++ [d]) s' := by
  have hloop : Returns ((List.range' d.2.rangeStart (d.2.rangeEnd + 1 - d.2.rangeStart)).forM
      fun ext => initAgent p d.1 ext) s fun _ s' => InitInv p done s' ∧
        ∀ ext ∈ List.range' d.2.rangeStart (d.2.rangeEnd + 1 - d.2.rangeStart),
          (s'.tables.agents.lookup (natText ext)).isSome := by
    apply Returns.forM (I := fun exts s' => InitInv p done s' ∧
      ∀ ext ∈ exts, (s'.tables.agents.lookup (natText ext)).isSome) ⟨hinv, nofun⟩
    rintro exts ext hext t ⟨ht, hexts⟩
    rw [List.mem_range'_1] at hext
    apply Returns.mono (initAgent_returns p ht hd (by omega) (by omega))
    rintro _ t' ⟨ht', hself, hkeep⟩
    refine ⟨ht', fun x hx => ?_⟩
    rcases List.mem_append.mp hx with hx | hx
    · exact hkeep _ (hexts x hx)
    · obtain rfl := List.mem_singleton.mp hx
      exact hself
  apply Returns.mono hloop
  rintro _ s' ⟨hinv', hrange⟩
  refine ⟨hinv'.declared, hinv'.fresh, fun e he ext hlo hhi => ?_⟩
  rcases List.mem_append.mp he with he | he
  · exact hinv'.provisioned e he ext hlo hhi
  · rw [List.mem_singleton] at he
    subst he
    exact hrange ext (List.mem_range'_1.mpr ⟨hlo, by omega⟩)

theorem initAgentStatus_returns (p : Platform) {s : RouteState}
    (hs : s.tables = RouteTables.declared) :
    Returns (initAgentStatus p) s fun _ s' => FreshTables p s'.tables := by
  have hinv : InitInv p [] s := by
    constructor
    · rw [hs]
      rfl
    · rw [hs]
      nofun
    · nofun
  apply Returns.mono (Returns.forM (I := InitInv p) hinv fun done d hd t ht =>
    initDepartment_returns p ht hd)
  rintro _ s' h
  exact ⟨h.declared, h.fresh, h.provisioned⟩

/-- **A load** leaves fresh tables, whatever there was before. -/
theorem routeScript_fresh (p : Platform) (s : RouteState) :
    Returns (routeScript p) s fun _ s' => FreshTables p s'.tables := by
  unfold routeScript
  apply Returns.bind (Returns.of_eq (outcome_modify _ s) rfl)
    (Q := fun _ s' => s'.tables = RouteTables.declared)
  rintro _ s₁ hs₁
  apply Returns.bind (initAgentStatus_returns p hs₁)
  rintro _ s₂ hfresh
  have hdesc := getTimeDescription_runs p s₂
  unfold Runs at hdesc
  cases hrun : outcome (getTimeDescription p) s₂ with
  | mk r s₃ =>
    rw [hrun] at hdesc
    obtain ⟨hsame, hfails⟩ := hdesc
    cases r with
    | ok text =>
      refine ⟨(), s₃, ?_, ?_⟩
      · rw [outcome_bind_ok hrun]
        rfl
      · show FreshTables p s₃.tables
        rw [show s₃.tables = s₂.tables from hsame]
        exact hfresh
    | error e =>
      -- the default hours are all there
      obtain ⟨now, -, herror⟩ := hfails e rfl
      exact absurd herror (workTimeAt_ok (by rw [hfresh.config]; exact default_printable) _ e)

/-- A load keeps nothing but the position of the clock. -/
theorem routeScript_forgets (p : Platform) {s s' : RouteState} (h : s.reads = s'.reads) :
    outcome (routeScript p) s = outcome (routeScript p) s' := by
  unfold routeScript
  rw [outcome_bind_ok (outcome_modify _ s), outcome_bind_ok (outcome_modify _ s'), h]

/-! ## Section 2: A reload -/

/-- What `route.lua` compiles to. -/
def routeChunk (p : Platform) : Chunk RouteState := fun s =>
  ((match (outcome (routeScript p) s).1 with
    | .ok _ => none
    | .error _ => some (cstr "error")), (outcome (routeScript p) s).2)

/-- The state that a load makes when the clock stands at `reads`. -/
@[irreducible] def loadedState (p : Platform) (reads : Nat) : RouteState :=
  (outcome (routeScript p) ⟨.declared, fun _ => none, 0, reads⟩).2

theorem routeScript_outcome (p : Platform) (s : RouteState) :
    outcome (routeScript p) s = (.ok (), loadedState p s.reads) := by
  have hforget : outcome (routeScript p) s =
      outcome (routeScript p) ⟨.declared, fun _ => none, 0, s.reads⟩ :=
    @routeScript_forgets p s ⟨.declared, fun _ => none, 0, s.reads⟩ rfl
  obtain ⟨_, s', hrun, -⟩ := routeScript_fresh p s
  unfold loadedState
  rw [← hforget, hrun]

theorem loadedState_fresh (p : Platform) (reads : Nat) :
    FreshTables p (loadedState p reads).tables := by
  obtain ⟨_, s', hrun, hfresh⟩ := routeScript_fresh p ⟨.declared, fun _ => none, 0, reads⟩
  unfold loadedState
  rw [hrun]
  exact hfresh

theorem routeChunk_eq (p : Platform) (s : RouteState) :
    routeChunk p s = (none, loadedState p s.reads) := by
  unfold routeChunk
  rw [routeScript_outcome]

variable {T : Type}

/-- **A reload** of the unchanged script succeeds and leaves fresh tables: the
    state of a load at this time, whatever state it is made in. -/
theorem reload_resets (p : Platform) {disk : CStr → LuaApi.ScriptFile (Chunk RouteState)}
    {vm : LuaVm T RouteState} {L : LuaApi.State (Chunk RouteState) T RouteState}
    (hL : vm.L = some L) (hpath : vm.scriptPath ≠ [])
    (hdisk : disk vm.scriptPath = .compiles (routeChunk p)) :
    ∃ L', luaVmReloadScript disk vm = (0, { vm with L := some L' }) ∧ L'.stack = L.stack ∧
      FreshTables p L'.script.tables ∧
        ∀ s₀ : RouteState, s₀.reads = L.script.reads →
          outcome (routeScript p) s₀ = (.ok (), L'.script) := by
  refine ⟨reloaded L (loadedState p L.script.reads), ?_, rfl, loadedState_fresh p _, ?_⟩
  · rw [reload_run disk hL hpath, hdisk, runFile, routeChunk_eq, if_pos rfl]
  · intro s₀ hreads
    rw [routeScript_outcome, hreads]
    rfl

/-- A machine on a Monday at nine. -/
def mondayMorning : Platform := .steady 0 ⟨2, 9, 0⟩

def routeScriptPath : CStr := cstr "lua/route.lua"

/-- In use: a caller waits, an agent talks, a key was wrong and a key was
    missing, and one invalid key is now enough. -/
def usedState : RouteState where
  tables :=
    { forceWorktime := true
      config := { RouteConfig.default with maxInvalidKeys := .int 1 }
      agents := (loadedState mondayMorning 0).tables.agents.insert
        ⟨.talking, 3, 60, cstr "2001", cstr "sales"⟩
      queue := fun d => if d = cstr "sales" then some [⟨cstr "4001", 60⟩] else none
      invalidKeyCount := fun c => if c = cstr "4002" then some 1 else none
      timeoutRetryCount := fun c => if c = cstr "4003" then some 1 else none }
  callLog := fun _ => none
  callLogIndex := 0
  reads := 0

def usedVm : LuaVm Unit RouteState := ⟨some (.newstate usedState), routeScriptPath⟩

/-- A reload of the script in use: the caller and the counters are gone. -/
theorem reload_resets_used :
    ∃ L', luaVmReloadScript (fun _ => .compiles (routeChunk mondayMorning)) usedVm =
        (0, { usedVm with L := some L' }) ∧
      FreshTables mondayMorning L'.script.tables ∧
      usedState.tables.queue (cstr "sales") = some [⟨cstr "4001", 60⟩] ∧
      L'.script.tables.queue (cstr "sales") = none ∧
      L'.script.tables.invalidKeyCount (cstr "4002") = none ∧
      L'.script.tables.timeoutRetryCount (cstr "4003") = none ∧
      L'.script.tables.config.maxInvalidKeys = .int 3 := by
  have hpath : usedVm.scriptPath ≠ [] := by
    show routeScriptPath ≠ []
    decide
  obtain ⟨L', hreload, -, hfresh, -⟩ :=
    @reload_resets Unit mondayMorning (fun _ => .compiles (routeChunk mondayMorning)) usedVm _
      rfl hpath rfl
  refine ⟨L', hreload, hfresh, rfl, ?_⟩
  rw [hfresh.declared]
  exact ⟨rfl, rfl, rfl, rfl⟩

/-! ## Section 3: What a reload loses -/

/-- What C calls between two loads. -/
inductive RouteOp where
  | call (callerId digits : Option CStr)
  | updateConfig (u : Option ConfigUpdate)
  | resetKeys (callerId : CStr)

def routeStep (p : Platform) (s : RouteState) : RouteOp → RouteState
  | .call callerId digits => (outcome (routeCall p callerId digits) s).2
  | .updateConfig u => (outcome (updateRouteConfig p u) s).2
  | .resetKeys callerId => (outcome (resetInvalidKeyCount callerId) s).2

/-- A configuration that was updated at run time is lost. -/
theorem reload_loses_config :
    ¬ ∀ (p : Platform) (reads : Nat) (s : RouteState)
        (disk : CStr → LuaApi.ScriptFile (Chunk RouteState)) (path : CStr)
        (vm : LuaVm Unit RouteState),
      Transition.Reachable (Transition.ofFun (routeStep p)) (loadedState p reads) s →
      path ≠ [] → disk path = .compiles (routeChunk p) →
      luaVmReloadScript disk ⟨some (.newstate s), path⟩ = (0, vm) →
        ∃ L, vm.L = some L ∧ L.script.tables = s.tables := by
  intro h
  let p := mondayMorning
  let op := RouteOp.updateConfig (some { maxInvalidKeys := some (.int 1) })
  let s := routeStep p (loadedState p 0) op
  have hreach : Transition.Reachable (Transition.ofFun (routeStep p)) (loadedState p 0) s :=
    ⟨[op], Transition.Run.single rfl⟩
  have hpath : routeScriptPath ≠ [] := by decide
  let vm : LuaVm Unit RouteState := ⟨some (.newstate s), routeScriptPath⟩
  have hreload : luaVmReloadScript (fun _ => .compiles (routeChunk p)) vm =
      (0, { vm with L := some (reloaded (.newstate s) (loadedState p s.reads)) }) := by
    rw [reload_run _ rfl hpath, runFile, routeChunk_eq, if_pos rfl]
    rfl
  obtain ⟨L, hL, hsame⟩ := h p 0 s (fun _ => .compiles (routeChunk p)) routeScriptPath _
    hreach hpath rfl hreload
  obtain rfl := Option.some.inj hL
  have hafter : (loadedState p s.reads).tables.config.maxInvalidKeys = .int 3 := by
    rw [(loadedState_fresh p s.reads).config]
    rfl
  have hbefore : s.tables.config.maxInvalidKeys = .int 1 := rfl
  rw [show (loadedState p s.reads).tables = s.tables from hsame, hbefore] at hafter
  cases hafter

end Route
