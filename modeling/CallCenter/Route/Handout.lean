import CallCenter.LuaUtils.CallRoute
import CallCenter.Route.Loading

/-! # Handing Out Agents

    `route_call` names the idle agent that has waited for longest, and
    `set_agent_state` would mark it as talking, but no function of the script
    calls it: the agent stays idle and is named again.

    A `Desk` follows the agents that calls were handed to.  No agent is
    handed to two live calls in a run in which every call finds a spare one
    (`no_double_handout`): an idle agent that has waited for longer than
    those on live calls, which is what marking them would ensure.  As it is,
    two callers in a row get the same agent (`handed_twice`). -/

namespace Route

open CFormat Lua Script LuaUtils Transition

/-! ## Section 1: The desk -/

/-- The agent that an answer hands to a caller from outside: SUCCESS or
    FALLBACK_AGENT, with an extension of `AGENT_STATUS` as target. -/
def Answer.handed (agents : AgentTable) (a : Answer) : Option CStr :=
  if (a.code = RouteResult.success.code ∨ a.code = RouteResult.fallbackAgent.code) ∧
      (agents.lookup a.target).isSome then some a.target
  else none

/-- The agent that an operation hands out. -/
def handedBy (p : Platform) (s : RouteState) : RouteOp → Option CStr
  | .call callerId digits =>
    match (outcome (routeCall p callerId digits) s).1 with
    | .ok a => if isExternalCaller callerId then a.handed s.tables.agents else none
    | .error _ => none
  | _ => none

/-- `live` has the agents that were handed out and not set back to idle since. -/
structure Desk where
  state : RouteState
  live : List CStr

/-- No agent is on two live calls. -/
def Desk.Exclusive (d : Desk) : Prop := d.live.Nodup

inductive DeskOp where
  | route (op : RouteOp)
  /-- `set_agent_state`; the script itself never does it. -/
  | agentState (extension : CStr) (state : AgentState)
  /-- A reload makes every agent idle. -/
  | reload

def deskStep (p : Platform) (d : Desk) : DeskOp → Desk
  | .route op => ⟨routeStep p d.state op, d.live ++ (handedBy p d.state op).toList⟩
  | .agentState extension state =>
    ⟨(outcome (setAgentState p extension state) d.state).2,
      if state = .idle then d.live.filter fun e => e ≠ extension else d.live⟩
  | .reload => ⟨(outcome (routeScript p) d.state).2, []⟩

/-! ## Section 2: Spare agents -/

/-- An idle agent of the department has waited for longer than each idle one
    that is on a live call. -/
def SpareAgent (agents : AgentTable) (live : List CStr) (deptId : CStr) : Prop :=
  ∃ a ∈ getDeptAgents agents deptId, a.state = .idle ∧
    ∀ b ∈ getDeptAgents agents deptId, b.state = .idle → b.extension ∈ live →
      a.lastActive < b.lastActive

/-- Wherever the decision takes an agent from, there is a spare one. -/
def Decision.Spares (t : RouteTables) (live : List CStr) : Decision → Prop
  | .agentOf deptKey | .overflowTo deptKey => SpareAgent t.agents live deptKey
  | .timeoutEscalation | .keyEscalation =>
    if 0 < countIdleAgents t.agents (cstr "support") then
      SpareAgent t.agents live (cstr "support")
    else t.config.fallbackAgent ∉ live
  | _ => True

/-- The condition under which a step hands out no agent that is on a call. -/
def DeskOk (p : Platform) (d : Desk) : DeskOp → Prop
  | .route (.call callerId digits) =>
    isExternalCaller callerId = true → ∀ now, p.Reads now →
      (callDecision p d.state now callerId digits).Spares d.state.tables d.live
  | _ => True

/-- No idle agent has waited for longer than the one that is picked. -/
theorem pickIdleAgent_longest {p : Platform} {agents : AgentTable} {deptId : CStr}
    {agent : Agent} (hpick : pickIdleAgent p agents deptId = some agent) {a : Agent}
    (ha : a ∈ getDeptAgents agents deptId) (hidle : a.state = .idle) :
    ¬ a.lastActive < agent.lastActive := by
  unfold pickIdleAgent at hpick
  dsimp only at hpick
  split at hpick
  · cases hpick
  · have hmem : a ∈ p.sort ((getDeptAgents agents deptId).filter fun a => a.state = .idle) := by
      rw [(p.sort_perm _).mem_iff, List.mem_filter]
      exact ⟨ha, by simpa using hidle⟩
    have hsorted := p.sorted ((getDeptAgents agents deptId).filter fun a => a.state = .idle)
    obtain ⟨rest, hrest⟩ := List.head?_eq_some_iff.mp hpick
    rw [hrest] at hmem hsorted
    rcases List.mem_cons.mp hmem with rfl | hmem
    · exact lt_irrefl _
    · exact (List.pairwise_cons.mp hsorted).1 a hmem

theorem pickIdleAgent_spare {p : Platform} {agents : AgentTable} {deptId : CStr} {agent : Agent}
    {live : List CStr} (hpick : pickIdleAgent p agents deptId = some agent)
    (hspare : SpareAgent agents live deptId) : agent.extension ∉ live := by
  intro hlive
  obtain ⟨a, ha, hidle, hlonger⟩ := hspare
  obtain ⟨hmem, hagent⟩ := pickIdleAgent_mem hpick
  exact pickIdleAgent_longest hpick ha hidle (hlonger agent hmem hagent hlive)

theorem supportTarget_spare {p : Platform} {t : RouteTables} {live : List CStr}
    (hspares : Decision.keyEscalation.Spares t live) : t.supportTarget p ∉ live := by
  unfold Decision.Spares at hspares
  unfold RouteTables.supportTarget
  by_cases hidle : 0 < countIdleAgents t.agents (cstr "support")
  · rw [if_pos hidle] at hspares
    obtain ⟨agent, hpick⟩ := Option.isSome_iff_exists.mp (pickIdleAgent_isSome p hidle)
    rw [hpick]
    exact pickIdleAgent_spare hpick hspares
  · rw [if_neg hidle] at hspares
    cases hpick : pickIdleAgent p t.agents (cstr "support") with
    | none => exact hspares
    | some agent =>
      -- then an agent was idle after all
      obtain ⟨hmem, hagent⟩ := pickIdleAgent_mem hpick
      refine absurd ?_ hidle
      exact List.countP_pos_iff.mpr ⟨agent, hmem, by simpa using hagent⟩

/-! ## Section 3: No agent on two calls -/

theorem Answer.handed_target {agents : AgentTable} {a : Answer} {extension : CStr}
    (h : a.handed agents = some extension) : a.target = extension := by
  unfold Answer.handed at h
  split at h
  · exact Option.some.inj h
  · cases h

/-- An answer with another code hands out nobody. -/
theorem Answers.not_handed {agents : AgentTable} {a : Answer} {code : Int} {target : CStr}
    (h : Answers (.ok a) code target) (hsuccess : code ≠ RouteResult.success.code)
    (hfallback : code ≠ RouteResult.fallbackAgent.code) (extension : CStr) :
    a.handed agents ≠ some extension := by
  obtain ⟨b, hb, hcode, -⟩ := h
  obtain rfl := Except.ok.inj hb
  unfold Answer.handed
  rw [hcode, if_neg]
  · nofun
  · rintro ⟨hcode | hcode, -⟩
    · exact hsuccess hcode
    · exact hfallback hcode

/-- Where there are spare agents, the one that is handed out is not on a call. -/
theorem Follows.handed {p : Platform} {t t' : RouteTables} {now : Int} {callerId : Option CStr}
    {d : Decision} {a : Answer} {live : List CStr} (h : Follows p t now callerId d (.ok a) t')
    (hspares : d.Spares t live) {extension : CStr}
    (hhanded : a.handed t.agents = some extension) : extension ∉ live := by
  have htarget := Answer.handed_target hhanded
  cases d with
  | clockError e => cases h.1
  | nightAgent | nightFallback | nightVoicemail =>
    exact absurd hhanded (h.1.answers.not_handed (by decide) (by decide) _)
  | timeoutRetry | keyRetry =>
    exact absurd hhanded (h.1.answers.not_handed (by decide) (by decide) _)
  | offline | queueFull =>
    exact absurd hhanded (h.1.not_handed (by decide) (by decide) _)
  | queued =>
    obtain ⟨⟨dept, -, hanswer⟩, -⟩ := h
    exact absurd hhanded (hanswer.answers.not_handed (by decide) (by decide) _)
  | timeoutEscalation | keyEscalation =>
    rw [← htarget, h.1.target]
    exact supportTarget_spare hspares
  | agentOf | overflowTo =>
    obtain ⟨⟨agent, hpick, hanswer⟩, -⟩ := h
    rw [← htarget, hanswer.target]
    exact pickIdleAgent_spare hpick hspares

theorem handedBy_not_live {p : Platform} {d : Desk} {op : RouteOp}
    (hok : DeskOk p d (.route op)) : ∀ e ∈ (handedBy p d.state op).toList, e ∉ d.live := by
  intro e he
  rw [Option.mem_toList] at he
  cases op with
  | call callerId digits =>
    unfold handedBy at he
    dsimp only at he
    split at he
    · next a ha =>
      split at he
      · next hexternal =>
        obtain ⟨now, hread, hfollows⟩ := routeCall_follows hexternal digits d.state (p := p)
        rw [ha] at hfollows
        exact hfollows.handed (hok hexternal now hread) he
      · cases he
    · cases he
  | updateConfig u => cases he
  | resetKeys callerId => cases he

theorem deskStep_exclusive {p : Platform} {d : Desk} (hd : d.Exclusive) {op : DeskOp}
    (hok : DeskOk p d op) : (deskStep p d op).Exclusive := by
  cases op with
  | route op =>
    have hnew := handedBy_not_live hok
    show (d.live ++ (handedBy p d.state op).toList).Nodup
    rw [List.nodup_append]
    refine ⟨hd, ?_, ?_⟩
    · cases handedBy p d.state op with
      | none => exact List.nodup_nil
      | some e => exact List.nodup_singleton e
    · rintro e hlive _ hhanded rfl
      exact hnew e hhanded hlive
  | agentState extension state =>
    show (if state = .idle then _ else d.live).Nodup
    split
    · exact hd.filter _
    · exact hd
  | reload => exact List.nodup_nil

/-- **No agent on two live calls**, in a run in which every call finds a spare
    one. -/
theorem no_double_handout {p : Platform} {s : RouteState} {ops : List DeskOp} {d : Desk}
    (hrun : Run (restrict (ofFun (deskStep p)) (DeskOk p)) ⟨s, []⟩ ops d) : d.Exclusive := by
  have h₀ : Desk.Exclusive ⟨s, []⟩ := List.nodup_nil
  apply hrun.invariant h₀
  rintro d op _ hd ⟨hok, rfl⟩
  exact deskStep_exclusive hd hok

/-! ## Section 4: After a load -/

/-- Tables with the configuration of the script and every agent idle. -/
structure AllIdle (t : RouteTables) : Prop where
  force : t.forceWorktime = false
  config : t.config = .default
  idle : ∀ deptId, ∀ a ∈ getDeptAgents t.agents deptId, a.state = .idle
  staffed : ∀ deptId dept, department deptId = some dept → getDeptAgents t.agents deptId ≠ []

theorem FreshTables.allIdle {p : Platform} {t : RouteTables} (h : FreshTables p t) : AllIdle t := by
  constructor
  · rw [h.declared]
    rfl
  · exact h.config
  · intro deptId a ha
    obtain ⟨_, _, -, -, -, hlookup⟩ := mem_getDeptAgents.mp ha
    exact (h.fresh _ a hlookup).1
  · intro deptId dept hdept
    have hrange : ∀ d ∈ departments, d.2.rangeStart ≤ d.2.rangeEnd := by decide +kernel
    obtain ⟨d, hfind, rfl⟩ := Option.map_eq_some_iff.mp hdept
    have hd := List.mem_of_find?_eq_some hfind
    obtain ⟨agent, hlookup⟩ :=
      Option.isSome_iff_exists.mp (h.provisioned d hd _ (le_refl _) (hrange d hd))
    exact List.ne_nil_of_mem
      (mem_getDeptAgents.mpr ⟨d.2, _, hdept, le_refl _, hrange d hd, hlookup⟩)

theorem AllIdle.cleanup {t : RouteTables} (h : AllIdle t) (now : Int) : AllIdle (t.cleanup now) :=
  ⟨h.force, h.config, h.idle, h.staffed⟩

theorem AllIdle.workTime {t : RouteTables} (h : AllIdle t) :
    workTimeAt t ⟨2, 9, 0⟩ = .ok true := by
  unfold workTimeAt
  rw [h.force, h.config]
  decide +kernel

/-- A key of the menu gets an agent of its department. -/
theorem AllIdle.callDecision {s : RouteState} (h : AllIdle s.tables) (now : Int)
    (callerId : Option CStr) {key deptKey : CStr} (hkey : key ≠ [])
    (hmap : ivrMap key = some deptKey) :
    callDecision mondayMorning s now callerId (some key) = .agentOf deptKey := by
  obtain ⟨dept, hdept, -⟩ := ivrMap_department hmap
  have hpos := List.length_pos_iff_ne_nil.mpr (h.staffed deptKey dept hdept)
  have honline : ¬ allOffline s.tables.agents deptKey := by
    have hnone : (getDeptAgents s.tables.agents deptKey).countP
        (fun a => a.state = .offline) = 0 := by
      rw [List.countP_eq_zero]
      intro a ha
      simp [h.idle deptKey a ha]
    unfold allOffline
    omega
  have hidle : countIdleAgents s.tables.agents deptKey ≠ 0 := by
    have hall : countIdleAgents s.tables.agents deptKey =
        (getDeptAgents s.tables.agents deptKey).length := by
      unfold countIdleAgents
      rw [List.countP_eq_length]
      intro a ha
      simpa using h.idle deptKey a ha
    omega
  show decision mondayMorning s.tables (workTimeAt s.tables ⟨2, 9, 0⟩) now callerId _ = _
  rw [h.workTime]
  show ivrDecision s.tables now callerId (some key) = _
  unfold ivrDecision
  rw [Option.getD_some, if_neg hkey, hmap]
  dsimp only
  rw [if_neg honline, if_neg hidle]

/-- What a call that gets an agent does at the desk. -/
theorem handedBy_agentOf {p : Platform} {s : RouteState} {callerId digits : Option CStr}
    {deptKey : CStr} (hexternal : isExternalCaller callerId = true)
    (hdecision : ∀ now, callDecision p s now callerId digits = .agentOf deptKey) :
    ∃ agent now, pickIdleAgent p s.tables.agents deptKey = some agent ∧
      handedBy p s (.call callerId digits) = some agent.extension ∧
        (routeStep p s (.call callerId digits)).tables = s.tables.cleanup now := by
  obtain ⟨now, -, hfollows⟩ := routeCall_follows hexternal digits s (p := p)
  rw [hdecision now] at hfollows
  obtain ⟨⟨agent, hpick, a, ha, hcode, htarget⟩, htables⟩ := hfollows
  refine ⟨agent, now, hpick, ?_, htables⟩
  obtain ⟨_, ext, -, -, -, hlookup⟩ := mem_getDeptAgents.mp (pickIdleAgent_mem hpick).1
  have hsome : (s.tables.agents.lookup a.target).isSome := by
    rw [htarget, s.tables.agents.extension_eq _ _ hlookup, hlookup]
    rfl
  unfold handedBy
  dsimp only
  rw [ha]
  dsimp only
  rw [if_pos hexternal]
  unfold Answer.handed
  rw [if_pos ⟨Or.inl hcode, hsome⟩, htarget]

theorem AllIdle.spareAgent {t : RouteTables} (h : AllIdle t) {deptId : CStr} {dept : Department}
    (hdept : department deptId = some dept) {live : List CStr}
    (hlive : ∀ b ∈ getDeptAgents t.agents deptId, b.extension ∉ live) :
    SpareAgent t.agents live deptId := by
  obtain ⟨a, ha⟩ := List.exists_mem_of_ne_nil _ (h.staffed deptId dept hdept)
  exact ⟨a, ha, h.idle deptId a ha, fun b hb _ hmem => absurd hmem (hlive b hb)⟩

/-- A caller who presses a key. -/
def presses (callerId key : CStr) : RouteOp := .call (some callerId) (some key)

/-- The desk after the first load. -/
def openingDesk : Desk := ⟨loadedState mondayMorning 0, []⟩

theorem openingDesk_allIdle : AllIdle openingDesk.state.tables :=
  (loadedState_fresh mondayMorning 0).allIdle

/-- What becomes of a desk with idle agents when an external caller presses a
    key of the menu. -/
theorem AllIdle.presses {d : Desk} (h : AllIdle d.state.tables) {callerId key deptKey : CStr}
    (hexternal : isExternalCaller (some callerId) = true) (hkey : key ≠ [])
    (hmap : ivrMap key = some deptKey) :
    ∃ agent, pickIdleAgent mondayMorning d.state.tables.agents deptKey = some agent ∧
      (deskStep mondayMorning d (.route (presses callerId key))).live =
        d.live ++ [agent.extension] ∧
      (deskStep mondayMorning d (.route (presses callerId key))).state.tables.agents =
        d.state.tables.agents ∧
      AllIdle (deskStep mondayMorning d (.route (presses callerId key))).state.tables := by
  obtain ⟨agent, now, hpick, hhanded, htables⟩ :=
    handedBy_agentOf hexternal fun now => h.callDecision now (some callerId) hkey hmap
  refine ⟨agent, hpick, ?_, ?_, ?_⟩
  · show d.live ++ (handedBy mondayMorning d.state (.call _ _)).toList = _
    rw [hhanded]
    rfl
  · show (routeStep mondayMorning d.state (.call _ _)).tables.agents = _
    rw [htables]
    rfl
  · show AllIdle (routeStep mondayMorning d.state (.call _ _)).tables
    rw [htables]
    exact h.cleanup now

def firstCaller : DeskOp := .route (presses (cstr "4001") (cstr "1"))

def secondCaller (key : CStr) : DeskOp := .route (presses (cstr "4002") key)

/-- A caller to sales and one to service. -/
theorem no_double_handout_departments :
    (deskStep mondayMorning (deskStep mondayMorning openingDesk firstCaller)
      (secondCaller (cstr "2"))).Exclusive := by
  have hsales : ivrMap (cstr "1") = some (cstr "sales") := by decide +kernel
  have hservice : ivrMap (cstr "2") = some (cstr "service") := by decide +kernel
  obtain ⟨agent, hpick, hlive, -, hidle⟩ :=
    @AllIdle.presses openingDesk openingDesk_allIdle (cstr "4001") (cstr "1") _
      (by decide +kernel) (by decide) hsales
  generalize hd : deskStep mondayMorning openingDesk (.route (presses (cstr "4001") (cstr "1"))) = d
    at hlive hidle
  rw [firstCaller, hd]
  have hrun : Run (restrict (ofFun (deskStep mondayMorning)) (DeskOk mondayMorning)) openingDesk
      [firstCaller, secondCaller (cstr "2")]
      (deskStep mondayMorning d (secondCaller (cstr "2"))) := by
    refine Run.cons ⟨fun _ now _ => ?_, hd⟩ (Run.single ⟨fun _ now _ => ?_, rfl⟩)
    · rw [openingDesk_allIdle.callDecision now _ (by decide) hsales]
      obtain ⟨dept, hdept, -⟩ := ivrMap_department hsales
      exact openingDesk_allIdle.spareAgent hdept fun b _ => List.not_mem_nil
    · rw [hidle.callDecision now _ (by decide) hservice]
      obtain ⟨dept, hdept, -⟩ := ivrMap_department hservice
      refine hidle.spareAgent hdept fun b hb hmem => ?_
      have hsame : b.extension = agent.extension := by
        rw [hlive] at hmem
        simpa [openingDesk] using hmem
      -- the numbers of the two departments do not overlap
      have hranges : ∀ sales, department (cstr "sales") = some sales → ∀ service,
          department (cstr "service") = some service → sales.rangeEnd < service.rangeStart := by
        decide +kernel
      obtain ⟨sales, ext, hd₁, -, hhi, hext⟩ :=
        mem_getDeptAgents.mp (pickIdleAgent_mem hpick).1
      obtain ⟨service, ext', hd₂, hlo, -, hext'⟩ := mem_getDeptAgents.mp hb
      have hnumber : natText ext' = natText ext :=
        (AgentTable.extension_eq _ _ _ hext').symm.trans
          (hsame.trans (AgentTable.extension_eq _ _ _ hext))
      have hequal : ext' = ext := by
        rw [← digitsValue_natText ext', hnumber, digitsValue_natText]
      have hless := hranges sales hd₁ service hd₂
      omega
  exact no_double_handout hrun

/-- Two callers in a row who press 1. -/
theorem handed_twice :
    ¬ ∀ (p : Platform) (reads : Nat) (s : RouteState) (ops : List DeskOp) (d : Desk),
      Reachable (ofFun (routeStep p)) (loadedState p reads) s →
        Run (ofFun (deskStep p)) ⟨s, []⟩ ops d → d.Exclusive := by
  intro h
  have hsales : ivrMap (cstr "1") = some (cstr "sales") := by decide +kernel
  obtain ⟨agent, hpick, hlive, hagents, hidle⟩ :=
    @AllIdle.presses openingDesk openingDesk_allIdle (cstr "4001") (cstr "1") _
      (by decide +kernel) (by decide) hsales
  obtain ⟨agent', hpick', hlive', -, -⟩ :=
    @AllIdle.presses _ hidle (cstr "4002") (cstr "1") _ (by decide +kernel) (by decide) hsales
  -- nobody has marked the agent, so it is picked again
  rw [hagents, hpick] at hpick'
  obtain rfl := Option.some.inj hpick'
  have hrun : Run (ofFun (deskStep mondayMorning)) openingDesk
      [firstCaller, secondCaller (cstr "1")]
      (deskStep mondayMorning (deskStep mondayMorning openingDesk firstCaller)
        (secondCaller (cstr "1"))) := Run.cons rfl (Run.single rfl)
  have hnodup := h mondayMorning 0 openingDesk.state _ _ ⟨[], Run.nil _⟩ hrun
  rw [Desk.Exclusive, firstCaller, secondCaller, hlive', hlive] at hnodup
  simp [openingDesk] at hnodup

end Route
