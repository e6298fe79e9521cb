import CallCenter.Route.Auxiliary
import CallCenter.Route.ConfigUpdate
import CallCenter.Route.Extensions
import CallCenter.Route.Handout

/-! # The Script in Service

    Nothing in the program calls `set_agent_state`.  So from the load on,
    whatever is called and whatever time it is, every agent is idle and no
    caller waits: the script never reports a busy or an offline department
    and never queues anybody (`shipped_run`, `shipped_answers`), and all who
    choose the same department get the same agent (`same_agent`). -/

namespace Route

open CFormat Lua Script LuaUtils Transition

/-! ## Section 1: Everything that can be called -/

/-- The seven interfaces and the main entry. -/
inductive RoutingCall where
  | getIvrRoute (phone keyInput : Option CStr)
  | checkAgentStatus (deptId : Option CStr)
  | overflowRoute (deptId callerId : Option CStr)
  | timeJudgeRoute
  | invalidKeyFallback (callerId keyInput : Option CStr)
  | timeoutFallback (callerId : Option CStr)
  | deptInternalCallRoute (caller callee : Option CStr)
  | routeCall (callerId digits : Option CStr)

def RoutingCall.program (p : Platform) : RoutingCall → RouteM Answer
  | .getIvrRoute phone keyInput => Route.getIvrRoute p phone keyInput
  | .checkAgentStatus (some deptId) => Route.checkAgentStatus p deptId
  | .checkAgentStatus none => checkAgentStatusNil p
  | .overflowRoute (some deptId) callerId => Route.overflowRoute p deptId callerId
  | .overflowRoute none callerId => overflowRouteNil p callerId
  | .timeJudgeRoute => Route.timeJudgeRoute p
  | .invalidKeyFallback callerId keyInput => Route.invalidKeyFallback p callerId keyInput
  | .timeoutFallback callerId => Route.timeoutFallback p callerId
  | .deptInternalCallRoute caller callee => Route.deptInternalCallRoute p caller callee
  | .routeCall callerId digits => Route.routeCall p callerId digits

/-- What C can do to the script. -/
inductive ScriptCall where
  | routing (call : RoutingCall)
  | ivrPrompt
  | ivrMenu
  | departmentInfo (deptKey : Option CStr)
  | workTimeStatus
  | routeConfig
  | queueStatus
  | callLogs (n : Option Int)
  | updateConfig (u : Option ConfigUpdate)
  | resetKeys (callerId : Option CStr)
  /-- `_TEST_FORCE_WORKTIME` is a global that C sets. -/
  | forceWorktime (on : Bool)
  | reload

def scriptStep (p : Platform) (s : RouteState) : ScriptCall → RouteState
  | .routing call => (outcome (call.program p) s).2
  -- made of constants
  | .ivrPrompt | .ivrMenu => s
  | .departmentInfo (some deptKey) => (outcome (getDepartmentInfo deptKey) s).2
  -- there is no department nil
  | .departmentInfo none => s
  | .workTimeStatus => (outcome (getWorkTimeStatus p) s).2
  | .routeConfig => (outcome getRouteConfig s).2
  | .queueStatus => (outcome getQueueStatus s).2
  | .callLogs n => (outcome (getCallLogs n) s).2
  | .updateConfig u => (outcome (updateRouteConfig p u) s).2
  | .resetKeys (some callerId) => (outcome (resetInvalidKeyCount callerId) s).2
  -- the assignment raises an error
  | .resetKeys none => s
  | .forceWorktime on => s.withTables { s.tables with forceWorktime := on }
  | .reload => (outcome (routeScript p) s).2

theorem scriptStep_routeCall (p : Platform) (s : RouteState) (callerId digits : Option CStr) :
    scriptStep p s (.routing (.routeCall callerId digits)) =
      (outcome (routeCall p callerId digits) s).2 := rfl

/-! ## Section 2: The tables in service -/

/-- Every extension has an agent, every agent is idle, and no queue was ever
    opened. -/
structure InService (t : RouteTables) : Prop where
  staffed : t.agents.Staffed
  idle : ∀ key agent, t.agents.lookup key = some agent → agent.state = .idle
  noQueue : ∀ deptId, t.queue deptId = none

/-- Agents and queues are the same. -/
def Undisturbed (t t' : RouteTables) : Prop := t'.agents = t.agents ∧ t'.queue = t.queue

variable {p : Platform} {t t' : RouteTables} {s s' : RouteState}

theorem FreshTables.inService (h : FreshTables p t) : InService t where
  staffed := h.staffed
  idle := fun key agent hagent => (h.fresh key agent hagent).1
  noQueue := by
    intro deptId
    rw [h.declared]
    rfl

theorem InService.of_undisturbed (h : InService t) (hsame : Undisturbed t t') : InService t' := by
  obtain ⟨hagents, hqueue⟩ := hsame
  constructor
  · rw [hagents]
    exact h.staffed
  · rw [hagents]
    exact h.idle
  · rw [hqueue]
    exact h.noQueue

theorem InService.cleanup (h : InService t) (now : Int) : Undisturbed t (t.cleanup now) := by
  refine ⟨rfl, funext fun deptId => ?_⟩
  unfold RouteTables.cleanup
  dsimp only
  rw [h.noQueue]
  rfl

/-- A department that is known has idle agents. -/
theorem InService.countIdle (h : InService t) {deptId : CStr}
    (hdept : (department deptId).isSome) : 0 < countIdleAgents t.agents deptId := by
  obtain ⟨dept, hdept⟩ := Option.isSome_iff_exists.mp hdept
  obtain ⟨d, hd, rfl⟩ := Option.map_eq_some_iff.mp hdept
  have hmem := List.mem_of_find?_eq_some hd
  have hrange : ∀ d ∈ departments, d.2.rangeStart ≤ d.2.rangeEnd := by decide
  have hfirst : (t.agents.lookup (natText d.2.rangeStart)).isSome :=
    (h.staffed _).mpr ⟨d, hmem, d.2.rangeStart, le_refl _, hrange d hmem, rfl⟩
  obtain ⟨agent, hagent⟩ := Option.isSome_iff_exists.mp hfirst
  apply hasIdle_iff.mp
  refine ⟨agent, ?_, h.idle _ agent hagent⟩
  exact mem_getDeptAgents.mpr ⟨d.2, d.2.rangeStart, hdept, le_refl _, hrange d hmem, hagent⟩

theorem InService.online (h : InService t) {deptId : CStr} (hdept : (department deptId).isSome) :
    ¬ allOffline t.agents deptId := by
  rw [allOffline_iff]
  intro hoffline
  obtain ⟨agent, hmem, hidle⟩ := hasIdle_iff.mpr (h.countIdle hdept)
  cases hidle.symm.trans (hoffline agent hmem)

/-- An idle agent has this extension. -/
def RingsIdle (t : RouteTables) (target : CStr) : Prop :=
  ∃ agent, t.agents.lookup target = some agent ∧ agent.state = .idle

theorem ringsIdle_of_pick {deptId : CStr} {agent : Agent}
    (hpick : pickIdleAgent p t.agents deptId = some agent) : RingsIdle t agent.extension := by
  obtain ⟨hmem, hidle⟩ := pickIdleAgent_mem hpick
  obtain ⟨dept, ext, -, -, -, hlookup⟩ := mem_getDeptAgents.mp hmem
  refine ⟨agent, ?_, hidle⟩
  rw [t.agents.extension_eq _ _ hlookup]
  exact hlookup

theorem InService.supportTarget (h : InService t) : RingsIdle t (t.supportTarget p) := by
  have hsupport : (department (cstr "support")).isSome := by decide
  obtain ⟨agent, hpick⟩ :=
    Option.isSome_iff_exists.mp (pickIdleAgent_isSome p (h.countIdle hsupport))
  unfold RouteTables.supportTarget
  rw [hpick]
  exact ringsIdle_of_pick hpick

/-! ## Section 3: Answers -/

/-- Neither DEPT_FULL nor AGENT_OFFLINE nor QUEUED. -/
def servedResults : List RouteResult :=
  [.success, .invalidDigits, .fallbackAgent, .nightMode, .voicemail, .timeoutRetry,
    .invalidKeyRetry, .error]

/-- The codes of the answers, and whom they name. -/
structure Served (t : RouteTables) (a : Answer) : Prop where
  listed : a.code ∈ servedResults.map RouteResult.code
  voicemail : a.code = RouteResult.voicemail.code → department t.config.nightDutyDept = none
  rings : a.code = RouteResult.fallbackAgent.code ∨ a.code = RouteResult.nightMode.code →
    RingsIdle t a.target

/-- The result of a routing function in service. -/
def Serves (t : RouteTables) (r : Except LuaError Answer) (t' : RouteTables) : Prop :=
  (∀ a, r = .ok a → Served t a) ∧ Undisturbed t t'

/-- An answer that concerns neither agents nor queues. -/
theorem served_plain {a : Answer} (hcode : a.code ∈ [0, 1, 8, 9, 99]) : Served t a := by
  have hlisted : ∀ code ∈ [0, 1, 8, 9, 99], code ∈ servedResults.map RouteResult.code := by decide
  have hne : ∀ code : Int, code ∉ [0, 1, 8, 9, 99] → a.code ≠ code := fun code hcode' h =>
    hcode' (h ▸ hcode)
  constructor
  · exact hlisted _ hcode
  · intro h
    exact absurd h (hne 7 (by decide))
  · rintro (h | h)
    · exact absurd h (hne 4 (by decide))
    · exact absurd h (hne 6 (by decide))

/-- An answer that hands out an agent. -/
theorem served_rings {a : Answer} (hcode : a.code ∈ [0, 4, 6]) (hrings : RingsIdle t a.target) :
    Served t a := by
  have hlisted : ∀ code ∈ [0, 4, 6], code ∈ servedResults.map RouteResult.code := by decide
  constructor
  · exact hlisted _ hcode
  · intro h
    rw [h] at hcode
    exact absurd hcode (by decide)
  · exact fun _ => hrings

theorem served_voicemail {a : Answer} (hcode : a.code = 7)
    (hduty : department t.config.nightDutyDept = none) : Served t a := by
  constructor
  · rw [hcode]
    decide
  · exact fun _ => hduty
  · rw [hcode]
    rintro (h | h)
    · exact absurd h (by decide)
    · exact absurd h (by decide)

variable {r : Except LuaError Answer} {target : CStr}

theorem serves_plain {code : Int} (hcode : code ∈ [0, 1, 8, 9, 99]) (h : Answers r code target)
    (hsame : Undisturbed t t') : Serves t r t' := by
  refine ⟨?_, hsame⟩
  rintro a rfl
  obtain ⟨_, ⟨⟩, rfl, -⟩ := h
  exact served_plain hcode

theorem serves_rings {code : Int} (hcode : code ∈ [0, 4, 6]) (h : Answers r code target)
    (hrings : RingsIdle t target) (hsame : Undisturbed t t') : Serves t r t' := by
  refine ⟨?_, hsame⟩
  rintro a rfl
  obtain ⟨_, ⟨⟩, rfl, rfl⟩ := h
  exact served_rings hcode hrings

theorem serves_error {e : LuaError} (hsame : Undisturbed t t') : Serves t (.error e) t' :=
  ⟨nofun, hsame⟩

theorem serves_answersWith {v : LuaNumber} {code : Int} (hcode : code ∈ [0, 1, 8, 9, 99])
    (h : AnswersWith v r code target) (hsame : Undisturbed t t') : Serves t r t' := by
  unfold AnswersWith at h
  cases hv : v.toInteger? with
  | some n =>
    rw [hv] at h
    exact serves_plain hcode h hsame
  | none =>
    rw [hv] at h
    subst h
    exact serves_error hsame

/-! ### Decisions -/

/-- The decisions of a script in service. -/
def Decision.Usual (p : Platform) (t : RouteTables) : Decision → Prop
  | .nightAgent agent => pickIdleAgent p t.agents t.config.nightDutyDept = some agent
  | .nightVoicemail => department t.config.nightDutyDept = none
  | .nightFallback | .offline | .overflowTo _ | .queued _ | .queueFull _ => False
  | _ => True

theorem InService.nightDecision (h : InService t) : (nightDecision p t).Usual p t := by
  unfold Route.nightDecision
  cases hdept : department t.config.nightDutyDept with
  | none =>
    have hnone : getDeptAgents t.agents t.config.nightDutyDept = [] := by
      unfold getDeptAgents
      rw [hdept]
    rw [hnone]
    exact hdept
  | some dept =>
    have hsome : (department t.config.nightDutyDept).isSome := by rw [hdept]; rfl
    obtain ⟨agent, hpick⟩ :=
      Option.isSome_iff_exists.mp (pickIdleAgent_isSome p (h.countIdle hsome))
    obtain ⟨hmem, hidle⟩ := pickIdleAgent_mem hpick
    have hduty : (getDeptAgents t.agents t.config.nightDutyDept).any
        (fun a => a.state = .idle || a.state = .talking) = true := by
      rw [List.any_eq_true]
      exact ⟨agent, hmem, by simp [hidle]⟩
    rw [if_pos hduty, hpick]
    exact hpick

theorem InService.ivrDecision (h : InService t) (now : Int) (callerId digits : Option CStr) :
    (ivrDecision t now callerId digits).Usual p t := by
  unfold Route.ivrDecision
  split
  · split <;> trivial
  · split
    · split <;> trivial
    · next deptKey hmap =>
      obtain ⟨dept, hdept, -⟩ := ivrMap_department hmap
      have hsome : (department deptKey).isSome := by rw [hdept]; rfl
      rw [if_neg (h.online hsome), if_neg (h.countIdle hsome).ne']
      trivial

theorem InService.callDecision (h : InService t) (hs : s.tables = t) (now : Int)
    (callerId digits : Option CStr) : (callDecision p s now callerId digits).Usual p t := by
  unfold Route.callDecision decision
  rw [hs]
  split
  · trivial
  · exact h.nightDecision
  · exact h.ivrDecision now callerId digits

theorem serves_nightAnswers {code : Int} (h : NightAnswers p t r code target)
    (hanswer : Answers r code target → Serves t r t) : Serves t r t := by
  rcases h with h | ⟨e, -, rfl⟩
  · exact hanswer h
  · exact serves_error ⟨rfl, rfl⟩

/-- A usual decision leads to an answer of service. -/
theorem Decision.Usual.serves (h : InService t) {d : Decision} (hd : d.Usual p t) {now : Int}
    {callerId : Option CStr} (hfollows : Follows p t now callerId d r t') : Serves t r t' := by
  cases d with
  | clockError e =>
    obtain ⟨rfl, rfl⟩ := hfollows
    exact serves_error ⟨rfl, rfl⟩
  | nightAgent agent =>
    obtain ⟨hnight, rfl⟩ := hfollows
    exact serves_nightAnswers hnight fun hanswer =>
      serves_rings (by decide) hanswer (ringsIdle_of_pick hd) ⟨rfl, rfl⟩
  | nightVoicemail =>
    obtain ⟨hnight, rfl⟩ := hfollows
    apply serves_nightAnswers hnight
    rintro ⟨_, rfl, hcode, -⟩
    refine ⟨?_, rfl, rfl⟩
    rintro a ⟨⟩
    exact served_voicemail hcode hd
  | timeoutRetry =>
    obtain ⟨hanswer, rfl⟩ := hfollows
    exact serves_answersWith (by decide) hanswer ⟨rfl, rfl⟩
  | timeoutEscalation =>
    obtain ⟨hanswer, rfl⟩ := hfollows
    exact serves_rings (by decide) hanswer h.supportTarget ⟨rfl, rfl⟩
  | keyRetry =>
    obtain ⟨hanswer, rfl⟩ := hfollows
    exact serves_answersWith (by decide) hanswer ⟨rfl, rfl⟩
  | keyEscalation =>
    obtain ⟨hanswer, rfl⟩ := hfollows
    exact serves_rings (by decide) hanswer h.supportTarget ⟨rfl, rfl⟩
  | agentOf deptKey =>
    obtain ⟨⟨agent, hpick, hanswer⟩, rfl⟩ := hfollows
    exact serves_rings (by decide) hanswer (ringsIdle_of_pick hpick) (h.cleanup now)
  | nightFallback | offline | overflowTo | queued | queueFull => exact hd.elim

/-! ## Section 4: The interfaces in service -/

section Calls

variable (h : InService s.tables)
include h

theorem getIvrRoute_serves (phone keyInput : Option CStr) :
    Runs (getIvrRoute p phone keyInput) s fun r s' => Serves s.tables r s'.tables :=
  Runs.mono (getIvrRoute_follows phone keyInput rfl) fun _ _ hfollows =>
    (h.ivrDecision _ phone keyInput).serves h hfollows

theorem checkAgentStatusNil_serves :
    Runs (checkAgentStatusNil p) s fun r s' => Serves s.tables r s'.tables := by
  unfold checkAgentStatusNil
  apply Runs.bind_ok (outcome_queueCleanup p s)
  exact Runs.of_eq rfl (serves_plain (by decide) (answers_makeResponse 99 _ _ _) (h.cleanup _))

theorem checkAgentStatus_serves (deptId : CStr) :
    Runs (checkAgentStatus p deptId) s fun r s' => Serves s.tables r s'.tables := by
  cases hdept : department deptId with
  | none =>
    unfold checkAgentStatus
    apply Runs.bind_ok (outcome_queueCleanup p s)
    rw [hdept]
    exact Runs.of_eq rfl (serves_plain (by decide) (answers_makeResponse 99 _ _ _) (h.cleanup _))
  | some dept =>
    have hsome : (department deptId).isSome := by rw [hdept]; rfl
    apply Runs.mono (checkAgentStatus_runs p s hdept)
    rintro r s' ⟨a, rfl, hcode, htables⟩
    unfold statusCode at hcode
    rw [if_neg (h.online hsome), if_neg (h.countIdle hsome).ne'] at hcode
    rw [htables]
    exact serves_plain (by decide) ⟨a, rfl, hcode, rfl⟩ (h.cleanup _)

/-- The first strategy is enough. -/
theorem overflowRoute_serves (deptId : CStr) (callerId : Option CStr) :
    Runs (overflowRoute p deptId callerId) s fun r s' => Serves s.tables r s'.tables := by
  have hsupport : (department (cstr "support")).isSome := by decide
  apply Runs.mono (overflowRoute_support p s callerId (h.countIdle hsupport))
  rintro r s' ⟨⟨agent, hpick, hanswer⟩, htables⟩
  rw [htables]
  exact serves_rings (by decide) hanswer (ringsIdle_of_pick hpick) ⟨rfl, rfl⟩

theorem overflowRouteNil_serves (callerId : Option CStr) :
    Runs (overflowRouteNil p callerId) s fun r s' => Serves s.tables r s'.tables := by
  have hsupport : 0 < countIdleAgents s.tables.agents (cstr "support") := h.countIdle (by decide)
  obtain ⟨agent, hpick⟩ := Option.isSome_iff_exists.mp (pickIdleAgent_isSome p hsupport)
  unfold overflowRouteNil
  apply Runs.bind_ok (outcome_logCall p s _ _ _ _)
  apply Runs.bind_ok (outcome_getTables _)
  rw [logged_tables]
  apply Runs.if_pos hsupport
  rw [hpick]
  exact Runs.of_eq rfl (serves_rings (by decide) (answers_makeResponse _ _ _ _)
    (ringsIdle_of_pick hpick) ⟨rfl, rfl⟩)

theorem timeJudgeRoute_serves :
    Runs (timeJudgeRoute p) s fun r s' => Serves s.tables r s'.tables := by
  apply Runs.mono (timeJudgeRoute_runs rfl)
  rintro r s' ⟨htables, hjudged⟩
  rw [htables]
  cases hwork : workTimeAt s.tables (p.date (p.clock s.reads)) with
  | error e =>
    rw [hwork] at hjudged
    subst hjudged
    exact serves_error ⟨rfl, rfl⟩
  | ok work =>
    rw [hwork] at hjudged
    cases work with
    | true => exact serves_plain (by decide) hjudged ⟨rfl, rfl⟩
    | false => exact h.nightDecision.serves h (hjudged.follows 0 none)

theorem invalidKeyFallback_serves (callerId keyInput : Option CStr) :
    Runs (invalidKeyFallback p callerId keyInput) s fun r s' => Serves s.tables r s'.tables := by
  apply Runs.mono (invalidKeyFallback_follows 0 callerId keyInput rfl)
  intro r s' hfollows
  apply Decision.Usual.serves h ?_ hfollows
  split <;> trivial

theorem timeoutFallback_serves (callerId : Option CStr) :
    Runs (timeoutFallback p callerId) s fun r s' => Serves s.tables r s'.tables := by
  apply Runs.mono (timeoutFallback_follows 0 callerId rfl)
  intro r s' hfollows
  apply Decision.Usual.serves h ?_ hfollows
  split <;> trivial

/-- The answer to an internal call is SUCCESS or INVALID_DIGITS. -/
theorem deptInternalCallRoute_serves (caller callee : Option CStr) :
    Runs (deptInternalCallRoute p caller callee) s fun r s' => Serves s.tables r s'.tables := by
  have hsame : Undisturbed s.tables
      (outcome (deptInternalCallRoute p caller callee) s).2.tables := by
    rw [(deptInternalCallRoute_observes p caller callee s).1]
    exact ⟨rfl, rfl⟩
  refine ⟨fun a ha => served_plain ?_, hsame⟩
  cases callee with
  | none => cases ha
  | some callee =>
    cases caller with
    | none => cases ha
    | some caller =>
      by_cases hrefused : findDepartment caller = none ∨ findDepartment callee = none
      · obtain ⟨b, s', hrun, hcode⟩ := deptInternalCallRoute_refused p s hrefused
        rw [hrun] at ha
        obtain rfl := Except.ok.inj ha
        rw [hcode]
        decide
      · obtain ⟨hfrom, hto⟩ := not_or.mp hrefused
        obtain ⟨callerDept, hcaller⟩ := Option.ne_none_iff_exists'.mp hfrom
        obtain ⟨calleeDept, hcallee⟩ := Option.ne_none_iff_exists'.mp hto
        obtain ⟨b, s', hrun, -, hcode⟩ := deptInternalCallRoute_found p s hcaller hcallee
        rw [hrun] at ha
        obtain rfl := Except.ok.inj ha
        -- a callee without an agent is put through as well
        have hzero : b.code = 0 := by
          apply hcode.mpr
          cases hagent : s.tables.agents.lookup callee with
          | none => exact ⟨nofun, nofun⟩
          | some agent => simp [h.idle callee agent hagent]
        rw [hzero]
        decide

theorem routeCall_serves (callerId digits : Option CStr) :
    Runs (routeCall p callerId digits) s fun r s' => Serves s.tables r s'.tables := by
  by_cases hexternal : isExternalCaller callerId = true
  · apply Runs.mono (routeCall_follows hexternal digits s)
    rintro r s' ⟨now, -, hfollows⟩
    exact (h.callDecision rfl now callerId digits).serves h hfollows
  · unfold routeCall
    exact Runs.if_neg hexternal (deptInternalCallRoute_serves h callerId digits)

/-- **A routing call** in service. -/
theorem routingCall_serves (call : RoutingCall) :
    Runs (call.program p) s fun r s' => Serves s.tables r s'.tables := by
  cases call with
  | getIvrRoute phone keyInput => exact getIvrRoute_serves h phone keyInput
  | checkAgentStatus deptId =>
    cases deptId with
    | none => exact checkAgentStatusNil_serves h
    | some deptId => exact checkAgentStatus_serves h deptId
  | overflowRoute deptId callerId =>
    cases deptId with
    | none => exact overflowRouteNil_serves h callerId
    | some deptId => exact overflowRoute_serves h deptId callerId
  | timeJudgeRoute => exact timeJudgeRoute_serves h
  | invalidKeyFallback callerId keyInput => exact invalidKeyFallback_serves h callerId keyInput
  | timeoutFallback callerId => exact timeoutFallback_serves h callerId
  | deptInternalCallRoute caller callee => exact deptInternalCallRoute_serves h caller callee
  | routeCall callerId digits => exact routeCall_serves h callerId digits

end Calls

/-! ## Section 5: Runs -/

theorem getWorkTimeStatus_tables (p : Platform) (s : RouteState) :
    Runs (getWorkTimeStatus p) s fun _ s' => s'.tables = s.tables := by
  unfold getWorkTimeStatus
  apply Runs.bind_ok (outcome_osDate p s)
  apply Runs.bind (isWorkTime_runs p _)
  · rintro work s₁ ⟨hsame, -⟩
    apply Runs.bind (getTimeDescription_runs p s₁)
    · rintro desc s₂ ⟨hsame', -⟩
      exact Runs.of_eq rfl (hsame'.trans hsame)
    · rintro e s₂ ⟨hsame', -⟩
      exact hsame'.trans hsame
  · rintro e s₁ ⟨hsame, -⟩
    exact hsame

/-- Only a load makes new agents. -/
theorem scriptStep_undisturbed (h : InService s.tables) {call : ScriptCall}
    (hcall : call ≠ .reload) : Undisturbed s.tables (scriptStep p s call).tables := by
  cases call with
  | routing call => exact (routingCall_serves h call).2
  | workTimeStatus =>
    have hsame := getWorkTimeStatus_tables p s
    unfold Runs at hsame
    unfold scriptStep
    rw [hsame]
    exact ⟨rfl, rfl⟩
  | updateConfig u => cases u <;> exact ⟨rfl, rfl⟩
  | departmentInfo deptKey => cases deptKey <;> exact ⟨rfl, rfl⟩
  | resetKeys callerId => cases callerId <;> exact ⟨rfl, rfl⟩
  | reload => exact absurd rfl hcall
  | _ => exact ⟨rfl, rfl⟩

theorem scriptStep_inService (h : InService s.tables) (call : ScriptCall) :
    InService (scriptStep p s call).tables := by
  by_cases hcall : call = .reload
  · subst hcall
    unfold scriptStep
    rw [routeScript_outcome]
    exact (loadedState_fresh p s.reads).inService
  · exact h.of_undisturbed (scriptStep_undisturbed h hcall)

theorem shipped_run {reads : Nat} {calls : List ScriptCall}
    (hrun : Run (ofFun (scriptStep p)) (loadedState p reads) calls s) : InService s.tables := by
  have hinit : InService (loadedState p reads).tables := (loadedState_fresh p reads).inService
  induction hrun with
  | nil => exact hinit
  | snoc _ hstep ih =>
    rw [← hstep]
    exact scriptStep_inService ih _

/-- **In service**: after any calls, no answer says that a department is busy
    or offline or that the caller was queued, nobody waits in a queue, and
    whoever is to be rung is an idle agent.  Voicemail takes a department on
    duty that does not exist. -/
theorem shipped_answers {reads : Nat} {calls : List ScriptCall}
    (hrun : Run (ofFun (scriptStep p)) (loadedState p reads) calls s) (call : RoutingCall) :
    (∀ deptId, s.tables.queue deptId = none) ∧
      ∀ a, (outcome (call.program p) s).1 = .ok a → Served s.tables a :=
  ⟨(shipped_run hrun).noQueue, (routingCall_serves (shipped_run hrun) call).1⟩

/-- An overflow on a Sunday night, after a reload. -/
theorem shipped_answers_sunday :
    ∃ a, (outcome (overflowRoute sundayNight (cstr "sales") none)
        (scriptStep sundayNight (loadedState sundayNight 0) .reload)).1 = .ok a ∧
      Served (scriptStep sundayNight (loadedState sundayNight 0) .reload).tables a := by
  have hrun : Run (ofFun (scriptStep sundayNight)) (loadedState sundayNight 0) [.reload]
      (scriptStep sundayNight (loadedState sundayNight 0) .reload) := Run.single rfl
  have hsupport : (department (cstr "support")).isSome := by decide
  have hidle := (shipped_run hrun).countIdle hsupport
  obtain ⟨⟨agent, -, a, ha, -⟩, -⟩ :=
    @overflowRoute_support sundayNight _ (cstr "sales") none hidle
  exact ⟨a, ha, (shipped_answers hrun (.overflowRoute (some (cstr "sales")) none)).2 a ha⟩

/-! ## Section 6: The same agent -/

theorem agentOf_ivrMap {now : Int} {callerId digits : Option CStr} {deptKey : CStr}
    (h : callDecision p s now callerId digits = .agentOf deptKey) :
    ivrMap (digits.getD []) = some deptKey := by
  unfold callDecision decision at h
  split at h
  · cases h
  · rcases nightDecision_cases p s.tables with ⟨agent, hnight⟩ | hnight | hnight
    · cases hnight.symm.trans h
    · cases hnight.symm.trans h
    · cases hnight.symm.trans h
  · unfold ivrDecision at h
    split at h
    · split at h <;> cases h
    · split at h
      · split at h <;> cases h
      · next deptKey' hmap =>
        rw [hmap]
        split at h
        · cases h
        · split at h
          · unfold overflowDecision at h
            split at h
            · cases h
            · split at h
              · cases h
              · split at h <;> cases h
          · exact congrArg some (Decision.agentOf.inj h)

/-- The code that an answer has by the decision. -/
theorem Answers.code_eq {a : Answer} {code : Int} (h : Answers (.ok a) code target) :
    a.code = code := by
  obtain ⟨_, ⟨⟩, hcode, -⟩ := h
  exact hcode

theorem AnswersWith.code_eq {v : LuaNumber} {a : Answer} {code : Int}
    (h : AnswersWith v (.ok a) code target) : a.code = code := by
  unfold AnswersWith at h
  split at h
  · exact Answers.code_eq h
  · cases h

theorem NightAnswers.code_eq {a : Answer} {code : Int}
    (h : NightAnswers p t (.ok a) code target) : a.code = code := by
  rcases h with h | ⟨e, -, h⟩
  · exact Answers.code_eq h
  · cases h

/-- A usual decision that ends in SUCCESS. -/
theorem Decision.Usual.success {d : Decision} (hd : d.Usual p t) {now : Int}
    {callerId : Option CStr} {a : Answer} (hfollows : Follows p t now callerId d (.ok a) t')
    (hcode : a.code = 0) :
    ∃ deptKey agent, d = .agentOf deptKey ∧ pickIdleAgent p t.agents deptKey = some agent ∧
      a.target = agent.extension := by
  cases d with
  | clockError e => cases hfollows.1
  | nightAgent agent => cases hcode.symm.trans (NightAnswers.code_eq hfollows.1)
  | nightVoicemail => cases hcode.symm.trans (NightAnswers.code_eq hfollows.1)
  | timeoutRetry => cases hcode.symm.trans (AnswersWith.code_eq hfollows.1)
  | timeoutEscalation => cases hcode.symm.trans (Answers.code_eq hfollows.1)
  | keyRetry => cases hcode.symm.trans (AnswersWith.code_eq hfollows.1)
  | keyEscalation => cases hcode.symm.trans (Answers.code_eq hfollows.1)
  | agentOf deptKey =>
    obtain ⟨⟨agent, hpick, _, ⟨⟩, -, htarget⟩, -⟩ := hfollows
    exact ⟨deptKey, agent, rfl, hpick, htarget⟩
  | nightFallback | offline | overflowTo | queued | queueFull => exact hd.elim

/-- A call from outside that is put through goes to the agent that is picked
    in the department of the key. -/
theorem routeCall_success {callerId : Option CStr} (hexternal : isExternalCaller callerId = true)
    (h : InService s.tables) {digits : Option CStr} {a : Answer}
    (ha : (outcome (routeCall p callerId digits) s).1 = .ok a)
    (hcode : a.code = RouteResult.success.code) :
    ∃ deptKey agent, ivrMap (digits.getD []) = some deptKey ∧
      pickIdleAgent p s.tables.agents deptKey = some agent ∧ a.target = agent.extension := by
  obtain ⟨now, -, hfollows⟩ := routeCall_follows (p := p) hexternal digits s
  rw [ha] at hfollows
  obtain ⟨deptKey, agent, hdecision, hpick, htarget⟩ :=
    (h.callDecision (p := p) rfl now callerId digits).success hfollows hcode
  exact ⟨deptKey, agent, agentOf_ivrMap hdecision, hpick, htarget⟩

theorem agents_run {calls : List ScriptCall} (h : InService s.tables)
    (hrun : Run (restrict (ofFun (scriptStep p)) fun _ call => call ≠ .reload) s calls s') :
    InService s'.tables ∧ s'.tables.agents = s.tables.agents := by
  induction hrun with
  | nil => exact ⟨h, rfl⟩
  | snoc _ hstep ih =>
    obtain ⟨hcall, rfl⟩ := hstep
    have hsame := scriptStep_undisturbed (p := p) ih.1 hcall
    exact ⟨ih.1.of_undisturbed hsame, hsame.1.trans ih.2⟩

/-- **One agent for all**: between two loads, all callers from outside whose
    key puts them through to the same department get the same agent, whatever
    happens between their calls. -/
theorem same_agent {reads : Nat} {before between : List ScriptCall}
    (hbefore : Run (ofFun (scriptStep p)) (loadedState p reads) before s)
    (hbetween : Run (restrict (ofFun (scriptStep p)) fun _ call => call ≠ .reload) s between s')
    {caller caller' digits digits' : Option CStr} (hcaller : isExternalCaller caller = true)
    (hcaller' : isExternalCaller caller' = true)
    (hdept : ivrMap (digits'.getD []) = ivrMap (digits.getD [])) {a a' : Answer}
    (ha : (outcome (routeCall p caller digits) s).1 = .ok a)
    (ha' : (outcome (routeCall p caller' digits') s').1 = .ok a')
    (hcode : a.code = RouteResult.success.code) (hcode' : a'.code = RouteResult.success.code) :
    a'.target = a.target := by
  have h := shipped_run hbefore
  obtain ⟨h', hagents⟩ := agents_run h hbetween
  obtain ⟨deptKey, agent, hkey, hpick, htarget⟩ := routeCall_success hcaller h ha hcode
  obtain ⟨deptKey', agent', hkey', hpick', htarget'⟩ := routeCall_success hcaller' h' ha' hcode'
  obtain rfl : deptKey = deptKey' := Option.some.inj (hkey.symm.trans (hdept.symm.trans hkey'))
  rw [hagents, hpick] at hpick'
  rw [htarget, htarget', Option.some.inj hpick']

/-- A call that is put through on a Monday morning. -/
theorem AllIdle.answers (h : AllIdle s.tables) {callerId key deptKey : CStr}
    (hexternal : isExternalCaller (some callerId) = true) (hkey : key ≠ [])
    (hmap : ivrMap key = some deptKey) :
    ∃ a, (outcome (routeCall mondayMorning (some callerId) (some key)) s).1 = .ok a ∧
      a.code = RouteResult.success.code ∧
        AllIdle (outcome (routeCall mondayMorning (some callerId) (some key)) s).2.tables := by
  obtain ⟨now, -, hfollows⟩ := routeCall_follows (p := mondayMorning) hexternal (some key) s
  rw [h.callDecision now (some callerId) hkey hmap] at hfollows
  obtain ⟨⟨agent, -, a, ha, hcode, -⟩, htables⟩ := hfollows
  refine ⟨a, ha, hcode, ?_⟩
  rw [htables]
  exact h.cleanup now

/-- Two callers to sales on a Monday morning. -/
theorem same_agent_sales :
    ∃ a a', (outcome (routeCall mondayMorning (some (cstr "4001")) (some (cstr "1")))
        (loadedState mondayMorning 0)).1 = .ok a ∧
      (outcome (routeCall mondayMorning (some (cstr "4002")) (some (cstr "1")))
        (outcome (routeCall mondayMorning (some (cstr "4001")) (some (cstr "1")))
          (loadedState mondayMorning 0)).2).1 = .ok a' ∧ a'.target = a.target := by
  have hsales : ivrMap (cstr "1") = some (cstr "sales") := by decide
  have hone : isExternalCaller (some (cstr "4001")) = true := by decide
  have htwo : isExternalCaller (some (cstr "4002")) = true := by decide
  have hkey : cstr "1" ≠ [] := by decide
  have hfresh := (loadedState_fresh mondayMorning 0).allIdle
  obtain ⟨a, ha, hcode, hidle⟩ := hfresh.answers hone hkey hsales
  obtain ⟨a', ha', hcode', -⟩ := hidle.answers htwo hkey hsales
  have hbetween : Run (restrict (ofFun (scriptStep mondayMorning)) fun _ call => call ≠ .reload)
      (loadedState mondayMorning 0)
      [.routing (.routeCall (some (cstr "4001")) (some (cstr "1")))]
      (outcome (routeCall mondayMorning (some (cstr "4001")) (some (cstr "1")))
        (loadedState mondayMorning 0)).2 :=
    Run.single ⟨nofun, scriptStep_routeCall _ _ _ _⟩
  exact ⟨a, a', ha, ha',
    same_agent (Run.nil _) hbetween hone htwo rfl ha ha' hcode hcode'⟩

end Route
