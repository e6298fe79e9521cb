import CallCenter.Route.Repetition
import CallCenter.Route.Loading

/-! # Policies for Overflow and Night

    What the routing functions promise about a department, and when they keep
    the promise.

    * Section 1: an error of `overflow_route` and the queues
      (`overflow_error_iff`).
    * Section 2: the department on duty at night (`night_policy_iff`). -/

namespace Route

open CFormat Lua Script

/-! ## Section 1: Errors after the push -/

/-- The agents of a table, all in one state. -/
def AgentTable.withState (agents : AgentTable) (state : AgentState) : AgentTable where
  lookup := fun extension => (agents.lookup extension).map fun a => { a with state := state }
  extension_eq := by
    intro extension agent h
    obtain ⟨a, ha, rfl⟩ := Option.map_eq_some_iff.mp h
    exact agents.extension_eq extension a ha

theorem getDeptAgents_withState (agents : AgentTable) (state : AgentState) (deptId : CStr) :
    getDeptAgents (agents.withState state) deptId =
      (getDeptAgents agents deptId).map fun a => { a with state := state } := by
  unfold getDeptAgents
  split
  · rfl
  · rw [List.map_filterMap]
    rfl

theorem countIdleAgents_busy (agents : AgentTable) (deptId : CStr) :
    countIdleAgents (agents.withState .busy) deptId = 0 := by
  unfold countIdleAgents
  rw [getDeptAgents_withState, List.countP_map, List.countP_eq_zero]
  intro a _
  simp

/-- Every agent has left the desk after a load. -/
def busyState (p : Platform) : RouteState :=
  let s := loadedState p 0
  s.withTables (s.tables.withAgents (s.tables.agents.withState .busy))

theorem busyState_tables (p : Platform) :
    (busyState p).tables = RouteTables.declared.withAgents (busyState p).tables.agents := by
  show (loadedState p 0).tables.withAgents _ = _
  rw [(loadedState_fresh p 0).declared]
  rfl

/-- The caller is put into the queue before an error. -/
def StrandsCaller (t : RouteTables) (deptId : CStr) : Prop :=
  countIdleAgents t.agents (cstr "support") = 0 ∧ findOverflowDept t deptId = none ∧
    t.queueFull deptId = false ∧
      (department deptId = none ∨ t.config.maxQueueSize.toInteger? = none)

theorem enqueue_queue_ne (t : RouteTables) (deptId : CStr) (entry : QueueEntry) :
    (t.enqueue deptId entry).queue ≠ t.queue := by
  intro heq
  have hself := congrFun heq deptId
  rw [RouteTables.enqueue, setQueue_self] at hself
  have hlen := congrArg (fun q => (q.getD []).length) hself
  simp at hlen

/-- What an error must not do. -/
def AnswersOrKeeps (t : RouteTables) (r : Except LuaError Answer) (t' : RouteTables) : Prop :=
  (∃ a, r = .ok a) ∨ t'.queue = t.queue

section Errors

variable {p : Platform} {s : RouteState} {deptId : CStr} {callerId : Option CStr}

theorem overflowRoute_strands (h : StrandsCaller s.tables deptId) :
    Runs (overflowRoute p deptId callerId) s fun r s' =>
      ¬ AnswersOrKeeps s.tables r s'.tables := by
  obtain ⟨hsupport, hfind, hroom, hlate⟩ := h
  apply overflowRoute_queue p s callerId (by omega) hfind
  intro s₁ hs₁
  have hroom' : s₁.tables.queueFull deptId ≠ true := by rw [hs₁, hroom]; nofun
  cases hdept : department deptId with
  | none =>
    apply Runs.mono (enqueueOrVoicemail_unknown p s₁ _ hdept hroom')
    rintro r s' ⟨hr, arrival, -, htables⟩ (⟨a, ha⟩ | hqueue)
    · rw [hr] at ha
      cases ha
    · rw [htables, hs₁] at hqueue
      exact enqueue_queue_ne _ _ _ hqueue
  | some dept =>
    have hnumber : s₁.tables.config.maxQueueSize.toInteger? = none := by
      rw [hs₁]
      rcases hlate with hnone | hnumber
      · rw [hdept] at hnone
        cases hnone
      · exact hnumber
    apply Runs.mono (enqueueOrVoicemail_room p s₁ _ hdept hroom')
    rintro r s' ⟨hanswer, arrival, -, htables⟩ (⟨a, ha⟩ | hqueue)
    · unfold AnswersWith at hanswer
      rw [hnumber] at hanswer
      rw [show r = _ from hanswer] at ha
      cases ha
    · rw [htables, hs₁] at hqueue
      exact enqueue_queue_ne _ _ _ hqueue

theorem overflowRoute_keeps (h : ¬ StrandsCaller s.tables deptId) :
    Runs (overflowRoute p deptId callerId) s fun r s' =>
      AnswersOrKeeps s.tables r s'.tables := by
  by_cases hsupport : 0 < countIdleAgents s.tables.agents (cstr "support")
  · apply Runs.mono (overflowRoute_support p s callerId hsupport)
    rintro r s' ⟨⟨agent, -, hanswer⟩, -⟩
    exact Or.inl hanswer.ok
  · cases hfind : findOverflowDept s.tables deptId with
    | some found =>
      apply Runs.mono (overflowRoute_other p s callerId hsupport hfind)
      rintro r s' ⟨⟨agent, -, hanswer⟩, -⟩
      exact Or.inl hanswer.ok
    | none =>
      apply overflowRoute_queue p s callerId hsupport hfind
      intro s₁ hs₁
      cases hfull : s.tables.queueFull deptId with
      | true =>
        rw [← hs₁] at hfull
        apply Runs.mono (enqueueOrVoicemail_full p s₁ _ hfull)
        rintro r s' ⟨hanswer, -⟩
        exact Or.inl hanswer.ok
      | false =>
        -- a known department and a number that can be shown
        have hlate : ¬ (department deptId = none ∨
            s.tables.config.maxQueueSize.toInteger? = none) :=
          fun hlate => h ⟨by omega, hfind, hfull, hlate⟩
        have hnumber : ∃ n, s₁.tables.config.maxQueueSize.toInteger? = some n := by
          rw [hs₁]
          exact Option.ne_none_iff_exists'.mp fun hnone => hlate (Or.inr hnone)
        obtain ⟨n, hn⟩ := hnumber
        obtain ⟨dept, hdept⟩ :=
          Option.ne_none_iff_exists'.mp fun hnone => hlate (Or.inl hnone)
        have hroom : s₁.tables.queueFull deptId ≠ true := by rw [hs₁, hfull]; nofun
        apply Runs.mono (enqueueOrVoicemail_room p s₁ _ hdept hroom)
        rintro r s' ⟨hanswer, -⟩
        unfold AnswersWith at hanswer
        rw [hn] at hanswer
        exact Or.inl hanswer.ok

end Errors

/-- **Errors of `overflow_route`**: an error leaves the queues as they were,
    except exactly where the caller is queued and the answer cannot be made. -/
theorem overflow_error_iff (p : Platform) (s : RouteState) (deptId : CStr)
    (callerId : Option CStr) :
    AnswersOrKeeps s.tables (outcome (overflowRoute p deptId callerId) s).1
        (outcome (overflowRoute p deptId callerId) s).2.tables ↔
      ¬ StrandsCaller s.tables deptId := by
  constructor
  · intro h hstrands
    exact overflowRoute_strands hstrands h
  · exact overflowRoute_keeps

/-- All agents are busy, and the department is not known. -/
theorem overflow_strands_caller :
    ¬ ∀ (p : Platform) (s : RouteState) (deptId : CStr) (callerId : Option CStr),
      AnswersOrKeeps s.tables (outcome (overflowRoute p deptId callerId) s).1
        (outcome (overflowRoute p deptId callerId) s).2.tables := by
  intro h
  have hidle : ∀ key, countIdleAgents (busyState mondayMorning).tables.agents key = 0 :=
    countIdleAgents_busy _
  have hstrands : StrandsCaller (busyState mondayMorning).tables (cstr "x") := by
    refine ⟨hidle _, ?_, ?_, Or.inl (by decide +kernel)⟩
    · cases hfind : findOverflowDept (busyState mondayMorning).tables (cstr "x") with
      | none => rfl
      | some found =>
        obtain ⟨-, hcount, -⟩ := findOverflowDept_some hfind
        rw [hidle] at hcount
        cases hcount
    · rw [busyState_tables]
      decide +kernel
  exact overflowRoute_strands hstrands (h mondayMorning _ _ none)

/-! ## Section 2: The department on duty -/

def HasIdle (agents : AgentTable) (deptId : CStr) : Prop :=
  ∃ agent ∈ getDeptAgents agents deptId, agent.state = .idle

def DeptOffline (agents : AgentTable) (deptId : CStr) : Prop :=
  ∀ agent ∈ getDeptAgents agents deptId, agent.state = .offline

theorem allOffline_iff {agents : AgentTable} {deptId : CStr} :
    allOffline agents deptId ↔ DeptOffline agents deptId := by
  have hle : (getDeptAgents agents deptId).countP (fun a => a.state = .offline) ≤
      (getDeptAgents agents deptId).length := List.countP_le_length
  unfold allOffline DeptOffline
  rw [Nat.sub_eq_zero_iff_le]
  constructor
  · intro h
    simpa using List.countP_eq_length.mp (Nat.le_antisymm hle h)
  · intro h
    exact (List.countP_eq_length.mpr (by simpa using h)).ge

theorem hasIdle_iff {agents : AgentTable} {deptId : CStr} :
    HasIdle agents deptId ↔ 0 < countIdleAgents agents deptId := by
  unfold HasIdle countIdleAgents
  rw [List.countP_pos_iff]
  simp

theorem checkAgentStatus_unknown (p : Platform) (s : RouteState) {deptId : CStr}
    (hdept : department deptId = none) :
    resultCode (outcome (checkAgentStatus p deptId) s).1 = some 99 := by
  unfold checkAgentStatus
  rw [outcome_bind_ok (outcome_queueCleanup p s), hdept]
  rfl

/-- `check_agent_status` answers 3 exactly if the department is known and all
    its agents are offline. -/
theorem checkAgentStatus_offline (p : Platform) (s : RouteState) (deptId : CStr) :
    resultCode (outcome (checkAgentStatus p deptId) s).1 = some 3 ↔
      (department deptId).isSome ∧ allOffline s.tables.agents deptId := by
  cases hdept : department deptId with
  | none =>
    rw [checkAgentStatus_unknown p s hdept]
    simp
  | some dept =>
    obtain ⟨a, ha, hcode, -⟩ := checkAgentStatus_runs p s hdept
    rw [ha]
    show some a.code = some 3 ↔ _
    rw [hcode]
    unfold statusCode
    by_cases hoffline : allOffline s.tables.agents deptId
    · simp [hoffline]
    · by_cases hidle : countIdleAgents s.tables.agents deptId = 0
      · simp [hoffline, hidle]
      · simp [hoffline, hidle]

section Night

variable (p : Platform) (t : RouteTables) (s : RouteState)

/-- Every agent of the department on duty at night is offline. -/
def RouteTables.DutyOffline : Prop := DeptOffline t.agents t.config.nightDutyDept

/-- Whom the call is given to: an idle agent on duty, or else the fallback
    number. -/
def NightTarget (target : CStr) : Prop :=
  (∃ agent ∈ getDeptAgents t.agents t.config.nightDutyDept,
    agent.state = .idle ∧ target = agent.extension) ∨
  ¬ HasIdle t.agents t.config.nightDutyDept ∧ target = t.config.fallbackAgent

structure NightAnswered (a : Answer) : Prop where
  voicemail : a.code = 7 ↔ t.DutyOffline
  night : ¬ t.DutyOffline → a.code = 6 ∧ NightTarget t a.target

/-- The policy for the night: voicemail if the department on duty is offline,
    as `check_agent_status` says it, and the night mode else. -/
def NightPolicy : Prop :=
  (∃ a, (outcome (timeJudgeRoute p) s).1 = .ok a ∧ NightAnswered s.tables a) ∧
    (s.tables.DutyOffline ↔
      resultCode (outcome (checkAgentStatus p s.tables.config.nightDutyDept) s).1 = some 3)

/-- Some agent on duty takes calls. -/
def RouteTables.OnDuty : Prop :=
  ∃ agent ∈ getDeptAgents t.agents t.config.nightDutyDept,
    agent.state = .idle ∨ agent.state = .talking

/-- Some agent on duty has stopped taking calls. -/
def RouteTables.DutyBusy : Prop :=
  ∃ agent ∈ getDeptAgents t.agents t.config.nightDutyDept, agent.state = .busy

/-- The department exists, its agents on line are not all busy, and the time
    of the description can be judged. -/
structure NightAgrees : Prop where
  known : (department s.tables.config.nightDutyDept).isSome
  served : s.tables.DutyBusy → s.tables.OnDuty
  described : ∀ e, workTimeAt s.tables (p.date (p.clock (s.reads + 2))) ≠ .error e

theorem any_onDuty :
    ((getDeptAgents t.agents t.config.nightDutyDept).any fun a =>
      a.state = .idle || a.state = .talking) = true ↔ t.OnDuty := by
  simp [RouteTables.OnDuty]

/-- With an agent on duty the answer is the night mode. -/
theorem nightAnswer_onDuty (h : t.OnDuty) :
    (nightAnswer p t).1 = 6 ∧ NightTarget t (nightAnswer p t).2 := by
  unfold nightAnswer nightDecision
  rw [if_pos ((any_onDuty t).mpr h)]
  cases hpick : pickIdleAgent p t.agents t.config.nightDutyDept with
  | some agent =>
    obtain ⟨hmem, hidle⟩ := pickIdleAgent_mem hpick
    exact ⟨rfl, Or.inl ⟨agent, hmem, hidle, rfl⟩⟩
  | none =>
    refine ⟨rfl, Or.inr ⟨fun hidle => ?_, rfl⟩⟩
    have hsome := pickIdleAgent_isSome p (hasIdle_iff.mp hidle)
    rw [hpick] at hsome
    cases hsome

theorem nightAnswer_offDuty (h : ¬ t.OnDuty) : (nightAnswer p t).1 = 7 := by
  unfold nightAnswer nightDecision
  rw [if_neg fun hany => h ((any_onDuty t).mp hany)]

/-- At night the clock is read three times. -/
theorem timeJudgeRoute_night
    (hnight : workTimeAt s.tables (p.date (p.clock s.reads)) = .ok false) :
    Runs (timeJudgeRoute p) s fun r _ =>
      match workTimeAt s.tables (p.date (p.clock (s.reads + 2))) with
      | .error e => r = .error e
      | .ok _ => Answers r (nightAnswer p s.tables).1 (nightAnswer p s.tables).2 := by
  have hforce : ¬ s.tables.forceWorktime = true := by
    intro hforce
    unfold workTimeAt at hnight
    rw [if_pos hforce] at hnight
    cases hnight
  have hwork := outcome_isWorkTime p s
  rw [hnight, if_neg hforce] at hwork
  unfold timeJudgeRoute
  apply Runs.bind_ok hwork
  apply Runs.mono (nightRoute_at (tick_tables s))
  rintro r s' ⟨-, hanswer⟩
  exact hanswer

/-- The agents on line are on duty or busy. -/
theorem dutyOffline_iff : t.DutyOffline ↔ ¬ t.OnDuty ∧ ¬ t.DutyBusy := by
  constructor
  · intro h
    constructor
    · rintro ⟨agent, hmem, hduty⟩
      simp [h agent hmem] at hduty
    · rintro ⟨agent, hmem, hbusy⟩
      simp [h agent hmem] at hbusy
  · rintro ⟨hduty, hbusy⟩ agent hmem
    cases hstate : agent.state with
    | idle => exact absurd ⟨agent, hmem, Or.inl hstate⟩ hduty
    | talking => exact absurd ⟨agent, hmem, Or.inr hstate⟩ hduty
    | offline => rfl
    | busy => exact absurd ⟨agent, hmem, hstate⟩ hbusy

theorem dutyOffline_status :
    (s.tables.DutyOffline ↔
        resultCode (outcome (checkAgentStatus p s.tables.config.nightDutyDept) s).1 = some 3) ↔
      (department s.tables.config.nightDutyDept).isSome := by
  rw [checkAgentStatus_offline, allOffline_iff]
  constructor
  · intro h
    by_contra hnone
    -- a department that is not known has no agents
    have hempty : getDeptAgents s.tables.agents s.tables.config.nightDutyDept = [] := by
      unfold getDeptAgents
      rw [Option.not_isSome_iff_eq_none.mp hnone]
    have hoffline : s.tables.DutyOffline := by
      unfold RouteTables.DutyOffline DeptOffline
      rw [hempty]
      nofun
    exact hnone (h.mp hoffline).1
  · intro hsome
    exact ⟨fun h => ⟨hsome, h⟩, fun h => h.2⟩

variable {p s}

/-- An answer that follows the policy is read off `nightAnswer`. -/
theorem NightPolicy.answers (hnight : workTimeAt s.tables (p.date (p.clock s.reads)) = .ok false)
    (h : NightPolicy p s) :
    ∃ a, NightAnswered s.tables a ∧ a.code = (nightAnswer p s.tables).1 ∧
      ∀ e, workTimeAt s.tables (p.date (p.clock (s.reads + 2))) ≠ .error e := by
  obtain ⟨⟨a, ha, hanswered⟩, -⟩ := h
  have hrun := timeJudgeRoute_night p s hnight
  unfold Runs at hrun
  rw [ha] at hrun
  cases hlate : workTimeAt s.tables (p.date (p.clock (s.reads + 2))) with
  | error e =>
    rw [hlate] at hrun
    cases hrun
  | ok work =>
    rw [hlate] at hrun
    obtain ⟨_, ⟨⟩, hcode, -⟩ := hrun
    exact ⟨a, hanswered, hcode, nofun⟩

/-- Otherwise the callers of busy agents are sent to the voicemail. -/
theorem NightPolicy.served (hnight : workTimeAt s.tables (p.date (p.clock s.reads)) = .ok false)
    (h : NightPolicy p s) (hbusy : s.tables.DutyBusy) : s.tables.OnDuty := by
  obtain ⟨a, hanswered, hcode, -⟩ := h.answers hnight
  by_contra hduty
  rw [nightAnswer_offDuty p s.tables hduty] at hcode
  exact ((dutyOffline_iff s.tables).mp (hanswered.voicemail.mp hcode)).2 hbusy

theorem NightAgrees.answered (hagrees : NightAgrees p s) {a : Answer}
    (hcode : a.code = (nightAnswer p s.tables).1)
    (htarget : a.target = (nightAnswer p s.tables).2) : NightAnswered s.tables a := by
  by_cases hduty : s.tables.OnDuty
  · obtain ⟨hsix, hnight⟩ := nightAnswer_onDuty p s.tables hduty
    rw [← hcode] at hsix
    rw [← htarget] at hnight
    have hline : ¬ s.tables.DutyOffline :=
      fun hoffline => ((dutyOffline_iff s.tables).mp hoffline).1 hduty
    exact ⟨iff_of_false (by omega) hline, fun _ => ⟨hsix, hnight⟩⟩
  · have hoffline : s.tables.DutyOffline :=
      (dutyOffline_iff s.tables).mpr ⟨hduty, fun hbusy => hduty (hagrees.served hbusy)⟩
    rw [nightAnswer_offDuty p s.tables hduty] at hcode
    exact ⟨iff_of_true hcode hoffline, fun hline => absurd hoffline hline⟩

variable (p s)

/-- **The policy for the night** holds exactly if the two functions agree on
    who is on line. -/
theorem night_policy_iff
    (hnight : workTimeAt s.tables (p.date (p.clock s.reads)) = .ok false) :
    NightPolicy p s ↔ NightAgrees p s := by
  constructor
  · intro h
    obtain ⟨-, -, -, hlate⟩ := h.answers hnight
    exact ⟨(dutyOffline_status p s).mp h.2, h.served hnight, hlate⟩
  · intro hagrees
    have hrun := timeJudgeRoute_night p s hnight
    unfold Runs at hrun
    refine ⟨?_, (dutyOffline_status p s).mpr hagrees.known⟩
    cases hlate : workTimeAt s.tables (p.date (p.clock (s.reads + 2))) with
    | error e => exact absurd hlate (hagrees.described e)
    | ok work =>
      rw [hlate] at hrun
      obtain ⟨a, ha, hcode, htarget⟩ := hrun
      exact ⟨a, ha, hagrees.answered hcode htarget⟩

end Night

/-- A machine on a Sunday at ten in the evening. -/
def sundayNight : Platform := .steady 0 ⟨1, 22, 0⟩

theorem sunday_rests {t : RouteTables} (ht : t = RouteTables.declared.withAgents t.agents) :
    workTimeAt t ⟨1, 22, 0⟩ = .ok false := by
  rw [ht]
  rfl

/-- A supporter after a load. -/
theorem loaded_supporter (p : Platform) (reads : Nat) :
    ∃ agent ∈ getDeptAgents (loadedState p reads).tables.agents (cstr "support"),
      agent.state = .idle := by
  have hfresh := loadedState_fresh p reads
  obtain ⟨d, hd, hlo, hhi, hdept⟩ : ∃ d ∈ departments, d.2.rangeStart ≤ 9001 ∧
      9001 ≤ d.2.rangeEnd ∧ department (cstr "support") = some d.2 := by decide +kernel
  obtain ⟨agent, hlookup⟩ := Option.isSome_iff_exists.mp (hfresh.provisioned d hd 9001 hlo hhi)
  exact ⟨agent, mem_getDeptAgents.mpr ⟨d.2, 9001, hdept, hlo, hhi, hlookup⟩,
    (hfresh.fresh _ _ hlookup).1⟩

theorem busyState_busy {p : Platform} {deptId : CStr} {agent : Agent}
    (h : agent ∈ getDeptAgents (busyState p).tables.agents deptId) : agent.state = .busy := by
  have hmem : agent ∈ getDeptAgents ((loadedState p 0).tables.agents.withState .busy) deptId := h
  rw [getDeptAgents_withState] at hmem
  obtain ⟨a, -, rfl⟩ := List.mem_map.mp hmem
  rfl

theorem busyState_supporter (p : Platform) :
    ∃ agent ∈ getDeptAgents (busyState p).tables.agents (cstr "support"),
      agent.state = .busy := by
  obtain ⟨agent, hmem, -⟩ := loaded_supporter p 0
  refine ⟨{ agent with state := .busy }, ?_, rfl⟩
  show _ ∈ getDeptAgents ((loadedState p 0).tables.agents.withState .busy) _
  rw [getDeptAgents_withState]
  exact List.mem_map_of_mem hmem

/-- The first night after a load. -/
theorem night_policy_loaded : NightPolicy sundayNight (loadedState sundayNight 0) := by
  have hfresh := loadedState_fresh sundayNight 0
  have hrests := sunday_rests hfresh.declared
  have hduty : (loadedState sundayNight 0).tables.config.nightDutyDept = cstr "support" := by
    rw [hfresh.config]
    rfl
  apply (night_policy_iff sundayNight (loadedState sundayNight 0) hrests).mpr
  refine ⟨?_, fun _ => ?_, fun e he => ?_⟩
  · rw [hduty]
    decide +kernel
  · obtain ⟨agent, hmem, hidle⟩ := loaded_supporter sundayNight 0
    unfold RouteTables.OnDuty
    rw [hduty]
    exact ⟨agent, hmem, Or.inl hidle⟩
  · cases hrests.symm.trans he

/-- At night all agents are busy: nobody is on duty, but not all are offline. -/
theorem night_policy_busy :
    ¬ ∀ (p : Platform) (s : RouteState),
      workTimeAt s.tables (p.date (p.clock s.reads)) = .ok false → NightPolicy p s := by
  intro h
  have hrests := sunday_rests (busyState_tables sundayNight)
  have hduty : (busyState sundayNight).tables.config.nightDutyDept = cstr "support" := by
    rw [busyState_tables]
    rfl
  have hbusy : (busyState sundayNight).tables.DutyBusy := by
    unfold RouteTables.DutyBusy
    rw [hduty]
    exact busyState_supporter sundayNight
  obtain ⟨agent, hmem, hstate⟩ := (h sundayNight _ hrests).served hrests hbusy
  rw [busyState_busy hmem] at hstate
  rcases hstate with hstate | hstate <;> cases hstate

end Route
