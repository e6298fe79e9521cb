import CallCenter.Route.Interfaces

/-! # What Each Function Does

    The outcome of every function of the script, as far as it concerns the
    answer and the tables.  Callers use these lemmas and do not unfold a
    callee. -/

namespace Route

open CFormat Lua Script

variable (p : Platform) (s : RouteState)

/-! ## Section 1: Primitives -/

def RouteState.tick (s : RouteState) : RouteState := { s with reads := s.reads + 1 }

def RouteState.withTables (s : RouteState) (t : RouteTables) : RouteState :=
  { s with tables := t }

/-- The state after `log_call`. -/
def RouteState.logged (s : RouteState) (level : CStr) (callerId : Option CStr)
    (event detail : CStr) : RouteState :=
  { s with
    callLogIndex := s.callLogIndex % callLogMax + 1
    reads := s.reads + 1
    callLog := Function.update s.callLog (s.callLogIndex % callLogMax + 1)
      (some ⟨p.clock s.reads, level, callerId.getD (cstr "unknown"), event, detail⟩) }

@[simp] theorem tick_tables : s.tick.tables = s.tables := rfl

@[simp] theorem withTables_tables (t : RouteTables) : (s.withTables t).tables = t := rfl

@[simp] theorem logged_tables (level : CStr) (callerId : Option CStr) (event detail : CStr) :
    (s.logged p level callerId event detail).tables = s.tables := rfl

@[simp] theorem outcome_getTables : outcome getTables s = (.ok s.tables, s) := rfl

@[simp] theorem outcome_modifyTables (f : RouteTables → RouteTables) :
    outcome (modifyTables f) s = (.ok (), s.withTables (f s.tables)) := rfl

@[simp] theorem outcome_osTime : outcome (osTime p) s = (.ok (p.clock s.reads), s.tick) := rfl

@[simp] theorem outcome_osDate :
    outcome (osDate p) s = (.ok (p.date (p.clock s.reads)), s.tick) := rfl

@[simp] theorem outcome_logCall (level : CStr) (callerId : Option CStr) (event detail : CStr) :
    outcome (logCall p level callerId event detail) s =
      (.ok (), s.logged p level callerId event detail) := rfl

@[simp] theorem outcome_queueCleanup :
    outcome (queueCleanup p) s =
      (.ok (), s.tick.withTables (s.tables.cleanup (p.clock s.reads))) := rfl

/-- A reading of the clock. -/
def Platform.Reads (p : Platform) (now : Int) : Prop := ∃ n, p.clock n = now

/-! ## Section 2: Tables -/

section Tables

variable (t : RouteTables) (callerId deptId : CStr) (n : Nat) (q : List QueueEntry) (now : Int)

@[simp] theorem setInvalidKeys_config : (t.setInvalidKeys callerId n).config = t.config := rfl

@[simp] theorem setInvalidKeys_agents : (t.setInvalidKeys callerId n).agents = t.agents := rfl

@[simp] theorem setTimeouts_config : (t.setTimeouts callerId n).config = t.config := rfl

@[simp] theorem setTimeouts_agents : (t.setTimeouts callerId n).agents = t.agents := rfl

@[simp] theorem setQueue_config : (t.setQueue deptId q).config = t.config := rfl

@[simp] theorem setQueue_agents : (t.setQueue deptId q).agents = t.agents := rfl

@[simp] theorem cleanup_config : (t.cleanup now).config = t.config := rfl

@[simp] theorem cleanup_agents : (t.cleanup now).agents = t.agents := rfl

@[simp] theorem setInvalidKeys_self :
    (t.setInvalidKeys callerId n).invalidKeyCount callerId = some n := by
  simp [RouteTables.setInvalidKeys]

@[simp] theorem setTimeouts_self :
    (t.setTimeouts callerId n).timeoutRetryCount callerId = some n := by
  simp [RouteTables.setTimeouts]

@[simp] theorem setQueue_self : (t.setQueue deptId q).queue deptId = some q := by
  simp [RouteTables.setQueue]

theorem setQueue_of_ne {key : CStr} (h : key ≠ deptId) :
    (t.setQueue deptId q).queue key = t.queue key := Function.update_of_ne h _ _

@[simp] theorem setInvalidKeys_setInvalidKeys (m : Nat) :
    (t.setInvalidKeys callerId m).setInvalidKeys callerId n = t.setInvalidKeys callerId n := by
  simp [RouteTables.setInvalidKeys]

@[simp] theorem setTimeouts_setTimeouts (m : Nat) :
    (t.setTimeouts callerId m).setTimeouts callerId n = t.setTimeouts callerId n := by
  simp [RouteTables.setTimeouts]

@[simp] theorem openQueue_config : (t.openQueue deptId).config = t.config := by
  unfold RouteTables.openQueue
  split <;> rfl

@[simp] theorem openQueue_agents : (t.openQueue deptId).agents = t.agents := by
  unfold RouteTables.openQueue
  split <;> rfl

@[simp] theorem openQueue_self :
    (t.openQueue deptId).queue deptId = some ((t.queue deptId).getD []) := by
  unfold RouteTables.openQueue
  split
  · next q h => simp [h]
  · next h => simp [h]

theorem openQueue_of_ne {key : CStr} (h : key ≠ deptId) :
    (t.openQueue deptId).queue key = t.queue key := by
  unfold RouteTables.openQueue
  split
  · rfl
  · exact setQueue_of_ne t deptId [] h

@[simp] theorem openQueue_queueSize :
    (t.openQueue deptId).queueSize deptId = t.queueSize deptId := by
  simp [RouteTables.queueSize]

@[simp] theorem openQueue_setQueue :
    (t.openQueue deptId).setQueue deptId q = t.setQueue deptId q := by
  unfold RouteTables.openQueue
  split
  · rfl
  · simp [RouteTables.setQueue]

end Tables

/-! ## Section 3: Agents -/

theorem mem_getDeptAgents {agents : AgentTable} {deptId : CStr} {agent : Agent} :
    agent ∈ getDeptAgents agents deptId ↔
      ∃ dept ext, department deptId = some dept ∧ dept.rangeStart ≤ ext ∧ ext ≤ dept.rangeEnd ∧
        agents.lookup (natText ext) = some agent := by
  unfold getDeptAgents
  constructor
  · intro h
    split at h
    · cases h
    · next dept hdept =>
      obtain ⟨ext, hext, hlookup⟩ := List.mem_filterMap.mp h
      rw [List.mem_range'_1] at hext
      exact ⟨dept, ext, hdept, hext.1, by omega, hlookup⟩
  -- the extensions are those of the range of the department
  · rintro ⟨dept, ext, hdept, hlo, hhi, hlookup⟩
    rw [hdept]
    exact List.mem_filterMap.mpr ⟨ext, List.mem_range'_1.mpr ⟨hlo, by omega⟩, hlookup⟩

/-- The agent that is picked is an idle one of the department. -/
theorem pickIdleAgent_mem {p : Platform} {agents : AgentTable} {deptId : CStr} {agent : Agent}
    (h : pickIdleAgent p agents deptId = some agent) :
    agent ∈ getDeptAgents agents deptId ∧ agent.state = .idle := by
  unfold pickIdleAgent at h
  dsimp only at h
  split at h
  · cases h
  -- sorting adds no agent
  · have hmem := (p.sort_perm _).mem_iff.mp (List.mem_of_mem_head? h)
    simpa using List.mem_filter.mp hmem

theorem pickIdleAgent_isSome {agents : AgentTable} {deptId : CStr}
    (h : 0 < countIdleAgents agents deptId) : (pickIdleAgent p agents deptId).isSome := by
  unfold countIdleAgents at h
  rw [List.countP_eq_length_filter] at h
  unfold pickIdleAgent
  dsimp only
  split
  · next hnone => omega
  · rw [List.isSome_head?, ← List.length_pos_iff_ne_nil]
    rw [(p.sort_perm _).length_eq]
    exact h

/-! ## Section 4: Answers -/

/-- The result is an answer with this code and target. -/
def Answers (r : Except LuaError Answer) (code : Int) (target : CStr) : Prop :=
  ∃ a, r = .ok a ∧ a.code = code ∧ a.target = target

theorem answers_makeResponse (code : Int) (target dept text : CStr) :
    Answers (.ok (makeResponse code target dept text)) code target := ⟨_, rfl, rfl, rfl⟩

/-- The same, if the number `v` that the answer shows has an integer. -/
def AnswersWith (v : LuaNumber) (r : Except LuaError Answer) (code : Int) (target : CStr) : Prop :=
  match v.toInteger? with
  | some _ => Answers r code target
  | none => r = .error .noInteger

/-- An answer whose text shows `v`. -/
theorem formatInt_bind (v : LuaNumber) (code : Int) (target dept : CStr) (text : CStr → CStr) :
    ∃ r, outcome (formatInt v >>= fun t => pure (makeResponse code target dept (text t))) s =
      (r, s) ∧ AnswersWith v r code target := by
  unfold formatInt AnswersWith
  cases v.toInteger? with
  | none => exact ⟨_, rfl, rfl⟩
  | some n => exact ⟨_, rfl, answers_makeResponse _ _ _ _⟩

/-! ## Section 5: Working hours -/

/-- What `is_work_time` returns at a local time. -/
def workTimeAt (t : RouteTables) (now : Date) : Except LuaError Bool :=
  if t.forceWorktime then .ok true
  else if t.config.workDays (if now.wday = 1 then 7 else now.wday - 1) ≠ some true then .ok false
  else
    match t.config.workHours with
    | ⟨some startHour, some startMinute, some endHour, some endMinute⟩ =>
      .ok (((startHour.mul (.int 60)).add startMinute).le (.int (now.hour * 60 + now.min : Nat)) &&
        (LuaNumber.int (now.hour * 60 + now.min : Nat)).lt
          ((endHour.mul (.int 60)).add endMinute))
    | _ => .error .arithmeticOnNil

theorem outcome_isWorkTime :
    outcome (isWorkTime p) s =
      (workTimeAt s.tables (p.date (p.clock s.reads)),
        if s.tables.forceWorktime then s else s.tick) := by
  unfold isWorkTime workTimeAt
  rw [outcome_bind_ok (outcome_getTables s)]
  by_cases hforce : s.tables.forceWorktime = true
  · rw [if_pos hforce, if_pos hforce, if_pos hforce]
    rfl
  · rw [if_neg hforce, if_neg hforce, if_neg hforce, outcome_bind_ok (outcome_osDate p s)]
    dsimp only
    generalize (if (p.date (p.clock s.reads)).wday = 1 then 7
      else (p.date (p.clock s.reads)).wday - 1) = dayIdx
    by_cases hday : s.tables.config.workDays dayIdx = some true
    · rw [if_neg (not_not.mpr hday), if_neg (not_not.mpr hday)]
      -- one missing number is enough for the error
      obtain ⟨startHour, startMinute, endHour, endMinute⟩ := s.tables.config.workHours
      cases startHour <;> cases startMinute <;> cases endHour <;> cases endMinute <;> rfl
    · rw [if_pos hday, if_pos hday]
      rfl

/-- `is_work_time` fails at some reading. -/
def ClockFails (p : Platform) (t : RouteTables) (e : LuaError) : Prop :=
  ∃ now, p.Reads now ∧ workTimeAt t (p.date now) = .error e

theorem isWorkTime_runs :
    Runs (isWorkTime p) s fun r s' =>
      s'.tables = s.tables ∧ r = workTimeAt s.tables (p.date (p.clock s.reads)) := by
  apply Runs.of_eq (outcome_isWorkTime p s)
  refine ⟨?_, rfl⟩
  split <;> rfl

/-- The description of the time reads the clock a second time, and fails as
    `is_work_time` does. -/
theorem getTimeDescription_at :
    Runs (getTimeDescription p) s fun r s' =>
      s'.tables = s.tables ∧
        ∀ e, r = .error e ↔ workTimeAt s.tables (p.date (p.clock (s.reads + 1))) = .error e := by
  unfold getTimeDescription
  apply Runs.bind_ok (outcome_osDate p s)
  apply Runs.bind (isWorkTime_runs p s.tick)
  · rintro work s' ⟨htables, hwork⟩
    have hnone : ∀ e, workTimeAt s.tables (p.date (p.clock (s.reads + 1))) ≠ .error e := by
      intro e herror
      cases hwork.trans herror
    cases work with
    | true => exact Runs.of_eq rfl ⟨htables, fun e => iff_of_false nofun (hnone e)⟩
    | false => exact Runs.of_eq rfl ⟨htables, fun e => iff_of_false nofun (hnone e)⟩
  -- the error is that of `is_work_time`
  · rintro e s' ⟨htables, hwork⟩
    refine ⟨htables, fun e' => ?_⟩
    rw [show workTimeAt s.tables (p.date (p.clock (s.reads + 1))) = .error e from hwork.symm]
    simp

/-- The description of the time fails only with the clock. -/
theorem getTimeDescription_runs :
    Runs (getTimeDescription p) s fun r s' =>
      s'.tables = s.tables ∧ ∀ e, r = .error e → ClockFails p s.tables e := by
  apply Runs.mono (getTimeDescription_at p s)
  rintro r s' ⟨htables, hfails⟩
  exact ⟨htables, fun e he => ⟨_, ⟨_, rfl⟩, (hfails e).mp he⟩⟩

/-! ## Section 6: Retry counters -/

/-- The key under which a caller is counted. -/
def counted (callerId : Option CStr) : CStr := callerId.getD (cstr "unknown")

/-- How often the caller has pressed an invalid key, with this one. -/
def RouteTables.nextInvalidKeys (t : RouteTables) (callerId : Option CStr) : Nat :=
  (t.invalidKeyCount (counted callerId)).getD 0 + 1

def RouteTables.nextTimeouts (t : RouteTables) (callerId : Option CStr) : Nat :=
  (t.timeoutRetryCount (counted callerId)).getD 0 + 1

/-- The target of an escalation. -/
def RouteTables.supportTarget (t : RouteTables) : CStr :=
  targetOr (pickIdleAgent p t.agents (cstr "support")) t.config.fallbackAgent

theorem invalidKeyFallback_escalates {callerId keyInput : Option CStr}
    (h : s.tables.config.maxInvalidKeys.le (.int (s.tables.nextInvalidKeys callerId)) = true) :
    Runs (invalidKeyFallback p callerId keyInput) s fun r s' =>
      Answers r 4 (s.tables.supportTarget p) ∧
        s'.tables = s.tables.setInvalidKeys (counted callerId) 0 := by
  unfold invalidKeyFallback
  apply Runs.bind_ok (outcome_modifyTables s _)
  apply Runs.bind_ok (outcome_getTables _)
  apply Runs.bind_ok (outcome_logCall p _ _ _ _ _)
  simp only [withTables_tables, setInvalidKeys_self, setInvalidKeys_config, Option.getD_some]
  apply Runs.if_pos h
  -- the counter is written a second time
  apply Runs.bind_ok (outcome_modifyTables _ _)
  exact Runs.of_eq rfl ⟨answers_makeResponse _ _ _ _, setInvalidKeys_setInvalidKeys _ _ _ _⟩

theorem invalidKeyFallback_retries {callerId keyInput : Option CStr}
    (h : s.tables.config.maxInvalidKeys.le (.int (s.tables.nextInvalidKeys callerId)) ≠ true) :
    Runs (invalidKeyFallback p callerId keyInput) s fun r s' =>
      AnswersWith s.tables.config.maxInvalidKeys r 9 [] ∧
        s'.tables =
          s.tables.setInvalidKeys (counted callerId) (s.tables.nextInvalidKeys callerId) := by
  unfold invalidKeyFallback
  apply Runs.bind_ok (outcome_modifyTables s _)
  apply Runs.bind_ok (outcome_getTables _)
  apply Runs.bind_ok (outcome_logCall p _ _ _ _ _)
  simp only [withTables_tables, setInvalidKeys_self, setInvalidKeys_config, Option.getD_some]
  apply Runs.if_neg h
  obtain ⟨r, hr, hanswer⟩ := formatInt_bind _ s.tables.config.maxInvalidKeys 9 [] [] _
  exact Runs.of_eq hr ⟨hanswer, rfl⟩

theorem timeoutFallback_escalates {callerId : Option CStr}
    (h : 2 ≤ s.tables.nextTimeouts callerId) :
    Runs (timeoutFallback p callerId) s fun r s' =>
      Answers r 4 (s.tables.supportTarget p) ∧
        s'.tables = s.tables.setTimeouts (counted callerId) 0 := by
  unfold timeoutFallback
  apply Runs.bind_ok (outcome_modifyTables s _)
  apply Runs.bind_ok (outcome_getTables _)
  apply Runs.bind_ok (outcome_logCall p _ _ _ _ _)
  simp only [withTables_tables, setTimeouts_self, Option.getD_some]
  apply Runs.if_pos h
  -- the counter is written a second time
  apply Runs.bind_ok (outcome_modifyTables _ _)
  exact Runs.of_eq rfl ⟨answers_makeResponse _ _ _ _, setTimeouts_setTimeouts _ _ _ _⟩

theorem timeoutFallback_retries {callerId : Option CStr}
    (h : ¬ 2 ≤ s.tables.nextTimeouts callerId) :
    Runs (timeoutFallback p callerId) s fun r s' =>
      AnswersWith s.tables.config.ivrTimeout r 8 [] ∧
        s'.tables = s.tables.setTimeouts (counted callerId) (s.tables.nextTimeouts callerId) := by
  unfold timeoutFallback
  apply Runs.bind_ok (outcome_modifyTables s _)
  apply Runs.bind_ok (outcome_getTables _)
  apply Runs.bind_ok (outcome_logCall p _ _ _ _ _)
  simp only [withTables_tables, setTimeouts_self, setTimeouts_config, Option.getD_some]
  apply Runs.if_neg h
  obtain ⟨r, hr, hanswer⟩ := formatInt_bind _ s.tables.config.ivrTimeout 8 [] [] _
  exact Runs.of_eq hr ⟨hanswer, rfl⟩

/-! ## Section 7: Agents and overflow -/

/-- No agent of the department is online. -/
def allOffline (agents : AgentTable) (deptId : CStr) : Prop :=
  (getDeptAgents agents deptId).length -
    (getDeptAgents agents deptId).countP (fun a => a.state = .offline) = 0

instance (agents : AgentTable) (deptId : CStr) : Decidable (allOffline agents deptId) :=
  inferInstanceAs (Decidable (_ = 0))

/-- The code of `check_agent_status` for a department. -/
def statusCode (agents : AgentTable) (deptId : CStr) : Int :=
  if allOffline agents deptId then 3
  else if countIdleAgents agents deptId = 0 then 2
  else 0

theorem checkAgentStatus_runs {deptId : CStr} {dept : Department}
    (hdept : department deptId = some dept) :
    Runs (checkAgentStatus p deptId) s fun r s' =>
      ∃ a, r = .ok a ∧ a.code = statusCode s.tables.agents deptId ∧
        s'.tables = s.tables.cleanup (p.clock s.reads) := by
  unfold checkAgentStatus statusCode
  apply Runs.bind_ok (outcome_queueCleanup p s)
  rw [hdept]
  apply Runs.bind_ok (outcome_getTables _)
  by_cases hoffline : allOffline s.tables.agents deptId
  -- the cleaning changes queues only, so the agents are those of `s`
  · apply Runs.if_pos hoffline
    rw [if_pos hoffline]
    exact Runs.of_eq rfl ⟨_, rfl, rfl, rfl⟩
  · apply Runs.if_neg hoffline
    rw [if_neg hoffline]
    by_cases hidle : countIdleAgents s.tables.agents deptId = 0
    · apply Runs.if_pos hidle
      rw [if_pos hidle]
      exact Runs.of_eq rfl ⟨_, rfl, rfl, rfl⟩
    · apply Runs.if_neg hidle
      rw [if_neg hidle]
      exact Runs.of_eq rfl ⟨_, rfl, rfl, rfl⟩

/-- The queue of a department has no place left. -/
def RouteTables.queueFull (t : RouteTables) (deptId : CStr) : Bool :=
  t.config.maxQueueSize.le (.int (t.queueSize deptId))

/-- `table.insert(q, entry)` -/
def RouteTables.enqueue (t : RouteTables) (deptId : CStr) (entry : QueueEntry) : RouteTables :=
  t.setQueue deptId ((t.queue deptId).getD [] ++ [entry])

theorem queuePush_full {deptId : CStr} (callerId : CStr)
    (h : s.tables.queueFull deptId = true) :
    outcome (queuePush p deptId callerId) s =
      (.ok false, s.withTables (s.tables.openQueue deptId)) := by
  unfold queuePush
  rw [outcome_bind_ok (outcome_modifyTables s _), outcome_bind_ok (outcome_getTables _)]
  simp only [withTables_tables, openQueue_config, openQueue_queueSize]
  rw [RouteTables.queueFull] at h
  -- the queue is opened before its size is looked at
  rw [if_pos h]
  rfl

theorem queuePush_room {deptId : CStr} (callerId : CStr)
    (h : s.tables.queueFull deptId ≠ true) :
    outcome (queuePush p deptId callerId) s =
      (.ok true, s.tick.withTables (s.tables.enqueue deptId ⟨callerId, p.clock s.reads⟩)) := by
  unfold queuePush
  rw [outcome_bind_ok (outcome_modifyTables s _), outcome_bind_ok (outcome_getTables _)]
  simp only [withTables_tables, openQueue_config, openQueue_queueSize]
  rw [RouteTables.queueFull] at h
  rw [if_neg h, outcome_bind_ok (outcome_osTime p _), outcome_bind_ok (outcome_modifyTables _ _)]
  simp only [tick_tables, withTables_tables, openQueue_self, Option.getD_some, openQueue_setQueue]
  rfl

theorem enqueueOrVoicemail_full {deptId : CStr} (callerId : CStr)
    (h : s.tables.queueFull deptId = true) :
    Runs (enqueueOrVoicemail p deptId callerId) s fun r s' =>
      Answers r 7 [] ∧ s'.tables = s.tables.openQueue deptId := by
  unfold enqueueOrVoicemail
  apply Runs.bind_ok (queuePush_full p s callerId h)
  exact Runs.of_eq rfl ⟨answers_makeResponse _ _ _ _, rfl⟩

theorem enqueueOrVoicemail_room {deptId : CStr} {dept : Department} (callerId : CStr)
    (hdept : department deptId = some dept) (h : s.tables.queueFull deptId ≠ true) :
    Runs (enqueueOrVoicemail p deptId callerId) s fun r s' =>
      AnswersWith s.tables.config.maxQueueSize r 5 dept.short ∧
        ∃ now, p.Reads now ∧ s'.tables = s.tables.enqueue deptId ⟨callerId, now⟩ := by
  unfold enqueueOrVoicemail
  apply Runs.bind_ok (queuePush_room p s callerId h)
  simp only [if_true]
  apply Runs.bind_ok (outcome_getTables _)
  rw [hdept]
  apply Runs.bind_ok (a := dept.short) rfl
  obtain ⟨r, hr, hanswer⟩ :=
    formatInt_bind _ s.tables.config.maxQueueSize 5 dept.short _ _
  exact Runs.of_eq hr ⟨hanswer, _, ⟨_, rfl⟩, rfl⟩

/-- Without a department the caller is queued before the error. -/
theorem enqueueOrVoicemail_unknown {deptId : CStr} (callerId : CStr)
    (hdept : department deptId = none) (h : s.tables.queueFull deptId ≠ true) :
    Runs (enqueueOrVoicemail p deptId callerId) s fun r s' =>
      r = .error .indexNil ∧
        ∃ now, p.Reads now ∧ s'.tables = s.tables.enqueue deptId ⟨callerId, now⟩ := by
  unfold enqueueOrVoicemail
  apply Runs.bind_ok (queuePush_room p s callerId h)
  simp only [if_true]
  apply Runs.bind_ok (outcome_getTables _)
  rw [hdept]
  exact Runs.of_eq rfl ⟨rfl, _, ⟨_, rfl⟩, rfl⟩

theorem findOverflowDept_some {t : RouteTables} {deptId key : CStr} {dept : Department}
    (h : findOverflowDept t deptId = some (dept, key)) :
    key ∈ t.config.overflowPriority ∧ 0 < countIdleAgents t.agents key ∧
      department key = some dept := by
  unfold findOverflowDept at h
  split at h
  · cases h
  · next key' hfind =>
    obtain ⟨dept', hdept, heq⟩ := Option.map_eq_some_iff.mp h
    obtain ⟨rfl, rfl⟩ := Prod.mk.inj heq
    have hkey := List.find?_some hfind
    simp only [Bool.and_eq_true, decide_eq_true_eq] at hkey
    exact ⟨List.mem_of_find?_eq_some hfind, hkey.2, hdept⟩

section Overflow

variable {deptId : CStr} (callerId : Option CStr)

/-- The first strategy of `overflow_route`. -/
theorem overflowRoute_support (h : 0 < countIdleAgents s.tables.agents (cstr "support")) :
    Runs (overflowRoute p deptId callerId) s fun r s' =>
      (∃ agent, pickIdleAgent p s.tables.agents (cstr "support") = some agent ∧
        Answers r 4 agent.extension) ∧ s'.tables = s.tables := by
  obtain ⟨agent, hpick⟩ := Option.isSome_iff_exists.mp (pickIdleAgent_isSome p h)
  unfold overflowRoute
  apply Runs.bind_ok (outcome_logCall p s _ _ _ _)
  apply Runs.bind_ok (outcome_getTables _)
  rw [logged_tables]
  apply Runs.if_pos h
  rw [hpick]
  exact Runs.of_eq rfl ⟨⟨agent, rfl, answers_makeResponse _ _ _ _⟩, rfl⟩

/-- The second one. -/
theorem overflowRoute_other {dept : Department} {key : CStr}
    (h : ¬ 0 < countIdleAgents s.tables.agents (cstr "support"))
    (hfind : findOverflowDept s.tables deptId = some (dept, key)) :
    Runs (overflowRoute p deptId callerId) s fun r s' =>
      (∃ agent, pickIdleAgent p s.tables.agents key = some agent ∧
        Answers r 4 agent.extension) ∧ s'.tables = s.tables := by
  obtain ⟨-, hcount, -⟩ := findOverflowDept_some hfind
  obtain ⟨agent, hpick⟩ := Option.isSome_iff_exists.mp (pickIdleAgent_isSome p hcount)
  unfold overflowRoute
  apply Runs.bind_ok (outcome_logCall p s _ _ _ _)
  apply Runs.bind_ok (outcome_getTables _)
  rw [logged_tables]
  apply Runs.if_neg h
  rw [hfind]
  dsimp only
  rw [hpick]
  exact Runs.of_eq rfl ⟨⟨agent, rfl, answers_makeResponse _ _ _ _⟩, rfl⟩

/-- The queue is the last resort. -/
theorem overflowRoute_queue {R : Except LuaError Answer → RouteState → Prop}
    (h : ¬ 0 < countIdleAgents s.tables.agents (cstr "support"))
    (hfind : findOverflowDept s.tables deptId = none)
    (hqueue : ∀ s₁ : RouteState, s₁.tables = s.tables →
      Runs (enqueueOrVoicemail p deptId (callerId.getD [])) s₁ R) :
    Runs (overflowRoute p deptId callerId) s R := by
  unfold overflowRoute
  apply Runs.bind_ok (outcome_logCall p s _ _ _ _)
  apply Runs.bind_ok (outcome_getTables _)
  rw [logged_tables]
  apply Runs.if_neg h
  rw [hfind]
  exact hqueue _ rfl

end Overflow

end Route
