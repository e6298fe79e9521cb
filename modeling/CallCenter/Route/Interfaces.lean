import CallCenter.Route.State

/-! # The Interfaces of the Routing Script

    The seven routing functions of `route.lua`, the main entry `route_call`,
    the functions that change the configuration and the counters, and the
    script itself, which is run when it is loaded.  The texts of the answers
    are those of the script. -/

namespace Route

open CFormat Lua

/-! ## Section 1: Retry counters -/

/-- The agent that is picked, or else a number. -/
def targetOr (agent : Option Agent) (number : CStr) : CStr :=
  match agent with
  | some agent => agent.extension
  | none => number

def RouteTables.setInvalidKeys (t : RouteTables) (callerId : CStr) (n : Nat) : RouteTables :=
  { t with invalidKeyCount := Function.update t.invalidKeyCount callerId (some n) }

def RouteTables.setTimeouts (t : RouteTables) (callerId : CStr) (n : Nat) : RouteTables :=
  { t with timeoutRetryCount := Function.update t.timeoutRetryCount callerId (some n) }

/-- `invalid_key_fallback` -/
def invalidKeyFallback (p : Platform) (callerId keyInput : Option CStr) : RouteM Answer := do
  let callerId := callerId.getD (cstr "unknown")
  let keyInput := keyInput.getD (cstr "nil")
  modifyTables fun t => t.setInvalidKeys callerId ((t.invalidKeyCount callerId).getD 0 + 1)
  let t ← getTables
  let errCount := (t.invalidKeyCount callerId).getD 0
  let maxErr := t.config.maxInvalidKeys
  logCall p (cstr "WARN") (some callerId) (cstr "invalid_key")
    (cstr "key=" ++ keyInput ++ cstr " count=" ++ natText errCount ++ cstr "/" ++
      maxErr.text p.floatText)
  -- the caller starts anew after the escalation
  if maxErr.le (.int errCount) then
    modifyTables fun t => t.setInvalidKeys callerId 0
    let agent := pickIdleAgent p t.agents (cstr "support")
    return makeResponse 4 (targetOr agent t.config.fallbackAgent) (cstr "人工服务台")
      (cstr "连续" ++ natText errCount ++ cstr "次无效按键(最后:[" ++ keyInput ++
        cstr "])，自动转接人工坐席")
  else
    let maxText ← formatInt maxErr
    return makeResponse 9 [] []
      (cstr "按键[" ++ keyInput ++ cstr "]无效(第" ++ natText errCount ++ cstr "/" ++ maxText ++
        cstr "次)，请重新选择：" ++ cstr "1-销售咨询 2-售后服务 3-市场合作 0-人工客服")

/-- `timeout_fallback` -/
def timeoutFallback (p : Platform) (callerId : Option CStr) : RouteM Answer := do
  let callerId := callerId.getD (cstr "unknown")
  modifyTables fun t => t.setTimeouts callerId ((t.timeoutRetryCount callerId).getD 0 + 1)
  let t ← getTables
  let retry := (t.timeoutRetryCount callerId).getD 0
  logCall p (cstr "INFO") (some callerId) (cstr "timeout") (cstr "retry=" ++ natText retry)
  -- the bound is not taken from the configuration
  if 2 ≤ retry then
    modifyTables fun t => t.setTimeouts callerId 0
    let agent := pickIdleAgent p t.agents (cstr "support")
    return makeResponse 4 (targetOr agent t.config.fallbackAgent) (cstr "人工服务台")
      (cstr "连续" ++ natText retry ++ cstr "次超时无操作，自动转入人工坐席")
  else
    let timeoutText ← formatInt t.config.ivrTimeout
    return makeResponse 8 [] []
      (cstr "超时未操作(第" ++ natText retry ++ cstr "次)，" ++ timeoutText ++
        cstr "秒后重试引导..." ++ cstr "请按键选择：1-销售咨询 2-售后服务 3-市场合作 0-人工客服")

/-! ## Section 2: Agents and overflow -/

/-- `check_agent_status`; an agent that is not idle, talking or busy counts as
    offline. -/
def checkAgentStatus (p : Platform) (deptId : CStr) : RouteM Answer := do
  -- every queue is cleaned, not only this one
  queueCleanup p
  match department deptId with
  | none => return makeResponse 99 [] [] (cstr "部门[" ++ deptId ++ cstr "]不存在")
  | some dept =>
    let t ← getTables
    let agents := getDeptAgents t.agents deptId
    let total := agents.length
    let idle := agents.countP fun a => a.state = .idle
    let talking := agents.countP fun a => a.state = .talking
    let busy := agents.countP fun a => a.state = .busy
    let offline := agents.countP fun a => a.state = .offline
    let online := total - offline
    if online = 0 then
      return makeResponse 3 dept.short dept.name
        (dept.name ++ cstr " 全部离线 (总" ++ natText total ++ cstr "/在线0/空闲0)")
    else if idle = 0 then
      return makeResponse 2 dept.short dept.name
        (dept.name ++ cstr " 坐席全忙 (总" ++ natText total ++ cstr "/在线" ++ natText online ++
          cstr "/通话" ++ natText talking ++ cstr "/忙碌" ++ natText busy ++ cstr ")")
    else
      return makeResponse 0 dept.short dept.name
        (dept.name ++ cstr " 有空闲坐席 (总" ++ natText total ++ cstr "/在线" ++ natText online ++
          cstr "/空闲" ++ natText idle ++ cstr "/通话" ++ natText talking ++ cstr ")")

/-- `dept.short`, where `dept` may be nil. -/
def indexShort (dept : Option Department) : RouteM CStr :=
  match dept with
  | some dept => return dept.short
  | none => throw .indexNil

/-- The third and fourth strategy of `overflow_route`: queue or voicemail. -/
def enqueueOrVoicemail (p : Platform) (deptId callerId : CStr) : RouteM Answer := do
  let dept := department deptId
  let deptName := (dept.map Department.name).getD deptId
  if ← queuePush p deptId callerId then
    let t ← getTables
    -- the caller is at the end of the queue by now
    let pos := t.queueSize deptId
    let short ← indexShort dept
    let maxText ← formatInt t.config.maxQueueSize
    return makeResponse 5 short deptName
      (cstr "所有部门全忙，已进入排队队列 (位置:" ++ natText pos ++ cstr "/" ++ maxText ++
        cstr ")，预计等待" ++ natText (pos * 30) ++ cstr "秒")
  else
    logCall p (cstr "ERROR") (some callerId) (cstr "queue_full") (cstr "排队已满")
    return makeResponse 7 [] deptName (cstr "当前排队人数已满，请稍后再拨或留言，我们将尽快回电")

/-- `overflow_route` -/
def overflowRoute (p : Platform) (deptId : CStr) (callerId : Option CStr) : RouteM Answer := do
  let callerId := callerId.getD []
  let deptName := ((department deptId).map Department.name).getD deptId
  logCall p (cstr "WARN") (some callerId) (cstr "overflow")
    (cstr "部门[" ++ deptName ++ cstr "]全忙溢出")
  let t ← getTables
  -- first strategy; the second is a department of the list
  if 0 < countIdleAgents t.agents (cstr "support") then
    let agent := pickIdleAgent p t.agents (cstr "support")
    return makeResponse 4 (targetOr agent t.config.fallbackAgent) (cstr "人工服务台")
      (deptName ++ cstr "坐席全忙，溢出转入人工服务台坐席")
  else
    match findOverflowDept t deptId with
    | some (overflowDept, key) =>
      let agent := pickIdleAgent p t.agents key
      return makeResponse 4 (targetOr agent overflowDept.short) overflowDept.name
        (deptName ++ cstr "坐席全忙，优先溢出至" ++ overflowDept.name)
    | none => enqueueOrVoicemail p deptId callerId

/-! Without a department the two functions say `nil` for its name. -/

/-- `check_agent_status(nil)` -/
def checkAgentStatusNil (p : Platform) : RouteM Answer := do
  queueCleanup p
  return makeResponse 99 [] [] (cstr "部门[nil]不存在")

/-- `overflow_route(nil, caller_id)` -/
def overflowRouteNil (p : Platform) (callerId : Option CStr) : RouteM Answer := do
  let callerId := callerId.getD []
  logCall p (cstr "WARN") (some callerId) (cstr "overflow") (cstr "部门[nil]全忙溢出")
  let t ← getTables
  if 0 < countIdleAgents t.agents (cstr "support") then
    let agent := pickIdleAgent p t.agents (cstr "support")
    return makeResponse 4 (targetOr agent t.config.fallbackAgent) (cstr "人工服务台")
      (cstr "nil坐席全忙，溢出转入人工服务台坐席")
  else
    -- nil excludes no department, and neither does a key without agents
    match findOverflowDept t (cstr "nil") with
    | some (overflowDept, key) =>
      let agent := pickIdleAgent p t.agents key
      return makeResponse 4 (targetOr agent overflowDept.short) overflowDept.name
        (cstr "nil坐席全忙，优先溢出至" ++ overflowDept.name)
    -- `QUEUE[nil] = {}`
    | none => throw .nilKey

/-! ## Section 3: Keys -/

/-- `get_ivr_route` -/
def getIvrRoute (p : Platform) (phone keyInput : Option CStr) : RouteM Answer := do
  logCall p (cstr "INFO") phone (cstr "get_ivr_route") (cstr "key=" ++ keyInput.getD (cstr "nil"))
  match keyInput with
  | none => timeoutFallback p phone
  | some key =>
    if key = [] then
      timeoutFallback p phone
    else
      match ivrMap key with
      | none => invalidKeyFallback p phone (some key)
      | some deptKey =>
        let t ← getTables
        match department deptKey with
        | none =>
          return makeResponse 4 t.config.fallbackAgent (cstr "人工服务台")
            (cstr "IVR按键[" ++ key ++ cstr "] 部门不可对外访问，转接人工台")
        | some dept =>
          -- cannot happen: all departments with a key are external
          if !dept.external then
            return makeResponse 4 t.config.fallbackAgent (cstr "人工服务台")
              (cstr "IVR按键[" ++ key ++ cstr "] 部门不可对外访问，转接人工台")
          else
            let status ← checkAgentStatus p deptKey
            let t ← getTables
            -- 2 is all busy, 3 is all offline
            if status.code = 2 then
              overflowRoute p deptKey phone
            else if status.code = 3 then
              return makeResponse 3 t.config.fallbackAgent (cstr "人工服务台")
                (dept.name ++ cstr "无空闲坐席在线，转接人工台")
            else
              let targetExt := targetOr (pickIdleAgent p t.agents deptKey) dept.short
              return makeResponse 0 targetExt dept.name
                (cstr "IVR按键[" ++ key ++ cstr "] → 转接" ++ dept.name ++ cstr "坐席(" ++
                  targetExt ++ cstr ")")

/-! ## Section 4: Time of day -/

/-- `DEPARTMENTS[key].name`, where the department may be nil. -/
def indexName (dept : Option Department) : RouteM CStr :=
  match dept with
  | some dept => return dept.name
  | none => throw .indexNil

/-- `time_judge_route` outside the working hours: the department on duty. -/
def nightRoute (p : Platform) : RouteM Answer := do
  let timeDesc ← getTimeDescription p
  let t ← getTables
  let nightDept := t.config.nightDutyDept
  -- an agent who is talking is on duty as well
  let hasDuty := (getDeptAgents t.agents nightDept).any fun a =>
    a.state = .idle || a.state = .talking
  if hasDuty then
    match pickIdleAgent p t.agents nightDept with
    | some agent =>
      let name ← indexName (department nightDept)
      return makeResponse 6 agent.extension name
        (timeDesc ++ cstr " 夜间模式，转接值班人工坐席(" ++ agent.extension ++ cstr ")")
    | none =>
      let name ← indexName (department nightDept)
      return makeResponse 6 t.config.fallbackAgent name
        (timeDesc ++ cstr " 夜间模式，值班坐席全忙，请稍候")
  else
    logCall p (cstr "WARN") (some (cstr "system")) (cstr "no_night_duty")
      (cstr "夜间无值班坐席")
    return makeResponse 7 [] []
      (timeDesc ++ cstr " 当前为非工作时段，暂无值班坐席，请留言，工作时间将尽快回复")

/-- `time_judge_route` -/
def timeJudgeRoute (p : Platform) : RouteM Answer := do
  if ← isWorkTime p then
    return makeResponse 0 [] [] (cstr "工作日时段，使用标准路由策略")
  else
    nightRoute p

/-! ## Section 5: Internal calls -/

/-- `dept_internal_call_route` -/
def deptInternalCallRoute (p : Platform) (caller callee : Option CStr) : RouteM Answer := do
  logCall p (cstr "INFO") caller (cstr "internal_call") (cstr "to " ++ (← concatOperand callee))
  let t ← getTables
  -- the caller is tested before the format of the callee
  match caller.bind findDepartment with
  | none =>
    let callerText ← concatOperand caller
    return makeResponse 1 t.config.fallbackAgent (cstr "人工服务台")
      (cstr "主叫分机[" ++ callerText ++ cstr "]无效，不在企业号段内")
  | some (_, callerDept) =>
    let callerText ← concatOperand caller
    let calleeText ← concatOperand callee
    let inFormat :=
      match tonumber calleeText with
      | none => false
      | some num => !(num.lt (.int 1000) || (LuaNumber.int 9999).lt num)
    if !inFormat then
      return makeResponse 1 t.config.fallbackAgent (cstr "人工服务台")
        (cstr "被叫号码[" ++ calleeText ++ cstr "]格式无效")
    else
      match findDepartment calleeText with
      | none =>
        return makeResponse 1 t.config.fallbackAgent (cstr "人工服务台")
          (cstr "被叫分机[" ++ calleeText ++ cstr "]不在企业号段内，转接人工台")
      | some (_, calleeDept) =>
        let calleeState := (t.agents.lookup calleeText).map Agent.state
        if calleeState = some .offline then
          return makeResponse 3 calleeDept.short calleeDept.name
            (cstr "被叫分机[" ++ calleeText ++ cstr "]当前离线，请稍后再拨")
        -- a busy callee is put through like an idle one
        else if calleeState = some .talking then
          return makeResponse 2 calleeText calleeDept.name
            (cstr "被叫分机[" ++ calleeText ++ cstr "]正在通话中，请稍后再拨或留言")
        else
          return makeResponse 0 calleeText calleeDept.name
            (cstr "内部互拨: " ++ callerDept.name ++ cstr "(" ++ callerText ++ cstr ") → " ++
              calleeDept.name ++ cstr "(" ++ calleeText ++ cstr ")")

/-! ## Section 6: The main entry -/

/-- `route_call` -/
def routeCall (p : Platform) (callerId digits : Option CStr) : RouteM Answer := do
  if isExternalCaller callerId then
    let timeResult ← timeJudgeRoute p
    -- the clock is read again for the description
    if timeResult.code = 7 then
      let timeDesc ← getTimeDescription p
      return makeResponse 7 [] []
        (timeDesc ++ cstr " 非工作时段暂无人工服务，" ++ timeResult.description)
    else if timeResult.code = 6 then
      return timeResult
    else
      getIvrRoute p callerId digits
  else
    deptInternalCallRoute p callerId digits

/-! ## Section 7: Configuration and loading -/

/-- The argument of `update_route_config`; a key that is not given is `none`. -/
structure ConfigUpdate where
  ivrTimeout : Option LuaNumber := none
  externalGateway : Option CStr := none
  fallbackAgent : Option CStr := none
  maxInvalidKeys : Option LuaNumber := none
  maxQueueSize : Option LuaNumber := none
  queueTimeout : Option LuaNumber := none
  workHours : Option WorkHours := none
  workDays : Option (Nat → Option Bool) := none
  nightDutyDept : Option CStr := none
  voicemailPrompt : Option CStr := none
  overflowPriority : Option (List CStr) := none

/-- `ROUTE_CONFIG[k] = v` for every pair; a table replaces a table. -/
def RouteConfig.update (config : RouteConfig) (u : ConfigUpdate) : RouteConfig where
  ivrTimeout := u.ivrTimeout.getD config.ivrTimeout
  externalGateway := u.externalGateway.getD config.externalGateway
  fallbackAgent := u.fallbackAgent.getD config.fallbackAgent
  maxInvalidKeys := u.maxInvalidKeys.getD config.maxInvalidKeys
  maxQueueSize := u.maxQueueSize.getD config.maxQueueSize
  queueTimeout := u.queueTimeout.getD config.queueTimeout
  workHours := u.workHours.getD config.workHours
  workDays := u.workDays.getD config.workDays
  nightDutyDept := u.nightDutyDept.getD config.nightDutyDept
  voicemailPrompt := u.voicemailPrompt.getD config.voicemailPrompt
  overflowPriority := u.overflowPriority.getD config.overflowPriority

/-- `update_route_config` -/
def updateRouteConfig (p : Platform) (newConfig : Option ConfigUpdate) : RouteM Bool := do
  match newConfig with
  | none => return false
  | some u =>
    modifyTables fun t => { t with config := t.config.update u }
    logCall p (cstr "INFO") (some (cstr "system")) (cstr "config_update")
      (cstr "运行时配置已更新")
    return true

/-- `reset_invalid_key_count` -/
def resetInvalidKeyCount (callerId : CStr) : RouteM Unit :=
  modifyTables fun t => (t.setInvalidKeys callerId 0).setTimeouts callerId 0

/-- `AGENT_STATUS[ext_str] = agent` -/
def AgentTable.insert (agents : AgentTable) (agent : Agent) : AgentTable where
  lookup := Function.update agents.lookup agent.extension (some agent)
  extension_eq := by
    intro key a h
    by_cases hkey : key = agent.extension
    · subst hkey
      rw [Function.update_self] at h
      rw [← Option.some.inj h]
    · rw [Function.update_of_ne hkey] at h
      exact agents.extension_eq key a h

/-- An iteration of the inner loop of `init_agent_status`. -/
def initAgent (p : Platform) (deptKey : CStr) (ext : Nat) : RouteM Unit := do
  let now ← osTime p
  modifyTables fun t => { t with agents := t.agents.insert ⟨.idle, 0, now, natText ext, deptKey⟩ }

/-- `init_agent_status`; `pairs` may visit the departments in any order. -/
def initAgentStatus (p : Platform) : RouteM Unit :=
  departments.forM fun d =>
    (List.range' d.2.rangeStart (d.2.rangeEnd + 1 - d.2.rangeStart)).forM fun ext =>
      initAgent p d.1 ext

/-- What the declarations of the script make of the tables. -/
def RouteTables.declared : RouteTables where
  forceWorktime := false
  config := .default
  agents := ⟨fun _ => none, nofun⟩
  queue := fun _ => none
  invalidKeyCount := fun _ => none
  timeoutRetryCount := fun _ => none

/-- `route.lua` as a whole: its declarations, `init_agent_status()` and the
    lines it prints, which ask for the time once more. -/
def routeScript (p : Platform) : RouteM Unit := do
  modify fun s =>
    { s with tables := .declared, callLog := fun _ => none, callLogIndex := 0 }
  initAgentStatus p
  let _ ← getTimeDescription p

end Route
