import CallCenter.Framework.LuaNumber
import CallCenter.Framework.Script

/-! # The Tables of the Routing Script

    The first seven parts of `route.lua`: its configuration, departments,
    agents, queues, clock, log and small helpers.  Every `local` of the
    script is a field of `RouteState`.

    What the script asks of the machine is a `Platform`: every call of
    `os.time` gets the next reading of a clock, and `table.sort` is any
    function that sorts. -/

namespace Route

open CFormat Lua

/-! ## Section 1: Configuration -/

/-- `work_hours`; a field that was left out of an update is nil. -/
structure WorkHours where
  startHour : Option LuaNumber
  startMinute : Option LuaNumber
  endHour : Option LuaNumber
  endMinute : Option LuaNumber

/-- `ROUTE_CONFIG` -/
structure RouteConfig where
  ivrTimeout : LuaNumber
  externalGateway : CStr
  fallbackAgent : CStr
  maxInvalidKeys : LuaNumber
  maxQueueSize : LuaNumber
  queueTimeout : LuaNumber
  workHours : WorkHours
  /-- From 1, Monday; an entry that is not there is nil. -/
  workDays : Nat → Option Bool
  nightDutyDept : CStr
  voicemailPrompt : CStr
  overflowPriority : List CStr

/-- The values of the script. -/
def RouteConfig.default : RouteConfig where
  ivrTimeout := .int 5
  externalGateway := cstr "400-123-4567"
  fallbackAgent := cstr "9000"
  maxInvalidKeys := .int 3
  maxQueueSize := .int 10
  queueTimeout := .int 60
  workHours := ⟨some (.int 8), some (.int 0), some (.int 18), some (.int 0)⟩
  workDays := fun day =>
    if day = 0 then none else [true, true, true, true, true, false, false][day - 1]?
  nightDutyDept := cstr "support"
  voicemailPrompt := cstr "voicemail_no_agent"
  overflowPriority := [cstr "support", cstr "sales", cstr "service", cstr "market"]

/-! ## Section 2: Departments -/

structure Department where
  short : CStr
  rangeStart : Nat
  rangeEnd : Nat
  name : CStr
  external : Bool
  ivrKey : Option CStr
  deriving DecidableEq, Repr

/-- `DEPARTMENTS` -/
def departments : List (CStr × Department) :=
  [(cstr "hr", ⟨cstr "1000", 1001, 1050, cstr "人事部", false, none⟩),
    (cstr "finance", ⟨cstr "1100", 1101, 1150, cstr "财务部", false, none⟩),
    (cstr "admin", ⟨cstr "1200", 1201, 1250, cstr "行政部", false, none⟩),
    (cstr "management", ⟨cstr "1300", 1301, 1330, cstr "管理层", false, none⟩),
    (cstr "sales", ⟨cstr "2000", 2001, 2400, cstr "销售部", true, some (cstr "1")⟩),
    (cstr "service", ⟨cstr "2500", 2501, 2800, cstr "售后服务部", true, some (cstr "2")⟩),
    (cstr "market", ⟨cstr "2900", 2901, 2980, cstr "市场部", true, some (cstr "3")⟩),
    (cstr "rnd", ⟨cstr "3000", 3001, 3200, cstr "研发部", false, none⟩),
    (cstr "support", ⟨cstr "9000", 9001, 9050, cstr "人工服务台", true, some (cstr "0")⟩)]

/-- `DEPARTMENTS[dept_id]` -/
def department (deptId : CStr) : Option Department :=
  (departments.find? fun d => d.1 = deptId).map Prod.snd

/-- `IVR_MAP[key]` -/
def ivrMap (key : CStr) : Option CStr :=
  (departments.find? fun d => d.2.ivrKey = some key).map Prod.fst

/-! ## Section 3: Agents -/

inductive AgentState where
  | idle
  | talking
  | offline
  | busy
  deriving DecidableEq, Repr

structure Agent where
  state : AgentState
  calls : Nat
  lastActive : Int
  extension : CStr
  department : CStr
  deriving DecidableEq, Repr

/-- `AGENT_STATUS`; an agent stands under its extension. -/
structure AgentTable where
  lookup : CStr → Option Agent
  extension_eq : ∀ extension agent, lookup extension = some agent → agent.extension = extension

/-- `get_dept_agents` -/
def getDeptAgents (agents : AgentTable) (deptId : CStr) : List Agent :=
  match department deptId with
  | none => []
  | some dept =>
    (List.range' dept.rangeStart (dept.rangeEnd + 1 - dept.rangeStart)).filterMap fun ext =>
      agents.lookup (natText ext)

/-- `count_idle_agents` -/
def countIdleAgents (agents : AgentTable) (deptId : CStr) : Nat :=
  (getDeptAgents agents deptId).countP fun a => a.state = .idle

/-! ## Section 4: The machine -/

/-- The fields of `os.date("*t")` that are read; `wday` is 1 on a Sunday. -/
structure Date where
  wday : Nat
  hour : Nat
  min : Nat
  deriving DecidableEq, Repr

structure Platform where
  /-- The readings of `os.time`, in order. -/
  clock : Nat → Int
  /-- The local time of a reading. -/
  date : Int → Date
  /-- `table.sort` by `last_active`; the order of equals is not specified. -/
  sort : List Agent → List Agent
  sort_perm : ∀ agents, (sort agents).Perm agents
  sorted : ∀ agents, (sort agents).Pairwise fun a b => ¬ b.lastActive < a.lastActive
  /-- The text of a double. -/
  floatText : LuaFloat → CStr

/-- A machine whose clock stands still. -/
def Platform.steady (now : Int) (date : Date) : Platform where
  clock := fun _ => now
  date := fun _ => date
  sort := fun agents => agents.mergeSort fun a b => a.lastActive ≤ b.lastActive
  sort_perm := fun agents => List.mergeSort_perm agents _
  sorted := by
    intro agents
    apply (List.pairwise_mergeSort _ _ agents).imp
    · intro a b hab
      simpa using hab
    · intro a b c hab hbc
      simp only [decide_eq_true_eq] at hab hbc ⊢
      omega
    · intro a b
      simp only [Bool.or_eq_true, decide_eq_true_eq]
      omega
  floatText := fun _ => []

/-- `pick_idle_agent` -/
def pickIdleAgent (p : Platform) (agents : AgentTable) (deptId : CStr) : Option Agent :=
  let idles := (getDeptAgents agents deptId).filter fun a => a.state = .idle
  -- the agent is only read: its state stays `idle`
  if idles.length = 0 then none else (p.sort idles).head?

/-! ## Section 5: State -/

structure QueueEntry where
  caller : CStr
  arrival : Int
  deriving DecidableEq, Repr

structure LogEntry where
  time : Int
  level : CStr
  caller : CStr
  event : CStr
  detail : CStr
  deriving DecidableEq, Repr

/-- The tables that routing depends on. -/
structure RouteTables where
  /-- `_TEST_FORCE_WORKTIME` -/
  forceWorktime : Bool
  config : RouteConfig
  agents : AgentTable
  /-- `QUEUE` -/
  queue : CStr → Option (List QueueEntry)
  /-- `INVALID_KEY_COUNT` -/
  invalidKeyCount : CStr → Option Nat
  /-- `TIMEOUT_RETRY_COUNT` -/
  timeoutRetryCount : CStr → Option Nat

structure RouteState where
  tables : RouteTables
  /-- `CALL_LOG`, from 1 -/
  callLog : Nat → Option LogEntry
  callLogIndex : Nat
  /-- How often the clock was read. -/
  reads : Nat

inductive LuaError where
  | concatNil
  | indexNil
  | arithmeticOnNil
  /-- "number has no integer representation" -/
  | noInteger
  /-- "index is nil", of an assignment -/
  | nilKey
  deriving DecidableEq, Repr

abbrev RouteM : Type → Type := Script LuaError RouteState

def modifyTables (f : RouteTables → RouteTables) : RouteM Unit :=
  modify fun s => { s with tables := f s.tables }

def getTables : RouteM RouteTables := do return (← get).tables

/-- `os.time()` -/
def osTime (p : Platform) : RouteM Int := do
  let s ← get
  set { s with reads := s.reads + 1 }
  return p.clock s.reads

/-- `os.date("*t")` -/
def osDate (p : Platform) : RouteM Date := do return p.date (← osTime p)

/-- `string.format("%d", v)` -/
def formatInt (v : LuaNumber) : RouteM CStr :=
  match v.toInteger? with
  | some n => return longText n
  | none => throw .noInteger

/-- A string operand of `..` -/
def concatOperand (s : Option CStr) : RouteM CStr :=
  match s with
  | some s => return s
  | none => throw .concatNil

/-- A number operand of an arithmetic operation. -/
def arithOperand (v : Option LuaNumber) : RouteM LuaNumber :=
  match v with
  | some v => return v
  | none => throw .arithmeticOnNil

/-- `%02d` -/
def twoDigits (n : Nat) : CStr := if n < 10 then 48 :: natText n else natText n

/-- The agent under `extension` is changed, if there is one. -/
def AgentTable.alter (agents : AgentTable) (extension : CStr) (f : Agent → Agent)
    (hf : ∀ a, (f a).extension = a.extension) : AgentTable where
  lookup := fun key =>
    if key = extension then (agents.lookup key).map f else agents.lookup key
  extension_eq := by
    intro key agent h
    split at h
    · obtain ⟨a, ha, rfl⟩ := Option.map_eq_some_iff.mp h
      rw [hf a]
      exact agents.extension_eq key a ha
    · exact agents.extension_eq key agent h

/-- The assignments of `set_agent_state` to an agent. -/
def Agent.setState (agent : Agent) (state : AgentState) (now : Int) : Agent :=
  { agent with
    state := state
    lastActive := now
    calls :=
      match state with
      | .talking => agent.calls + 1
      -- `math.max(0, calls - 1)`
      | .idle => agent.calls - 1
      | _ => agent.calls }

/-- `set_agent_state`; no function of the script calls it. -/
def setAgentState (p : Platform) (extension : CStr) (state : AgentState) : RouteM Unit := do
  let t ← getTables
  match t.agents.lookup extension with
  | none => return
  | some _ =>
    let now ← osTime p
    modifyTables fun t =>
      { t with agents := t.agents.alter extension (·.setState state now) fun _ => rfl }

/-! ## Section 6: Queues -/

def RouteTables.setQueue (t : RouteTables) (deptId : CStr) (q : List QueueEntry) : RouteTables :=
  { t with queue := Function.update t.queue deptId (some q) }

/-- `if not QUEUE[dept_id] then QUEUE[dept_id] = {} end` -/
def RouteTables.openQueue (t : RouteTables) (deptId : CStr) : RouteTables :=
  match t.queue deptId with
  | some _ => t
  | none => t.setQueue deptId []

/-- `queue_size` -/
def RouteTables.queueSize (t : RouteTables) (deptId : CStr) : Nat :=
  ((t.queue deptId).getD []).length

/-- `queue_push`: false if the queue is full. -/
def queuePush (p : Platform) (deptId callerId : CStr) : RouteM Bool := do
  modifyTables fun t => t.openQueue deptId
  let t ← getTables
  if t.config.maxQueueSize.le (.int (t.queueSize deptId)) then
    return false
  else
    let now ← osTime p
    modifyTables fun t => t.setQueue deptId ((t.queue deptId).getD [] ++ [⟨callerId, now⟩])
    return true

/-- The loop of `queue_cleanup` over one queue, from index `i`. -/
def cleanupFrom (expired : QueueEntry → Bool) (q : List QueueEntry) (i : Nat) :
    List QueueEntry :=
  if h : i < q.length then
    -- the next entry has moved to `i`
    if expired q[i] then cleanupFrom expired (q.eraseIdx i) i
    else cleanupFrom expired q (i + 1)
  else q
termination_by q.length - i
decreasing_by
  · rw [List.length_eraseIdx_of_lt h]
    omega
  · omega

/-- An entry that has waited for longer than `queue_timeout`. -/
def RouteConfig.expired (config : RouteConfig) (now : Int) (entry : QueueEntry) : Bool :=
  config.queueTimeout.lt (.int (now - entry.arrival))

/-- The queues after `queue_cleanup` at a time. -/
def RouteTables.cleanup (t : RouteTables) (now : Int) : RouteTables :=
  { t with
    queue := fun deptId => (t.queue deptId).map fun q => cleanupFrom (t.config.expired now) q 0 }

def queueCleanup (p : Platform) : RouteM Unit := do
  let now ← osTime p
  modifyTables fun t => t.cleanup now

/-! ## Section 7: Working hours and log -/

/-- `is_work_time` -/
def isWorkTime (p : Platform) : RouteM Bool := do
  let t ← getTables
  if t.forceWorktime then
    return true
  else
    let cfg := t.config.workHours
    let now ← osDate p
    -- Monday is 1 and Sunday is 7
    let dayIdx := if now.wday = 1 then 7 else now.wday - 1
    if t.config.workDays dayIdx ≠ some true then
      return false
    else
      let nowMins := now.hour * 60 + now.min
      let startHour ← arithOperand cfg.startHour
      let startMinute ← arithOperand cfg.startMinute
      let endHour ← arithOperand cfg.endHour
      let endMinute ← arithOperand cfg.endMinute
      let startMins := (startHour.mul (.int 60)).add startMinute
      let endMins := (endHour.mul (.int 60)).add endMinute
      -- the end is not part of the working hours
      return startMins.le (.int nowMins) && (LuaNumber.int nowMins).lt endMins

/-- `get_time_description` -/
def getTimeDescription (p : Platform) : RouteM CStr := do
  let now ← osDate p
  let time := twoDigits now.hour ++ cstr ":" ++ twoDigits now.min
  if ← isWorkTime p then
    return cstr "工作日 " ++ time ++ cstr " (工作时段)"
  else
    return cstr "非工作日 " ++ time ++ cstr " (夜间/休息时段)"

/-- `CALL_LOG_MAX` -/
def callLogMax : Nat := 100

/-- `log_call` -/
def logCall (p : Platform) (level : CStr) (callerId : Option CStr) (event detail : CStr) :
    RouteM Unit := do
  -- a ring: entry 1 follows entry 100
  modify fun s => { s with callLogIndex := s.callLogIndex % callLogMax + 1 }
  let now ← osTime p
  modify fun s =>
    { s with
      callLog := Function.update s.callLog s.callLogIndex
        (some ⟨now, level, callerId.getD (cstr "unknown"), event, detail⟩) }

/-! ## Section 8: Helpers -/

/-- The table that a routing function answers with. -/
structure Answer where
  code : Int
  target : CStr
  department : CStr
  description : CStr
  deriving DecidableEq, Repr

/-- `make_response` -/
def makeResponse (code : Int) (target department description : CStr) : Answer :=
  ⟨code, target, department, description⟩

/-- The range test that `find_department` and `is_external_caller` share. -/
def Department.contains (dept : Department) (ext : LuaNumber) : Bool :=
  (LuaNumber.int dept.rangeStart).le ext && ext.le (.int dept.rangeEnd)

/-- `find_department` -/
def findDepartment (extension : CStr) : Option (CStr × Department) :=
  match tonumber extension with
  | none => none
  | some ext => departments.find? fun d => d.2.contains ext

/-- `is_external_caller` -/
def isExternalCaller (callerId : Option CStr) : Bool :=
  match callerId with
  | none => true
  | some callerId =>
    if callerId = [] then true
    else if callerId.take 3 = cstr "400" then true
    else
      match tonumber callerId with
      -- a text that is no number
      | none => true
      | some num =>
        if num.lt (.int 1000) || (LuaNumber.int 9999).lt num then true
        else !departments.any fun d => d.2.contains num

/-- `find_overflow_dept` -/
def findOverflowDept (t : RouteTables) (excludeDept : CStr) : Option (Department × CStr) :=
  -- the order of the list decides, not the number of idle agents
  match t.config.overflowPriority.find? fun deptKey =>
      deptKey ≠ excludeDept && 0 < countIdleAgents t.agents deptKey with
  | none => none
  | some deptKey => (department deptKey).map fun dept => (dept, deptKey)

end Route
