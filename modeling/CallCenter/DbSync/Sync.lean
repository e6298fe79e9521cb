import CallCenter.DbRedis.Client
import CallCenter.DbSync.Worker

/-! # The Synchronisation Layer

    The calls of `db_sync.c` that the main thread makes about agents, as
    programs that share the queue, the stores and the fields of
    `db_sync_context_t` with the worker.  One operation is one access to the
    shared state or one call into `db_redis.c` or `db_mysql.c`; the worker
    and the environment may step between any two of them.

    * Section 1: the shared state and its operations.
    * Section 2: the functions of the agent cache and of `db_sync.c`.
    * Section 3: the system of the main thread, the worker and the stores.
    * Section 4: `idle_run`, the induction over its runs. -/

namespace DbSync

open CFormat Interference Transition DbMysql DbRedis

/-! ## Section 1: The shared state -/

/-- The fields of `db_sync_context_t`; for the two pointers, that they are not NULL. -/
structure SyncFields where
  mysqlPool : Bool
  redis : Bool
  workerRunning : Bool
  dbEnabled : Bool
  cacheEnabled : Bool
  lastHealthCheck : Int
  healthCheckIntervalSec : Int
  deriving DecidableEq, Repr

/-- A row of the departments as the client library returns it. -/
structure DeptTexts where
  deptKey : CStr
  deptName : Option CStr
  shortNumber : Option CStr
  rangeStart : Option CStr
  rangeEnd : Option CStr
  externalAccess : Option CStr
  minAgentsPerShift : Option CStr
  deriving DecidableEq, Repr

/-- A row of the agents joined with their departments; every agent has one,
    `department_id` being a foreign key. -/
structure AgentTexts where
  extension : CStr
  isOnline : Option CStr
  status : Option CStr
  concurrentCalls : Option CStr
  deriving DecidableEq, Repr

def agentTexts (row : AgentRow) : AgentTexts where
  extension := row.extension
  isOnline := row.isOnline.map intText
  status := row.status
  concurrentCalls := row.concurrentCalls.map intText

/-- `last` records for each extension the status and the number of calls most
    recently passed to `db_sync_agent_status_change`. -/
structure SyncState where
  fields : SyncFields
  redis : RedisContext
  keys : Keyspace
  departments : List DeptTexts
  agents : AgentTable
  worker : WorkerState
  last : CStr → Option (CStr × Int32)

inductive SyncOp where
  /-- Reading the fields of the context. -/
  | fields
  | setDbEnabled (v : Bool)
  | setCacheEnabled (v : Bool)
  | setLastHealthCheck (t : Int)
  /-- `time(NULL)` -/
  | time
  /-- `calloc` of a task. -/
  | alloc
  | queuePush (task : DbTask)
  /-- `db_mysql_pool_health` -/
  | poolHealth
  /-- The query of `db_mysql_query_agent_single`. -/
  | selectAgent (extension : CStr)
  /-- The queries of the cache warm-up. -/
  | selectDepartments
  | selectAgents
  | redisPing
  | redisEnsureConnected
  | redisSet (key value : CStr)
  | redisHget (key field : CStr) (outSize : Nat)
  | redisHmset (key : CStr) (fields : List (CStr × CStr))

abbrev SyncRet : SyncOp → Type
  | .fields => SyncFields
  | .setDbEnabled _ => Unit
  | .setCacheEnabled _ => Unit
  | .setLastHealthCheck _ => Unit
  | .time => Int
  | .alloc => Bool
  | .queuePush _ => Unit
  | .poolHealth => Int
  | .selectAgent _ => Option (Option (Option CStr × Option CStr))
  | .selectDepartments => Option (List DeptTexts)
  | .selectAgents => Option (List AgentTexts)
  | .redisPing => Int
  | .redisEnsureConnected => Int
  | .redisSet _ _ => Int
  | .redisHget _ _ _ => Option CStr
  | .redisHmset _ _ => Int

/-- What the environment has to say about an operation. -/
inductive SyncAnswer where
  | silent
  | now (t : Int)
  /-- Whether memory was there, or whether the query succeeded. -/
  | ok (b : Bool)
  | health (n : Int)
  /-- The network, for a call into `db_redis.c`. -/
  | net (answers : List NetAnswer)
  deriving DecidableEq, Repr

/-- A call into `db_redis.c`. -/
def onRedis {α : Type} (s : SyncState) (p : RedisProg (α × RedisContext))
    (answers : List NetAnswer) : Option (α × SyncState) :=
  (exec netPerform p answers s.keys).map fun r =>
    (r.1.1, { s with redis := r.1.2, keys := r.2 })

def syncPerform : (op : SyncOp) → SyncAnswer → SyncState → Option (SyncRet op × SyncState)
  | .fields, .silent, s => some (s.fields, s)
  | .setDbEnabled v, .silent, s => some ((), { s with fields := { s.fields with dbEnabled := v } })
  | .setCacheEnabled v, .silent, s =>
    some ((), { s with fields := { s.fields with cacheEnabled := v } })
  | .setLastHealthCheck t, .silent, s =>
    some ((), { s with fields := { s.fields with lastHealthCheck := t } })
  | .time, .now t, s => some (t, s)
  | .alloc, .ok b, s => some (b, s)
  | .queuePush task, .silent, s => some ((), { s with worker := s.worker.push task })
  | .poolHealth, .health n, s => some (n, s)
  | .selectAgent extension, .ok b, s =>
    some (if b then some ((s.agents.find extension).map statusRow) else none, s)
  | .selectDepartments, .ok b, s => some (if b then some s.departments else none, s)
  | .selectAgents, .ok b, s => some (if b then some (s.agents.rows.map agentTexts) else none, s)
  | .redisPing, .net answers, s => onRedis s (dbRedisPing s.redis) answers
  | .redisEnsureConnected, .net answers, s => onRedis s (dbRedisEnsureConnected s.redis) answers
  | .redisSet key value, .net answers, s => onRedis s (dbRedisSet s.redis key value) answers
  | .redisHget key field outSize, .net answers, s =>
    onRedis s (dbRedisHget s.redis key field outSize) answers
  | .redisHmset key fields, .net answers, s =>
    onRedis s (dbRedisHmset s.redis key fields) answers
  | _, _, _ => none

/-! ## Section 2: The calls -/

abbrev SyncProg : Type → Type := Prog SyncOp SyncRet

def getFields : SyncProg SyncFields := Prog.op SyncOp.fields

def setDbEnabled (v : Bool) : SyncProg Unit := Prog.op (SyncOp.setDbEnabled v)

def setCacheEnabled (v : Bool) : SyncProg Unit := Prog.op (SyncOp.setCacheEnabled v)

def setLastHealthCheck (t : Int) : SyncProg Unit := Prog.op (SyncOp.setLastHealthCheck t)

def timeNow : SyncProg Int := Prog.op SyncOp.time

def allocTask : SyncProg Bool := Prog.op SyncOp.alloc

def pushTask (task : DbTask) : SyncProg Unit := Prog.op (SyncOp.queuePush task)

def poolHealth : SyncProg Int := Prog.op SyncOp.poolHealth

def selectAgent (extension : CStr) : SyncProg (Option (Option (Option CStr × Option CStr))) :=
  Prog.op (SyncOp.selectAgent extension)

def selectDepartments : SyncProg (Option (List DeptTexts)) := Prog.op SyncOp.selectDepartments

def selectAgents : SyncProg (Option (List AgentTexts)) := Prog.op SyncOp.selectAgents

def redisPing : SyncProg Int := Prog.op SyncOp.redisPing

def redisEnsureConnected : SyncProg Int := Prog.op SyncOp.redisEnsureConnected

def redisSet (key value : CStr) : SyncProg Int := Prog.op (SyncOp.redisSet key value)

def redisHget (key field : CStr) (outSize : Nat) : SyncProg (Option CStr) :=
  Prog.op (SyncOp.redisHget key field outSize)

def redisHmset (key : CStr) (fields : List (CStr × CStr)) : SyncProg Int :=
  Prog.op (SyncOp.redisHmset key fields)

/-! ### The agent cache -/

/-- `DB_MAX_REDIS_KEY_LEN` -/
def dbMaxRedisKeyLen : Nat := 256

/-- `REDIS_KEY_AGENT_STATUS` -/
def agentStatusKey (extension : CStr) : CStr :=
  snprintf dbMaxRedisKeyLen (cstr "agent:status:" ++ extension)

/-- `REDIS_KEY_AGENT_ONLINE` -/
def agentOnlineKey (extension : CStr) : CStr :=
  snprintf dbMaxRedisKeyLen (cstr "agent:online:" ++ extension)

/-- `REDIS_KEY_DEPT_CONFIG` -/
def deptConfigKey (deptKey : CStr) : CStr :=
  snprintf dbMaxRedisKeyLen (cstr "dept:config:" ++ deptKey)

/-- The fields and values of `db_redis_cache_agent_status`. -/
def agentStatusFields (extension status : CStr) (concurrentCalls : Int32) (now : Int) :
    List (CStr × CStr) :=
  [(cstr "extension", extension), (cstr "status", status),
    (cstr "concurrent_calls", snprintf 16 (intText concurrentCalls)),
    (cstr "updated_at", snprintf 32 (longText now))]

def dbRedisCacheAgentStatus (extension status : CStr) (concurrentCalls : Int32) :
    SyncProg Int := do
  let now ← timeNow
  redisHmset (agentStatusKey extension) (agentStatusFields extension status concurrentCalls now)

def dbRedisCacheAgentOnline (extension : CStr) (isOnline : Int32) : SyncProg Int :=
  redisSet (agentOnlineKey extension) (snprintf 8 (intText isOnline))

def dbRedisCacheDeptConfig (deptKey configJson : CStr) : SyncProg Int :=
  redisSet (deptConfigKey deptKey) configJson

/-- `status_out` has room for `room` bytes and the NUL, or is NULL;
    `callsOut` says that `concurrent_calls_out` is not NULL.  The result is
    what the two hold on return code 0, and `none` on -1. -/
def dbRedisGetAgentStatus (extension : CStr) (room : Option Nat) (callsOut : Bool) :
    SyncProg (Option (Option CStr × Option Int32)) := do
  let status ← redisHget (agentStatusKey extension) (cstr "status") 32
  match status with
  | none => return none
  | some status =>
    -- the second field is asked for only if somebody wants it
    if callsOut then
      let calls ← redisHget (agentStatusKey extension) (cstr "concurrent_calls") 16
      return some (room.map status.take, some ((calls.map atoi).getD 0))
    else
      return some (room.map status.take, none)

/-! ### Updates -/

/-- `calloc`, `pack_*` and `queue_push`; without memory the update is dropped. -/
def enqueueTask (task : DbTask) : SyncProg Unit := do
  let allocated ← allocTask
  if allocated then pushTask task

/-- `if (sync->cache_enabled && sync->redis) …` -/
def whenCached (sync : SyncFields) (write : SyncProg Int) : SyncProg Unit :=
  if sync.cacheEnabled ∧ sync.redis then do
    let _ ← write
  else
    return ()

/-- `if (sync->db_enabled && sync->worker_running) …` -/
def whenPersisted (sync : SyncFields) (task : DbTask) : SyncProg Unit :=
  if sync.dbEnabled ∧ sync.workerRunning then enqueueTask task else return ()

def dbSyncAgentStatusChange (extension newStatus : Option CStr) (concurrentCalls : Int32) :
    SyncProg Int :=
  match extension, newStatus with
  | some extension, some newStatus => do
    let sync ← getFields
    whenCached sync (dbRedisCacheAgentStatus extension newStatus concurrentCalls)
    whenPersisted sync (packAgentStatus extension newStatus concurrentCalls)
    return 0
  | _, _ => return -1

def dbSyncAgentOnline (extension : Option CStr) (isOnline : Int32) : SyncProg Int :=
  match extension with
  | some extension => do
    let sync ← getFields
    whenCached sync (dbRedisCacheAgentOnline extension isOnline)
    whenPersisted sync (packAgentOnline extension isOnline)
    return 0
  | none => return -1

/-! ### Queries -/

/-- The return code, `status_out` and `concurrent_calls_out`. -/
structure QueryResult where
  ret : Int
  status : Option CStr
  calls : Option Int32
  deriving DecidableEq, Repr

/-- `if (ret == 0 && sync->cache_enabled && sync->redis) …` -/
def writeBack (sync : SyncFields) (extension : CStr) (found : Int × CStr × Int32) :
    SyncProg Unit :=
  if found.1 = 0 then
    whenCached sync (dbRedisCacheAgentStatus extension found.2.1 found.2.2)
  else
    return ()

/-- The second half of the query: a cache miss goes to MySQL, and what is
    found there is written back. -/
def queryMysql (sync : SyncFields) (extension : CStr) (room : Option Nat) (callsOut : Bool) :
    SyncProg QueryResult := do
  if sync.dbEnabled ∧ sync.mysqlPool then
    let res ← selectAgent extension
    let found := dbMysqlQueryAgentSingle res
    writeBack sync extension found
    return ⟨found.1, room.map found.2.1.take, if callsOut then some found.2.2 else none⟩
  else
    -- neither store: a default, with a return code of its own
    return ⟨1, room.map (cstr "offline").take, if callsOut then some 0 else none⟩

def dbSyncAgentStatusQuery (extension : Option CStr) (room : Option Nat) (callsOut : Bool) :
    SyncProg QueryResult :=
  match extension with
  | some extension => do
    let sync ← getFields
    if sync.cacheEnabled ∧ sync.redis then
      let hit ← dbRedisGetAgentStatus extension room callsOut
      match hit with
      -- the cache is believed, whatever MySQL holds
      | some (status, calls) => return ⟨0, status, calls⟩
      | none => queryMysql sync extension room callsOut
    else
      queryMysql sync extension room callsOut
  | none => return ⟨-1, none, none⟩

/-! ### Warm-up and health -/

/-- The JSON text of a department. -/
def deptConfigJson (row : DeptTexts) : CStr :=
  snprintf 2048
    (cstr "\x7b\"dept_key\":\"" ++ row.deptKey ++ cstr "\",\"dept_name\":\"" ++
      row.deptName.getD [] ++ cstr "\",\"short_number\":\"" ++ row.shortNumber.getD [] ++
      cstr "\",\"range_start\":\"" ++ row.rangeStart.getD [] ++ cstr "\",\"range_end\":\"" ++
      row.rangeEnd.getD [] ++ cstr "\",\"external_access\":" ++
      row.externalAccess.getD (cstr "0") ++ cstr ",\"min_agents_per_shift\":" ++
      row.minAgentsPerShift.getD (cstr "1") ++ cstr "\x7d")

def dbSyncCacheWarmupDepts : SyncProg Int := do
  let sync ← getFields
  if !sync.dbEnabled ∨ !sync.cacheEnabled ∨ !sync.mysqlPool ∨ !sync.redis then
    return -1
  else
    let res ← selectDepartments
    match res with
    | none => return -1
    | some rows =>
      rows.forM fun row => do
        let _ ← dbRedisCacheDeptConfig row.deptKey (deptConfigJson row)
      return rows.length

/-- One round of the loop over the agents. -/
def warmupAgent (row : AgentTexts) : SyncProg Unit := do
  let status := row.status.getD (cstr "offline")
  let calls := (row.concurrentCalls.map atoi).getD 0
  let online := (row.isOnline.map atoi).getD 0
  let _ ← dbRedisCacheAgentStatus row.extension status calls
  let _ ← dbRedisCacheAgentOnline row.extension online

def dbSyncCacheWarmupAgents : SyncProg Int := do
  let sync ← getFields
  if !sync.dbEnabled ∨ !sync.cacheEnabled ∨ !sync.mysqlPool ∨ !sync.redis then
    return -1
  else
    let res ← selectAgents
    match res with
    | none => return -1
    | some rows =>
      rows.forM warmupAgent
      return rows.length

def dbSyncCacheWarmupAll : SyncProg Int := do
  let sync ← getFields
  if !sync.dbEnabled ∨ !sync.cacheEnabled then
    return -1
  else
    let _ ← dbSyncCacheWarmupDepts
    let _ ← dbSyncCacheWarmupAgents
    return 0

/-- The MySQL part of `db_sync_health_check`. -/
def checkMysql : SyncProg Unit := do
  let sync ← getFields
  if sync.mysqlPool ∧ sync.dbEnabled then
    let health ← poolHealth
    -- no connection is left
    if health ≤ 0 then setDbEnabled false
  else if sync.mysqlPool ∧ !sync.dbEnabled then
    let health ← poolHealth
    if health > 0 then setDbEnabled true

/-- The Redis part: a lost connection disables the cache, a recovered one
    enables it and warms it up. -/
def checkRedis (sync : SyncFields) : SyncProg Unit := do
  if sync.redis ∧ sync.cacheEnabled then
    let ret ← redisPing
    if ret ≠ 0 then setCacheEnabled false
  else if sync.redis ∧ !sync.cacheEnabled then
    -- a lost cache is looked after with a new connection
    let ret ← redisEnsureConnected
    if ret = 0 then
      setCacheEnabled true
      if sync.dbEnabled then
        let _ ← dbSyncCacheWarmupAll

/-- `(sync->db_enabled || sync->cache_enabled) ? 0 : -1` -/
def healthResult (sync : SyncFields) : Int :=
  if sync.dbEnabled || sync.cacheEnabled then 0 else -1

/-- The last test of `db_sync_health_check`: a recovery that `checkRedis` has
    warmed up is warmed up once more. -/
def warmupRecovered (before after : SyncFields) : SyncProg Unit :=
  if !before.cacheEnabled ∧ after.cacheEnabled ∧ after.dbEnabled then do
    let _ ← dbSyncCacheWarmupAll
  else
    return ()

def dbSyncHealthCheck : SyncProg Int := do
  let now ← timeNow
  let sync ← getFields
  if now - sync.lastHealthCheck < sync.healthCheckIntervalSec then
    return healthResult sync
  else
    setLastHealthCheck now
    checkMysql
    let before ← getFields
    checkRedis before
    let after ← getFields
    warmupRecovered before after
    return healthResult after

/-! ## Section 3: The system -/

/-- The calls of the main thread, with the arguments after the context. -/
inductive SyncCall where
  | agentStatusChange (extension newStatus : Option CStr) (concurrentCalls : Int32)
  | agentOnline (extension : Option CStr) (isOnline : Int32)
  | agentStatusQuery (extension : Option CStr) (room : Option Nat) (callsOut : Bool)
  | healthCheck
  deriving DecidableEq, Repr

def SyncCall.program : SyncCall → SyncProg Unit
  | .agentStatusChange extension newStatus calls => do
    let _ ← dbSyncAgentStatusChange extension newStatus calls
  | .agentOnline extension isOnline => do
    let _ ← dbSyncAgentOnline extension isOnline
  | .agentStatusQuery extension room callsOut => do
    let _ ← dbSyncAgentStatusQuery extension room callsOut
  | .healthCheck => do
    let _ ← dbSyncHealthCheck

/-- The call is recorded when it is made. -/
def SyncCall.record : SyncCall → SyncState → SyncState
  | .agentStatusChange (some extension) (some newStatus) calls, s =>
    { s with last := Function.update s.last extension (some (newStatus, calls)) }
  | _, s => s

/-- Steps of the worker and of the environment. -/
inductive EnvStep where
  | workerPop
  /-- The worker finishes the task in hand.  `executed` says that the server
      executed the statement, if there was one. -/
  | workerFinish (endTime : CStr) (executed : Bool)
  /-- Redis loses keys. -/
  | loseKeys (gone : List CStr)
  deriving DecidableEq, Repr

def envStep (s : SyncState) : EnvStep → Option SyncState
  | .workerPop => s.worker.pop.map fun w => { s with worker := w }
  -- `db_enabled` is read again when the task is carried out
  | .workerFinish endTime executed =>
    match s.worker.pc with
    | .holding task =>
      some { s with
        agents :=
          if s.fields.dbEnabled ∧ executed then
            (taskOperation endTime task).elim s.agents fun call => call.onAgents s.agents
          else s.agents
        worker := s.worker.finish }
    | _ => none
  | .loseKeys gone => some { s with keys := fun key => if key ∈ gone then none else s.keys key }

/-- `main` is the rest of the call in progress. -/
structure SyncSystem where
  state : SyncState
  main : Option (SyncProg Unit)

inductive SyncLabel where
  | start (call : SyncCall)
  /-- The next operation of the call in progress. -/
  | answer (a : SyncAnswer)
  /-- The call returns. -/
  | leave
  | env (e : EnvStep)
  deriving DecidableEq, Repr

def syncStep (s : SyncSystem) : SyncLabel → Option SyncSystem
  | .start call =>
    match s.main with
    | none => some ⟨call.record s.state, some call.program⟩
    | some _ => none
  | .answer a =>
    match s.main with
    -- one operation at a time, so that the worker can step in between
    | some (.call op k) => (syncPerform op a s.state).map fun r => ⟨r.2, some (k r.1)⟩
    | _ => none
  | .leave =>
    match s.main with
    | some (.ret _) => some ⟨s.state, none⟩
    | _ => none
  | .env e => (envStep s.state e).map fun t => ⟨t, s.main⟩

/-! ## Section 4: Induction over the runs -/

/-- A condition on the steps of a run. -/
structure SyncGuard where
  call : SyncState → SyncCall → Prop
  answer : SyncState → SyncOp → SyncAnswer → Prop
  env : EnvStep → Prop

def SyncGuard.admits (g : SyncGuard) (s : SyncSystem) : SyncLabel → Prop
  | .start call => g.call s.state call
  | .answer a =>
    match s.main with
    | some (.call op _) => g.answer s.state op a
    | _ => False
  | .leave => True
  | .env e => g.env e

/-- The world of the main thread in runs that meet the condition. -/
def SyncGuard.world (g : SyncGuard) : World SyncOp SyncRet SyncAnswer SyncState where
  perform := syncPerform
  admits := g.answer
  others s t := ∃ e, g.env e ∧ envStep s e = some t

/-- Between calls `idle` holds, and what is left of a call leads back to it. -/
def SyncGuard.Inv (g : SyncGuard) (idle : SyncState → Prop) (s : SyncSystem) : Prop :=
  match s.main with
  | none => idle s.state
  | some p => g.world.wp (fun _ => idle) p s.state

/-- What has to be shown of one call. -/
def SyncGuard.Call (g : SyncGuard) (idle : SyncState → Prop) (call : SyncCall) : Prop :=
  ∀ s, idle s → g.call s call → g.world.wp (fun _ => idle) call.program (call.record s)

/-- **Step lemma**: if every call leads from `idle` to `idle`, each step of
    the system keeps the invariant. -/
theorem inv_step {g : SyncGuard} {idle : SyncState → Prop} (hidle : g.world.Stable idle)
    (hcall : ∀ call, g.Call idle call) {s t : SyncSystem} {l : SyncLabel} (hinv : g.Inv idle s)
    (hstep : restrict (ofPartial syncStep) g.admits s l t) : g.Inv idle t := by
  obtain ⟨hadm, hstep⟩ := hstep
  obtain ⟨state, main⟩ := s
  cases l with
  | start call =>
    cases main with
    | none =>
      obtain rfl := Option.some.inj hstep
      -- the whole call is ahead
      exact hcall call state hinv hadm
    | some p => simp [ofPartial, syncStep] at hstep
  | answer a =>
    cases main with
    | none => simp [ofPartial, syncStep] at hstep
    | some p =>
      cases p with
      | ret u => simp [ofPartial, syncStep] at hstep
      | call op k =>
        obtain ⟨r, hperf, rfl⟩ := Option.map_eq_some_iff.mp hstep
        -- the rest of the call still leads back to `idle`
        have hwp : g.world.wp (fun _ => idle) (Prog.call op k) state := hinv
        exact World.wp_call hwp hadm hperf
  | leave =>
    cases main with
    | none => simp [ofPartial, syncStep] at hstep
    | some p =>
      cases p with
      | ret u =>
        obtain rfl := Option.some.inj hstep
        have hwp : g.world.wp (fun _ => idle) (Prog.ret u) state := hinv
        have hend : idle state := World.wp_ret hwp
        exact hend
      | call op k => simp [ofPartial, syncStep] at hstep
  | env e =>
    obtain ⟨state', henv, rfl⟩ := Option.map_eq_some_iff.mp hstep
    -- the others may step wherever the call is
    have hothers : g.world.others state state' := ⟨e, hadm, henv⟩
    cases main with
    | none => exact hidle state state' hothers hinv
    | some p => exact World.wp_others hothers hinv

/-- **Run lemma**: `idle` holds between the calls of every run that meets the
    condition. -/
theorem idle_run {g : SyncGuard} {idle : SyncState → Prop} (hidle : g.world.Stable idle)
    (hcall : ∀ call, g.Call idle call) {s₀ : SyncState} (h₀ : idle s₀) {ls : List SyncLabel}
    {s : SyncSystem} (hrun : Run (restrict (ofPartial syncStep) g.admits) ⟨s₀, none⟩ ls s)
    (hmain : s.main = none) : idle s.state := by
  have hinit : g.Inv idle ⟨s₀, none⟩ := h₀
  have hinv : g.Inv idle s := by
    apply hrun.invariant hinit
    intro t l u ht hstep
    exact inv_step hidle hcall ht hstep
  unfold SyncGuard.Inv at hinv
  rw [hmain] at hinv
  exact hinv

end DbSync
