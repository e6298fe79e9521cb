import Mathlib.Data.Fintype.Defs
import Mathlib.Tactic.MkIffOfInductiveProp
import CallCenter.Framework.CFormat
import CallCenter.Framework.Ownership
import CallCenter.Framework.Transition

/-! # The Life of the Server

    `main.c`: the components that `main` creates one after the other, the
    three modes, and the shutdown.  A step is a call of `main`, at the places
    that matter a single statement.  Between any two steps a signal can be
    handled and the worker thread of `db_sync` can work on a task.

    The handler and the logger test pointers that `main` frees first and
    clears afterwards, `call_test_run` reads from `db_sync` whether it was
    created or not, and `el_run` sets the flag that `el_stop` clears.
    `lifecycle_sound_iff` says what follows from the first two, `stops_iff`
    what follows from the last. -/

namespace SipServer

open CFormat Ownership Transition

/-! ## Section 1: The state -/

inductive Mode where
  | callTest
  | demo
  | server
  deriving DecidableEq, Repr

/-- The mode that `main` takes from `argv[1]` and its successors. -/
def modeOf (args : List CStr) : Mode :=
  if cstr "--call-test" ∈ args then .callTest
  else if cstr "--demo" ∈ args then .demo
  else .server

inductive Resource where
  | logFile
  | luaVm
  | mysqlPool
  | redis
  | dbSync
  | eventLoop
  deriving DecidableEq, Repr

instance : Fintype Resource where
  elems := {.logFile, .luaVm, .mysqlPool, .redis, .dbSync, .eventLoop}
  complete r := by cases r <;> decide

/-- What `main` does next. -/
inductive MainPc where
  | loggerInit
  | luaVmCreate
  | luaVmInit
  | luaVmLoadScript
  -- `init_database`
  | poolCreate
  | redisCreate
  | dbSyncCreate
  -- `db_sync_init`
  | poolConnect
  | redisConnect
  | workerCreate
  | warmup
  /-- `call_test_run` or `run_demos` -/
  | tests
  /-- `while (keep_running)` -/
  | waitTest
  | sleep
  | elCreate
  -- `el_run`
  | elRunBuffer
  /-- `el->running = 1` -/
  | elRunStart
  /-- `while (el->running)` -/
  | elRunTest
  | elRunWait
  | elRunEvents
  | elDestroy
  /-- `g_event_loop = NULL` -/
  | loopClear
  -- `shutdown_database`
  | workerStop
  | workerJoin
  | dbSyncDestroy
  | redisDestroy
  | poolDestroy
  | luaVmDestroy
  /-- `fclose(log_file)`, on the way to an exit with success or with failure. -/
  | logClose (success : Bool)
  /-- `log_file = NULL` -/
  | logClear (success : Bool)
  | exited (success : Bool)
  deriving DecidableEq, Repr

/-- The variables of `main.c`, `logger.c`, the event loop and `db_sync`; of a
    pointer, whether it is set. -/
structure ServerState where
  mode : Mode
  pc : MainPc
  keepRunning : Bool
  logFile : Bool
  vm : Bool
  gMysqlPool : Bool
  gRedis : Bool
  gDbSync : Bool
  gEventLoop : Bool
  /-- `el->running` -/
  running : Bool
  /-- `sync->db_enabled` -/
  dbEnabled : Bool
  /-- `sync->cache_enabled` -/
  cacheEnabled : Bool
  /-- `sync->worker_running`, and there is the thread. -/
  worker : Bool
  /-- `sync->queue.shutdown` -/
  shutdown : Bool
  deriving DecidableEq, Repr

/-- `main` behind `setup_signal_handlers`. -/
def serverInit (args : List CStr) : ServerState where
  mode := modeOf args
  pc := .loggerInit
  keepRunning := true
  logFile := false
  vm := false
  gMysqlPool := false
  gRedis := false
  gDbSync := false
  gEventLoop := false
  running := false
  dbEnabled := false
  cacheEnabled := false
  worker := false
  shutdown := false

/-! ## Section 2: Steps -/

def ServerState.goto (s : ServerState) (pc : MainPc) : ServerState := { s with pc := pc }

/-- Where `main` goes behind the initialization. -/
def ServerState.start (s : ServerState) : ServerState :=
  s.goto (if s.mode = .server then .elCreate else .tests)

/-- An access to a component under a condition. -/
def useIf (c : Bool) (r : Resource) : List (Event Resource) := if c then [.use r] else []

/-- `logger_write` -/
def ServerState.write (s : ServerState) : List (Event Resource) := useIf s.logFile .logFile

/-- What the tests of `main` use.  `demo_db_status` returns without `g_db_sync`,
    but `call_test_run` ends with `if (sync->db_enabled)`. -/
def ServerState.testUses (s : ServerState) : List (Event Resource) :=
  .use .luaVm :: (useIf (s.mode = .callTest || s.gDbSync) .dbSync ++
    useIf (s.gDbSync && s.cacheEnabled && s.gRedis) .redis ++
    useIf (s.mode = .demo && s.gDbSync && s.dbEnabled && s.gMysqlPool) .mysqlPool)

/-- How a call turns out; only `epoll_wait` is interrupted. -/
inductive Outcome where
  | success
  | failure
  | interrupted
  deriving DecidableEq, Repr

/-- The next step of `main`, with the components it accesses; `none` if it has
    to wait or no step turns out so. -/
def mainStep (s : ServerState) (outcome : Outcome) :
    Option (List (Event Resource) × ServerState) :=
  match s.pc, outcome with
  | .loggerInit, .success =>
    some ([.acquire .logFile], { s.goto .luaVmCreate with logFile := true })
  | .loggerInit, .failure => some ([], s.goto (.exited false))
  | .luaVmCreate, .success =>
    some (s.write ++ [.acquire .luaVm], { s.goto .luaVmInit with vm := true })
  -- `LOG_FATAL` exits, whatever stands behind it
  | .luaVmCreate, .failure => some (s.write, s.goto (.logClose false))
  | .luaVmInit, .success => some (.use .luaVm :: s.write, s.goto .luaVmLoadScript)
  | .luaVmInit, .failure => some (.use .luaVm :: s.write, s.goto (.logClose false))
  | .luaVmLoadScript, .success => some (.use .luaVm :: s.write, s.goto .poolCreate)
  | .luaVmLoadScript, .failure => some (.use .luaVm :: s.write, s.goto (.logClose false))
  | .poolCreate, .success =>
    some (s.write ++ [.acquire .mysqlPool], { s.goto .redisCreate with gMysqlPool := true })
  | .poolCreate, .failure => some (s.write, s.goto .redisCreate)
  | .redisCreate, .success =>
    some (s.write ++ [.acquire .redis], { s.goto .dbSyncCreate with gRedis := true })
  | .redisCreate, .failure => some (s.write, s.goto .dbSyncCreate)
  | .dbSyncCreate, .success =>
    some (s.write ++ [.acquire .dbSync], { s.goto .poolConnect with gDbSync := true })
  -- `main` does not look at the result of `init_database`
  | .dbSyncCreate, .failure => some (s.write, s.start)
  | .poolConnect, .success =>
    some (.use .dbSync :: (s.write ++ useIf s.gMysqlPool .mysqlPool),
      { s.goto .redisConnect with dbEnabled := s.gMysqlPool })
  | .poolConnect, .failure =>
    some (.use .dbSync :: (s.write ++ useIf s.gMysqlPool .mysqlPool), s.goto .redisConnect)
  | .redisConnect, .success =>
    some (.use .dbSync :: (s.write ++ useIf s.gRedis .redis),
      { s.goto .workerCreate with cacheEnabled := s.gRedis })
  | .redisConnect, .failure =>
    some (.use .dbSync :: (s.write ++ useIf s.gRedis .redis), s.goto .workerCreate)
  | .workerCreate, .success => some ([.use .dbSync], { s.goto .warmup with worker := true })
  | .workerCreate, .failure => some (.use .dbSync :: s.write, s.start)
  | .warmup, .success =>
    some (.use .dbSync :: (s.write ++ useIf (s.cacheEnabled && s.dbEnabled) .mysqlPool ++
      useIf (s.cacheEnabled && s.dbEnabled) .redis), s.start)
  | .tests, .success => some (s.write ++ s.testUses, s.goto .waitTest)
  | .waitTest, .success => some ([], s.goto (if s.keepRunning then .sleep else .workerStop))
  | .sleep, .success => some ([], s.goto .waitTest)
  | .elCreate, .success =>
    some (s.write ++ [.acquire .eventLoop], { s.goto .elRunBuffer with gEventLoop := true })
  | .elCreate, .failure => some (s.write, s.goto (.logClose false))
  | .elRunBuffer, .success => some (.use .eventLoop :: s.write, s.goto .elRunStart)
  -- `el_run` returns -1
  | .elRunBuffer, .failure => some (.use .eventLoop :: s.write, s.goto .elDestroy)
  | .elRunStart, .success =>
    some (.use .eventLoop :: s.write, { s.goto .elRunTest with running := true })
  | .elRunTest, .success =>
    some ([.use .eventLoop], s.goto (if s.running then .elRunWait else .elDestroy))
  | .elRunWait, .success => some ([.use .eventLoop], s.goto .elRunEvents)
  | .elRunWait, .interrupted => some ([.use .eventLoop], s.goto .elRunTest)
  | .elRunWait, .failure => some (.use .eventLoop :: s.write, s.goto .elDestroy)
  -- the callbacks have the Lua VM route the calls
  | .elRunEvents, .success =>
    some (.use .eventLoop :: .use .luaVm :: s.write, s.goto .elRunTest)
  | .elDestroy, .success => some (s.write ++ [.release .eventLoop], s.goto .loopClear)
  | .loopClear, .success => some ([], { s.goto .workerStop with gEventLoop := false })
  | .workerStop, .success =>
    if s.gDbSync then
      some (.use .dbSync :: s.write, { s.goto .workerJoin with shutdown := s.worker })
    else some ([], s.goto .redisDestroy)
  -- `pthread_join`, where a worker was started
  | .workerJoin, .success =>
    if s.worker then none else some (.use .dbSync :: s.write, s.goto .dbSyncDestroy)
  | .dbSyncDestroy, .success =>
    some (s.write ++ [.release .dbSync], { s.goto .redisDestroy with gDbSync := false })
  | .redisDestroy, .success =>
    if s.gRedis then
      some (s.write ++ [.release .redis], { s.goto .poolDestroy with gRedis := false })
    else some ([], s.goto .poolDestroy)
  | .poolDestroy, .success =>
    if s.gMysqlPool then
      some (s.write ++ [.release .mysqlPool], { s.goto .luaVmDestroy with gMysqlPool := false })
    else some ([], s.goto .luaVmDestroy)
  | .luaVmDestroy, .success =>
    some (s.write ++ [.release .luaVm], { s.goto (.logClose true) with vm := false })
  | .logClose success, .success =>
    if s.logFile then some (s.write ++ [.release .logFile], s.goto (.logClear success))
    else some ([], s.goto (.exited success))
  | .logClear success, .success => some ([], { s.goto (.exited success) with logFile := false })
  | _, _ => none

/-- `signal_handler` -/
def signalHandler (s : ServerState) : List (Event Resource) × ServerState :=
  (s.write ++ useIf s.gEventLoop .eventLoop,
    { s with keepRunning := false, running := s.running && !s.gEventLoop })

/-- `db_sync_worker` works on a task. -/
def workerStep (s : ServerState) : List (Event Resource) × ServerState :=
  (.use .dbSync :: (s.write ++ useIf s.dbEnabled .mysqlPool), s)

def MainPc.over : MainPc → Bool
  | .exited _ => true
  | _ => false

inductive ServerLabel where
  | main (outcome : Outcome)
  | signal
  | worker
  /-- `queue_pop` gives the worker NULL. -/
  | workerExit
  deriving DecidableEq, Repr

/-- A step of the process. -/
def serverStep (s : ServerState) : ServerLabel → Option (List (Event Resource) × ServerState)
  | .main outcome => mainStep s outcome
  | .signal => if s.pc.over then none else some (signalHandler s)
  | .worker => if s.pc.over || !s.worker then none else some (workerStep s)
  | .workerExit =>
    if s.pc.over || !s.worker || !s.shutdown then none
    else some (.use .dbSync :: s.write, { s with worker := false })

/-- The process and all accesses so far. -/
structure Process where
  state : ServerState
  log : List (Event Resource)

def loggedStep (s : Process) (l : ServerLabel) : Option Process :=
  (serverStep s.state l).map fun r => ⟨r.2, s.log ++ r.1⟩

abbrev ServerRun (args : List CStr) (ls : List ServerLabel) (s : Process) : Prop :=
  Run (ofPartial loggedStep) ⟨serverInit args, []⟩ ls s

/-! ## Section 3: Which components exist -/

/-- The log file is closed and its pointer still set. -/
def MainPc.logClosed : MainPc → Bool
  | .logClear _ => true
  | _ => false

/-- The component has been created and not destroyed. -/
def ServerState.has (s : ServerState) : Resource → Bool
  | .logFile => s.logFile && !s.pc.logClosed
  | .luaVm => s.vm
  | .mysqlPool => s.gMysqlPool
  | .redis => s.gRedis
  | .dbSync => s.gDbSync
  | .eventLoop => s.gEventLoop && s.pc ≠ .loopClear

def ServerState.held (s : ServerState) : Finset Resource :=
  Finset.univ.filter fun r => s.has r = true

@[simp] theorem mem_held {s : ServerState} {r : Resource} : r ∈ s.held ↔ s.has r = true := by
  simp [ServerState.held]

theorem forall_resource {P : Resource → Prop} :
    (∀ r, P r) ↔ P .logFile ∧ P .luaVm ∧ P .mysqlPool ∧ P .redis ∧ P .dbSync ∧ P .eventLoop := by
  constructor
  · exact fun h => ⟨h _, h _, h _, h _, h _, h _⟩
  · rintro ⟨h₁, h₂, h₃, h₄, h₅, h₆⟩ r
    cases r <;> assumption

/-- How far `main` has come; a fatal error leads to the last stage. -/
def MainPc.stage : MainPc → Nat
  | .loggerInit => 0
  | .luaVmCreate => 1
  | .luaVmInit | .luaVmLoadScript => 2
  | .poolCreate => 3
  | .redisCreate => 4
  | .dbSyncCreate => 5
  | .poolConnect | .redisConnect | .workerCreate | .warmup => 6
  | .tests | .waitTest | .sleep | .elCreate => 7
  | .elRunBuffer | .elRunStart | .elRunTest | .elRunWait | .elRunEvents | .elDestroy
  | .loopClear => 8
  | .workerStop => 9
  | .workerJoin => 10
  | .dbSyncDestroy => 11
  | .redisDestroy => 12
  | .poolDestroy => 13
  | .luaVmDestroy => 14
  | .logClose success | .logClear success | .exited success => if success then 15 else 16

/-- What `main` has made of its pointers at each stage. -/
@[mk_iff] structure Pointers (s : ServerState) : Prop where
  logFile : s.logFile = (s.pc ≠ .loggerInit && !s.pc.over)
  eventLoop : s.gEventLoop = (s.pc.stage = 8)
  beforeVm : s.pc.stage ≤ 1 → s.vm = false
  vm : 2 ≤ s.pc.stage ∧ s.pc.stage ≤ 14 → s.vm = true
  afterVm : s.pc.stage = 15 → s.vm = false
  noPool : s.pc.stage ≤ 3 ∨ s.pc.stage = 14 ∨ s.pc.stage = 15 → s.gMysqlPool = false
  noRedis : s.pc.stage ≤ 4 ∨ 13 ≤ s.pc.stage ∧ s.pc.stage ≤ 15 → s.gRedis = false

/-- `db_sync`, its worker and what they rely on. -/
@[mk_iff] structure SyncFlags (s : ServerState) : Prop where
  none : s.pc.stage ≤ 5 ∨ 12 ≤ s.pc.stage ∧ s.pc.stage ≤ 15 → s.gDbSync = false
  some : s.pc.stage = 6 ∨ s.pc.stage = 10 ∨ s.pc.stage = 11 → s.gDbSync = true
  disabled : s.pc.stage ≤ 5 → s.dbEnabled = false ∧ s.cacheEnabled = false
  db : s.gDbSync = true → s.dbEnabled = true → s.gMysqlPool = true
  cache : s.gDbSync = true → s.cacheEnabled = true → s.gRedis = true
  worker : s.worker = true → s.gDbSync = true
  joined : s.pc.stage = 11 → s.worker = false

theorem pointers_init (args : List CStr) : Pointers (serverInit args) := by
  constructor <;> simp [serverInit, MainPc.stage, MainPc.over]

theorem syncFlags_init (args : List CStr) : SyncFlags (serverInit args) := by
  constructor <;> simp [serverInit, MainPc.stage]

section Grind

attribute [local grind =] MainPc.stage MainPc.over ServerState.goto ServerState.start

theorem pointers_mainStep {s t : ServerState} {outcome : Outcome} {events : List (Event Resource)}
    (h : Pointers s) (hstep : mainStep s outcome = some (events, t)) : Pointers t := by
  obtain ⟨hlogFile, hloop, hbefore, hvm, hafter, hpool, hredis⟩ := h
  -- one case for each step of `main`
  unfold mainStep at hstep
  split at hstep
  all_goals try split at hstep
  all_goals cases hstep
  all_goals rw [pointers_iff]; grind -linarith

theorem syncFlags_mainStep {s t : ServerState} {outcome : Outcome}
    {events : List (Event Resource)} (hptr : Pointers s) (h : SyncFlags s)
    (hstep : mainStep s outcome = some (events, t)) : SyncFlags t := by
  have hpool := hptr.noPool
  have hredis := hptr.noRedis
  obtain ⟨hnone, hsome, hdisabled, hdb, hcache, hworker, hjoined⟩ := h
  unfold mainStep at hstep
  split at hstep
  all_goals try split at hstep
  all_goals cases hstep
  all_goals rw [syncFlags_iff]; grind -linarith

end Grind

/-! ## Section 4: Accesses -/

/-- Only components that exist are used. -/
def UsesOnly (s : ServerState) (events : List (Event Resource)) : Prop :=
  ∀ e ∈ events, ∃ r, s.has r = true ∧ e = .use r

theorem run_uses {s : ServerState} {events rest : List (Event Resource)} (h : UsesOnly s events) :
    run s.held (events ++ rest) = run s.held rest := by
  induction events with
  | nil => rfl
  | cons e events ih =>
    obtain ⟨r, hr, rfl⟩ := h e List.mem_cons_self
    rw [List.cons_append, run]
    simp only [step, mem_held, hr, if_true, Option.bind_some]
    exact ih fun e he => h e (List.mem_cons_of_mem _ he)

theorem run_quiet {s t : ServerState} {events : List (Event Resource)} (h : UsesOnly s events)
    (ht : t.has = s.has) : run s.held events = some t.held := by
  rw [← List.append_nil events, run_uses h]
  simp [run, ServerState.held, ht]

theorem run_create {s t : ServerState} {uses : List (Event Resource)} {r : Resource}
    (h : UsesOnly s uses) (hr : s.has r = false)
    (ht : t.has = Function.update s.has r true) :
    run s.held (uses ++ [.acquire r]) = some t.held := by
  have hheld : t.held = insert r s.held := by
    ext x
    by_cases hx : x = r <;> simp [ht, hx]
  rw [run_uses h]
  simp [run, step, hr, hheld]

theorem run_destroy {s t : ServerState} {uses : List (Event Resource)} {r : Resource}
    (h : UsesOnly s uses) (hr : s.has r = true)
    (ht : t.has = Function.update s.has r false) :
    run s.held (uses ++ [.release r]) = some t.held := by
  have hheld : t.held = s.held.erase r := by
    ext x
    by_cases hx : x = r <;> simp [ht, hx]
  rw [run_uses h]
  simp [run, step, hr, hheld]

@[grind =] theorem mem_useIf {c : Bool} {r : Resource} {e : Event Resource} :
    e ∈ useIf c r ↔ c = true ∧ e = .use r := by
  cases c <;> simp [useIf]

/-- The call test finds `db_sync`, and no handler that runs in the meantime uses
    what is freed. -/
def Guarded (s : ServerState) : ServerLabel → Prop
  | .main _ => s.pc = .tests → s.mode = .callTest → s.gDbSync = true
  | .signal => s.pc ≠ .loopClear ∧ s.pc.logClosed = false
  | .worker | .workerExit => s.pc.logClosed = false

section Grind

attribute [local grind =] MainPc.stage MainPc.over ServerState.goto ServerState.start
  MainPc.logClosed ServerState.write ServerState.testUses
attribute [local grind] UsesOnly ServerState.has

/-- `main` uses what exists, creates what does not exist and destroys what exists. -/
theorem run_mainStep {s t : ServerState} {outcome : Outcome} {events : List (Event Resource)}
    (hptr : Pointers s) (hsync : SyncFlags s) (hstep : mainStep s outcome = some (events, t))
    (htests : s.pc = .tests → s.mode = .callTest → s.gDbSync = true) :
    run s.held events = some t.held := by
  obtain ⟨hlogFile, hloop, hbefore, hvm, hafter, hpool, hredis⟩ := hptr
  obtain ⟨hnone, hsome, hdisabled, hdb, hcache, hworker, hjoined⟩ := hsync
  unfold mainStep at hstep
  split at hstep
  all_goals try split at hstep
  all_goals cases hstep
  all_goals
    first
    | apply run_quiet
      · grind -linarith
      · rw [funext_iff, forall_resource]
        grind -linarith
    | apply run_create
      · grind -linarith
      · grind -linarith
      · rw [funext_iff, forall_resource]
        grind -linarith
    | apply run_destroy
      · grind -linarith
      · grind -linarith
      · rw [funext_iff, forall_resource]
        grind -linarith
    | apply @run_create s _ []
      · grind -linarith
      · grind -linarith
      · rw [funext_iff, forall_resource]
        grind -linarith

end Grind

variable {s t : ServerState} {l : ServerLabel} {events : List (Event Resource)}

theorem usesOnly_cons {r : Resource} (hr : s.has r = true) (h : UsesOnly s events) :
    UsesOnly s (.use r :: events) := by
  intro e he
  rcases List.mem_cons.mp he with rfl | he
  · exact ⟨r, hr, rfl⟩
  · exact h e he

theorem usesOnly_append {later : List (Event Resource)} (h : UsesOnly s events)
    (hlater : UsesOnly s later) : UsesOnly s (events ++ later) := by
  intro e he
  rcases List.mem_append.mp he with he | he
  · exact h e he
  · exact hlater e he

theorem usesOnly_useIf {c : Bool} {r : Resource} (hr : c = true → s.has r = true) :
    UsesOnly s (useIf c r) := by
  intro e he
  obtain ⟨hc, rfl⟩ := mem_useIf.mp he
  exact ⟨r, hr hc, rfl⟩

theorem usesOnly_write (hpc : s.pc.logClosed = false) : UsesOnly s s.write :=
  usesOnly_useIf fun hlog => by simp [ServerState.has, hlog, hpc]

/-- The steps of the handler and of the worker. -/
theorem serverStep_cases (hstep : serverStep s l = some (events, t)) :
    (∃ outcome, l = .main outcome ∧ mainStep s outcome = some (events, t)) ∨
      s.pc.over = false ∧
        (l = .signal ∧ (events, t) = signalHandler s ∨
          s.worker = true ∧
            (l = .worker ∧ (events, t) = workerStep s ∨
              l = .workerExit ∧ events = .use .dbSync :: s.write ∧
                t = { s with worker := false })) := by
  cases l with
  | main outcome => exact Or.inl ⟨outcome, rfl, hstep⟩
  | signal =>
    simp only [serverStep] at hstep
    split at hstep
    · cases hstep
    · next hpc => exact Or.inr ⟨by simpa using hpc, Or.inl ⟨rfl, (Option.some.inj hstep).symm⟩⟩
  | worker =>
    simp only [serverStep] at hstep
    split at hstep
    · cases hstep
    · next hpc =>
      simp only [Bool.or_eq_true, Bool.not_eq_true', not_or, Bool.not_eq_true,
        Bool.not_eq_false] at hpc
      exact Or.inr ⟨hpc.1, Or.inr ⟨hpc.2, Or.inl ⟨rfl, (Option.some.inj hstep).symm⟩⟩⟩
  | workerExit =>
    simp only [serverStep] at hstep
    split at hstep
    · cases hstep
    · next hpc =>
      simp only [Bool.or_eq_true, Bool.not_eq_true', not_or, Bool.not_eq_true,
        Bool.not_eq_false] at hpc
      cases hstep
      exact Or.inr ⟨hpc.1.1, Or.inr ⟨hpc.1.2, Or.inr ⟨rfl, rfl, rfl⟩⟩⟩

/-- The components that the worker relies on. -/
theorem usesOnly_worker (hsync : SyncFlags s) (hworker : s.worker = true)
    (hpc : s.pc.logClosed = false) : UsesOnly s (workerStep s).1 := by
  have hhas := hsync.worker hworker
  exact usesOnly_cons hhas (usesOnly_append (usesOnly_write hpc)
    (usesOnly_useIf fun hdb => hsync.db hhas hdb))

/-- **Step lemma.** -/
theorem run_serverStep (hptr : Pointers s) (hsync : SyncFlags s)
    (hstep : serverStep s l = some (events, t)) (hguard : Guarded s l) :
    run s.held events = some t.held := by
  rcases serverStep_cases hstep with ⟨outcome, rfl, hmain⟩ |
    ⟨hover, ⟨rfl, heq⟩ | ⟨hworker, ⟨rfl, heq⟩ | ⟨rfl, rfl, rfl⟩⟩⟩
  · exact run_mainStep hptr hsync hmain hguard
  · cases heq
    refine run_quiet (usesOnly_append (usesOnly_write hguard.2) (usesOnly_useIf fun hloop => ?_)) ?_
    · simp [ServerState.has, hloop, hguard.1]
    · funext x
      cases x <;> rfl
  · cases heq
    exact run_quiet (usesOnly_worker hsync hworker hguard) rfl
  · refine run_quiet (usesOnly_cons (hsync.worker hworker) (usesOnly_write hguard)) ?_
    funext x
    cases x <;> rfl

/-- A use of what does not exist. -/
theorem run_misuse {before later : List (Event Resource)} {r : Resource} (h : UsesOnly s before)
    (hr : s.has r = false) : run s.held (before ++ .use r :: later) = none := by
  rw [run_uses h]
  simp [run, step, hr]

theorem pointers_step (h : Pointers s) (hstep : serverStep s l = some (events, t)) :
    Pointers t := by
  rcases serverStep_cases hstep with ⟨outcome, rfl, hmain⟩ |
    ⟨hover, ⟨rfl, heq⟩ | ⟨hworker, ⟨rfl, heq⟩ | ⟨rfl, rfl, rfl⟩⟩⟩
  · exact pointers_mainStep h hmain
  · cases heq
    exact ⟨h.logFile, h.eventLoop, h.beforeVm, h.vm, h.afterVm, h.noPool, h.noRedis⟩
  · cases heq
    exact h
  · exact ⟨h.logFile, h.eventLoop, h.beforeVm, h.vm, h.afterVm, h.noPool, h.noRedis⟩

theorem syncFlags_step (hptr : Pointers s) (h : SyncFlags s)
    (hstep : serverStep s l = some (events, t)) : SyncFlags t := by
  rcases serverStep_cases hstep with ⟨outcome, rfl, hmain⟩ |
    ⟨hover, ⟨rfl, heq⟩ | ⟨hworker, ⟨rfl, heq⟩ | ⟨rfl, rfl, rfl⟩⟩⟩
  · exact syncFlags_mainStep hptr h hmain
  · cases heq
    exact ⟨h.none, h.some, h.disabled, h.db, h.cache, h.worker, h.joined⟩
  · cases heq
    exact h
  · exact ⟨h.none, h.some, h.disabled, h.db, h.cache, nofun, fun _ => rfl⟩

/-- While the log file is closed, its pointer is set. -/
theorem write_closed (hptr : Pointers s) (hpc : s.pc.logClosed = true) :
    s.write = [.use .logFile] ∧ s.has .logFile = false := by
  have hlog : s.logFile = true := by
    rw [hptr.logFile]
    cases h : s.pc <;> rw [h] at hpc <;> simp_all [MainPc.logClosed, MainPc.over]
  exact ⟨by simp [ServerState.write, useIf, hlog], by simp [ServerState.has, hpc]⟩

/-- `call_test_run` reads from `db_sync` although there is none. -/
theorem run_missingSync {outcome : Outcome} (hptr : Pointers s) (hpc : s.pc = .tests)
    (hmode : s.mode = .callTest) (hnone : s.gDbSync = false)
    (hmain : mainStep s outcome = some (events, t)) : run s.held events = none := by
  have huses : UsesOnly s (s.write ++ [.use .luaVm]) := by
    have hvm : s.vm = true := hptr.vm (by simp [hpc, MainPc.stage])
    exact usesOnly_append (usesOnly_write (by simp [hpc, MainPc.logClosed]))
      (usesOnly_cons hvm nofun)
  have hread : s.testUses = .use .luaVm :: .use .dbSync :: (useIf false .redis ++
      useIf false .mysqlPool) := by
    simp [ServerState.testUses, hmode, hnone, useIf]
  unfold mainStep at hmain
  rw [hpc] at hmain
  cases outcome with
  | success =>
    cases hmain
    rw [hread, List.append_cons]
    exact run_misuse huses hnone
  | failure | interrupted => cases hmain

theorem run_unguarded (hptr : Pointers s) (hsync : SyncFlags s)
    (hstep : serverStep s l = some (events, t)) (hguard : ¬ Guarded s l) :
    run s.held events = none := by
  rcases serverStep_cases hstep with ⟨outcome, rfl, hmain⟩ |
    ⟨hover, ⟨rfl, heq⟩ | ⟨hworker, ⟨rfl, heq⟩ | ⟨rfl, rfl, rfl⟩⟩⟩
  · obtain ⟨hpc, hmode, hnone⟩ : s.pc = .tests ∧ s.mode = .callTest ∧ s.gDbSync = false := by
      simpa [Guarded] using hguard
    exact run_missingSync hptr hpc hmode hnone hmain
  · cases heq
    by_cases hlog : s.pc.logClosed = true
    · obtain ⟨hwrite, hfile⟩ := write_closed hptr hlog
      rw [hwrite]
      exact @run_misuse s [] _ _ nofun hfile
    · have hlog' : s.pc.logClosed = false := by simpa using hlog
      have hpc : s.pc = .loopClear := by
        by_contra hpc
        exact hguard ⟨hpc, hlog'⟩
      have hloop : s.gEventLoop = true := by
        rw [hptr.eventLoop, hpc]
        rfl
      have hgone : s.has .eventLoop = false := by simp [ServerState.has, hpc]
      rw [hloop]
      exact run_misuse (usesOnly_write hlog') hgone
  · cases heq
    obtain ⟨hwrite, hfile⟩ := write_closed hptr (by simpa [Guarded] using hguard)
    have hhas := hsync.worker hworker
    rw [hwrite]
    exact @run_misuse s [.use .dbSync] _ _ (usesOnly_cons hhas nofun) hfile
  · obtain ⟨hwrite, hfile⟩ := write_closed hptr (by simpa [Guarded] using hguard)
    have hhas := hsync.worker hworker
    rw [hwrite]
    exact @run_misuse s [.use .dbSync] _ _ (usesOnly_cons hhas nofun) hfile

/-! ## Section 5: Runs -/

variable {args : List CStr} {ls : List ServerLabel} {p q : Process}

theorem loggedStep_iff : loggedStep p l = some q ↔
    ∃ events, serverStep p.state l = some (events, q.state) ∧ q.log = p.log ++ events := by
  unfold loggedStep
  cases hstep : serverStep p.state l with
  | none => simp
  | some r =>
    obtain ⟨events, t⟩ := r
    obtain ⟨state, log⟩ := q
    simp only [Option.map_some, Option.some.injEq, Process.mk.injEq, Prod.mk.injEq]
    constructor
    · rintro ⟨rfl, rfl⟩
      exact ⟨events, ⟨rfl, rfl⟩, rfl⟩
    · rintro ⟨events', ⟨rfl, rfl⟩, rfl⟩
      exact ⟨rfl, rfl⟩

theorem flags_run (h : ServerRun args ls p) : Pointers p.state ∧ SyncFlags p.state := by
  induction h with
  | nil => exact ⟨pointers_init args, syncFlags_init args⟩
  | snoc _ hstep ih =>
    obtain ⟨events, hstep, -⟩ := loggedStep_iff.mp hstep
    exact ⟨pointers_step ih.1 hstep, syncFlags_step ih.1 ih.2 hstep⟩

/-- The runs in which no handler and no worker meets a pointer that is not
    cleared yet, and the call test none that is NULL. -/
abbrev GuardedRun (args : List CStr) (ls : List ServerLabel) (p : Process) : Prop :=
  Run (restrict (ofPartial loggedStep) fun p l => Guarded p.state l) ⟨serverInit args, []⟩ ls p

theorem holds_run (h : GuardedRun args ls p) : Holds p.log p.state.held := by
  induction h with
  | nil =>
    unfold Holds
    have hnone : (serverInit args).held = ∅ := by
      ext r
      cases r <;> simp [serverInit, ServerState.has]
    rw [hnone]
    rfl
  | snoc hrun hstep ih =>
    obtain ⟨hguard, hstep⟩ := hstep
    obtain ⟨events, hstep, hlog⟩ := loggedStep_iff.mp hstep
    obtain ⟨hptr, hsync⟩ := flags_run hrun.of_restrict
    unfold Holds
    rw [hlog, run_append, ih]
    exact run_serverStep hptr hsync hstep hguard

/-- **Accesses**: no component is used before it is created or after it is
    destroyed, and none is destroyed twice, if and only if no signal comes
    between `el_destroy` and `g_event_loop = NULL`, no signal or task of the
    worker between `fclose` and `log_file = NULL`, and no call test begins
    without `db_sync`.  Then an orderly exit leaves nothing behind, and one
    after a fatal error neither the event loop nor the log file. -/
theorem lifecycle_sound_iff (h : ServerRun args ls p) :
    ((∃ held, Holds p.log held) ↔ GuardedRun args ls p) ∧
      ∀ held, Holds p.log held →
        (p.state.pc = .exited true → held = ∅) ∧
        (p.state.pc = .exited false → .eventLoop ∉ held ∧ .logFile ∉ held) := by
  have hiff : (∃ held, Holds p.log held) ↔ GuardedRun args ls p := by
    constructor
    · intro hsound
      induction h with
      | nil => exact Run.nil _
      | snoc hrun hstep ih =>
        obtain ⟨events, hserver, hlog⟩ := loggedStep_iff.mp hstep
        obtain ⟨held, hheld⟩ := hsound
        rw [hlog] at hheld
        obtain ⟨before, hbefore, hrest⟩ := hheld.of_append
        have hguarded := ih ⟨before, hbefore⟩
        refine Run.snoc hguarded ⟨?_, hstep⟩
        obtain ⟨hptr, hsync⟩ := flags_run hrun
        by_contra hguard
        rw [hbefore.unique (holds_run hguarded), run_unguarded hptr hsync hserver hguard] at hrest
        cases hrest
    · exact fun hguarded => ⟨_, holds_run hguarded⟩
  refine ⟨hiff, fun held hheld => ?_⟩
  obtain ⟨hptr, hsync⟩ := flags_run h
  obtain rfl := hheld.unique (holds_run (hiff.mp ⟨held, hheld⟩))
  constructor
  · intro hpc
    have hstage : p.state.pc.stage = 15 := by
      rw [hpc]
      rfl
    have hlog := hptr.logFile
    have hloop := hptr.eventLoop
    have hvm := hptr.afterVm hstage
    have hpool := hptr.noPool (by omega)
    have hredis := hptr.noRedis (by omega)
    have hnone := hsync.none (by omega)
    ext r
    cases r <;> simp_all [ServerState.has, MainPc.over]
  · intro hpc
    have hlog := hptr.logFile
    have hloop := hptr.eventLoop
    simp_all [ServerState.has, MainPc.over, MainPc.stage]

/-! ## Section 6: Signals -/

/-- Inside the loop of `el_run`. -/
def MainPc.inLoop : MainPc → Bool
  | .elRunTest | .elRunWait | .elRunEvents => true
  | _ => false

theorem keepRunning_step (hstep : serverStep s l = some (events, t)) :
    t.keepRunning = (s.keepRunning && l ≠ .signal) := by
  rcases serverStep_cases hstep with ⟨outcome, rfl, hmain⟩ |
    ⟨hover, ⟨rfl, heq⟩ | ⟨hworker, ⟨rfl, heq⟩ | ⟨rfl, rfl, rfl⟩⟩⟩
  · unfold mainStep at hmain
    split at hmain
    all_goals try split at hmain
    all_goals cases hmain
    all_goals simp [ServerState.goto, ServerState.start]
  · cases heq
    simp
  · cases heq
    simp
  · simp

section Grind

attribute [local grind =] MainPc.inLoop ServerState.goto ServerState.start

/-- `main` enters the loop by setting the flag, and does not touch it inside. -/
theorem mainStep_inLoop {outcome : Outcome} (hmain : mainStep s outcome = some (events, t))
    (ht : t.pc.inLoop = true) :
    (s.pc = .elRunStart ∧ outcome = .success ∧ t.running = true) ∨
      (s.pc.inLoop = true ∧ t.running = s.running) := by
  unfold mainStep at hmain
  split at hmain
  all_goals try split at hmain
  all_goals cases hmain
  all_goals grind -linarith

end Grind

/-- The labels since `el->running = 1`. -/
def Serving (args : List CStr) (ls : List ServerLabel) (p : Process) : Prop :=
  ∃ before after start, ServerRun args before start ∧ start.state.pc = .elRunStart ∧
    ls = before ++ .main .success :: after ∧ (p.state.running = false ↔ .signal ∈ after)

theorem serving_step (hptr : Pointers p.state) (hrun : ServerRun args ls p)
    (ih : p.state.pc.inLoop = true → Serving args ls p) (hstep : loggedStep p l = some q)
    (hq : q.state.pc.inLoop = true) : Serving args (ls ++ [l]) q := by
  obtain ⟨events, hserver, -⟩ := loggedStep_iff.mp hstep
  -- a step inside the loop adds its label
  have hextend (hp : p.state.pc.inLoop = true)
      (hl : q.state.running = false ↔ p.state.running = false ∨ l = .signal) :
      Serving args (ls ++ [l]) q := by
    obtain ⟨before, after, start, hbefore, hpc, rfl, hrunning⟩ := ih hp
    refine ⟨before, after ++ [l], start, hbefore, hpc, by simp, ?_⟩
    rw [hl, hrunning, List.mem_append, List.mem_singleton]
    simp only [eq_comm]
  rcases serverStep_cases hserver with ⟨outcome, rfl, hmain⟩ |
    ⟨hover, ⟨rfl, heq⟩ | ⟨hworker, ⟨rfl, heq⟩ | ⟨rfl, -, heq⟩⟩⟩
  · rcases mainStep_inLoop hmain hq with ⟨hpc, rfl, hrunning⟩ | ⟨hp, hsame⟩
    · exact ⟨ls, [], p, hrun, hpc, rfl, by simp [hrunning]⟩
    · exact hextend hp (by simp [hsame])
  · obtain ⟨-, hstate⟩ := Prod.mk.inj heq
    have hp : p.state.pc.inLoop = true := by
      rw [hstate] at hq
      exact hq
    have hloop : p.state.gEventLoop = true := by
      rw [hptr.eventLoop]
      cases hpc : p.state.pc <;> simp_all [MainPc.inLoop, MainPc.stage]
    exact hextend hp (by simp [hstate, hloop])
  · obtain ⟨-, hstate⟩ := Prod.mk.inj heq
    exact hextend (by rwa [hstate] at hq) (by simp [hstate])
  · exact hextend (by rwa [heq] at hq) (by simp [heq])

/-- **What stops the server**: in the modes for tests, any signal since the
    start of `main`; in server mode, a signal since `el->running = 1`.  A
    signal that came before is lost. -/
theorem stops_iff (h : ServerRun args ls p) :
    (p.state.keepRunning = false ↔ .signal ∈ ls) ∧
      (p.state.pc.inLoop = true → Serving args ls p) := by
  induction h with
  | nil => exact ⟨by simp [serverInit], nofun⟩
  | snoc hrun hstep ih =>
    refine ⟨?_, serving_step (flags_run hrun).1 hrun ih.2 hstep⟩
    obtain ⟨events, hserver, -⟩ := loggedStep_iff.mp hstep
    rw [keepRunning_step hserver, Bool.and_eq_false_iff, ih.1, List.mem_append,
      List.mem_singleton]
    simp only [ne_eq, decide_not, Bool.not_eq_eq_eq_not, Bool.not_false, decide_eq_true_eq]
    rw [eq_comm]

/-! ### Computed runs -/

/-- A computed run. -/
theorem exists_run {found : Process → Bool}
    (h : (ls.foldlM loggedStep ⟨serverInit args, []⟩).any found = true) :
    ∃ p, ServerRun args ls p ∧ found p = true := by
  cases hp : ls.foldlM loggedStep ⟨serverInit args, []⟩ with
  | none =>
    rw [hp] at h
    cases h
  | some p =>
    rw [hp] at h
    exact ⟨p, run_ofPartial_iff.mpr hp, h⟩

def succeed (n : Nat) : List ServerLabel := List.replicate n (.main .success)

/-- A demo that a signal ends. -/
def demoRun : List ServerLabel :=
  succeed 13 ++ [.worker, .signal] ++ succeed 3 ++ [.workerExit] ++ succeed 7

/-- A call test for which `db_sync_create` has failed. -/
def missingSyncRun : List ServerLabel := succeed 6 ++ [.main .failure] ++ succeed 1

/-- The demo is sound, the call test is not. -/
theorem lifecycle_sound_iff_demo :
    (∃ p, GuardedRun [cstr "--demo"] demoRun p ∧ p.state.pc = .exited true ∧ Holds p.log ∅) ∧
      ∃ p, ServerRun [cstr "--call-test"] missingSyncRun p ∧
        ¬ GuardedRun [cstr "--call-test"] missingSyncRun p := by
  constructor
  · obtain ⟨p, hrun, hfound⟩ := @exists_run [cstr "--demo"] demoRun
      (fun p => p.state.pc = .exited true ∧ run ∅ p.log = some ∅) (by decide)
    obtain ⟨hpc, hlog⟩ := of_decide_eq_true hfound
    exact ⟨p, (lifecycle_sound_iff hrun).1.mp ⟨∅, hlog⟩, hpc, hlog⟩
  · obtain ⟨p, hrun, hfound⟩ := @exists_run [cstr "--call-test"] missingSyncRun
      (fun p => run ∅ p.log = none) (by decide)
    refine ⟨p, hrun, ?_⟩
    rw [← (lifecycle_sound_iff hrun).1]
    rintro ⟨held, hheld⟩
    cases hheld.symm.trans (of_decide_eq_true hfound)

/-- A signal while the cache is warmed up. -/
def earlySignal : List ServerLabel := succeed 10 ++ [.signal] ++ succeed 4

theorem stops_iff_early :
    ∃ p, ServerRun [] earlySignal p ∧ .signal ∈ earlySignal ∧ p.state.running = true ∧
      Serving [] earlySignal p := by
  obtain ⟨p, hrun, hfound⟩ := @exists_run [] earlySignal
    (fun p => p.state.pc.inLoop = true ∧ p.state.running = true) (by decide)
  obtain ⟨hpc, hrunning⟩ := of_decide_eq_true hfound
  exact ⟨p, hrun, by decide, hrunning, (stops_iff hrun).2 hpc⟩

end SipServer
