import CallCenter.DbMysql.Agents
import CallCenter.DbSync.Queue

/-! # The Worker Thread

    `db_sync_worker` takes one task after the other out of the queue and
    hands it to the MySQL operation of its type.  The queue appears here as
    the list of its tasks; `queue_refines` is the link to the pointers.

    `drain` is the table of agents that MySQL will hold once the worker has
    worked off everything it still has to do.  A worker step does not change
    it (`drain_pop`, `drain_handle`), a producer's push appends to it
    (`drain_push`). -/

namespace DbSync

open CFormat BoundedFifo DbMysql LinkedHeap

/-! ## Section 1: The queue as a list -/

/-- The tasks waiting in the queue, oldest first, and its shutdown flag. -/
structure TaskFifo where
  tasks : List DbTask
  shutdown : Bool
  deriving DecidableEq, Repr

/-- `queue_push` -/
def TaskFifo.push (q : TaskFifo) (task : DbTask) : TaskFifo :=
  { q with tasks := enqueue dbQueueMaxSize q.tasks task }

/-- `queue_pop` on a queue that has a task. -/
def TaskFifo.pop (q : TaskFifo) : TaskFifo := { q with tasks := q.tasks.tail }

/-- The list that the linked nodes of the queue stand for. -/
def QueueSystem.fifo (s : QueueSystem) (as : List Addr) : TaskFifo where
  tasks := values (s.history as)
  shutdown := s.queue.shutdown

/-- What a step of the pointer queue does to the list. -/
def fifoStep (s : QueueSystem) (op : QueueOp) (q : TaskFifo) : TaskFifo :=
  match op with
  | .push a => (s.queue.heap a).elim q fun node => q.push node.val
  | .pop (.task _) => q.pop
  | .signalShutdown => { q with shutdown := true }
  | _ => q

theorem shutdown_step {s t : QueueSystem} {op : QueueOp} {as : List Addr}
    (hinv : SystemInv s as) (hstep : QueueStep s op t) :
    t.queue.shutdown = (fifoStep s op (s.fifo as)).shutdown := by
  cases hstep with
  | alloc => rfl
  | push a node q hheld hnode hpush =>
    obtain ⟨q', hpush', -, hsd, -⟩ := queuePush_spec hinv.queue (hinv.held_unlinked a hheld) hnode
    obtain rfl : q' = q := by
      have heq := hpush'.symm.trans hpush
      simpa using heq
    simp only [fifoStep, hnode, Option.elim_some]
    exact hsd
  | popTask a node q hnode hpop =>
    cases as with
    | nil =>
      rw [queuePop_nil hinv.queue] at hpop
      split at hpop <;> simp at hpop
    | cons x rest =>
      obtain ⟨q', hpop', -, -, hsd⟩ := queuePop_spec hinv.queue
      obtain ⟨-, rfl⟩ : x = a ∧ q' = q := by
        have heq := hpop'.symm.trans hpop
        simpa using heq
      exact hsd
  | popNull q hpop =>
    cases as with
    | nil =>
      rw [queuePop_nil hinv.queue] at hpop
      have heq := (Prod.mk.inj (Option.some.inj hpop)).2
      exact congrArg TaskQueue.shutdown heq.symm
    | cons x rest =>
      obtain ⟨q', hpop', -⟩ := queuePop_spec hinv.queue
      have heq := hpop'.symm.trans hpop
      simp at heq
  | free => rfl
  | signalShutdown => rfl

/-- **Refinement**: whatever a thread does to the pointer queue is the list
    operation of the same name on the tasks linked. -/
theorem queue_refines {s t : QueueSystem} {op : QueueOp} {as : List Addr}
    (hinv : SystemInv s as) (hstep : QueueStep s op t) :
    ∃ as', SystemInv t as' ∧ t.fifo as' = fifoStep s op (s.fifo as) := by
  obtain ⟨as', hinv', hhist⟩ := systemInv_step hinv hstep
  have htasks : values (t.history as') = (fifoStep s op (s.fifo as)).tasks := by
    rw [hhist]
    cases op with
    | push a =>
      cases hnode : s.queue.heap a with
      | none => simp [historyStep, fifoStep, hnode, QueueSystem.fifo]
      | some node =>
        simp [historyStep, fifoStep, hnode, QueueSystem.fifo, TaskFifo.push, values_push]
    | pop result =>
      cases result with
      | task a => simp [historyStep, fifoStep, QueueSystem.fifo, TaskFifo.pop, values_pop]
      | wait => rfl
      | null => rfl
    | alloc => rfl
    | free => rfl
    | signalShutdown => rfl
  refine ⟨as', hinv', ?_⟩
  rw [QueueSystem.fifo, htasks, shutdown_step hinv hstep]

/-! ## Section 2: From tasks to MySQL operations -/

/-- The operations that the worker calls, with their arguments.  A text that
    the scan left unassigned is `none`. -/
inductive MysqlCall where
  | updateAgentStatus (extension status : CStr) (concurrentCalls : Int32)
  | insertCallRecord (callId caller callee : CStr) (direction department startTime : Option CStr)
      (resultCode : Int32) (resultDesc : CStr)
  | updateCallEnd (callId endTime : CStr) (duration sipStatus resultCode : Int32)
      (resultDesc : Option CStr)
  deriving DecidableEq, Repr

/-- The `switch` of the worker.  A department's idle count is only logged;
    `endTime` is the text of the clock for a call end. -/
def taskOperation (endTime : CStr) (task : DbTask) : Option MysqlCall :=
  match decode task with
  | some (.agentStatus ext status calls) => some (.updateAgentStatus ext status calls)
  | some (.agentOnline ext online) =>
    some (.updateAgentStatus ext (if online ≠ 0 then cstr "idle" else cstr "offline") 0)
  | some (.callStart callId caller callee direction dept startTime) =>
    some (.insertCallRecord callId caller callee direction dept startTime 0 [])
  | some (.callEnd callId duration sipStatus resultCode resultDesc) =>
    some (.updateCallEnd callId endTime duration sipStatus resultCode resultDesc)
  | some (.deptIdle _ _) => none
  | none => none

/-- What an operation does to the table of agents; the other two work on
    `call_records`. -/
def MysqlCall.onAgents : MysqlCall → AgentTable → AgentTable
  | .updateAgentStatus ext status calls, t => dbMysqlUpdateAgentStatus t ext status calls
  | .insertCallRecord .., t => t
  | .updateCallEnd .., t => t

/-- The effect of a task on the table of agents. -/
def applyTask (t : AgentTable) (task : DbTask) : AgentTable :=
  (taskOperation [] task).elim t fun call => call.onAgents t

/-! ## Section 3: The thread -/

inductive WorkerPc where
  /-- In `queue_pop`. -/
  | popping
  /-- Working on a task it has taken out. -/
  | holding (task : DbTask)
  | exited
  deriving DecidableEq, Repr

/-- The task that the worker has taken out and not yet finished. -/
def WorkerPc.inHand : WorkerPc → List DbTask
  | .holding task => [task]
  | _ => []

structure WorkerState where
  queue : TaskFifo
  pc : WorkerPc
  deriving DecidableEq, Repr

/-- `queue_pop` and the test of its result; `none` while it has to wait. -/
def WorkerState.pop (w : WorkerState) : Option WorkerState :=
  match w.pc, w.queue.tasks with
  | .popping, task :: _ => some { queue := w.queue.pop, pc := .holding task }
  | .popping, [] => if w.queue.shutdown then some { w with pc := .exited } else none
  | _, _ => none

/-- The task in hand is finished. -/
def WorkerState.finish (w : WorkerState) : WorkerState := { w with pc := .popping }

/-- Everything that the worker still has to do, in order. -/
def WorkerState.pending (w : WorkerState) : List DbTask := w.pc.inHand ++ w.queue.tasks

/-- `queue_push` by a producer. -/
def WorkerState.push (w : WorkerState) (task : DbTask) : WorkerState :=
  { w with queue := w.queue.push task }

/-- A `queue_pop` that returns: with a task, or with NULL at shutdown. -/
theorem WorkerState.pop_cases {w w' : WorkerState} (h : w.pop = some w') :
    w.pc = .popping ∧
      ((∃ task rest, w.queue.tasks = task :: rest ∧
          w' = ⟨⟨rest, w.queue.shutdown⟩, .holding task⟩) ∨
        (w.queue.tasks = [] ∧ w.queue.shutdown = true ∧ w' = ⟨w.queue, .exited⟩)) := by
  obtain ⟨⟨tasks, shutdown⟩, pc⟩ := w
  cases pc with
  | popping =>
    cases tasks with
    | nil => cases shutdown <;> simp_all [pop]
    | cons task rest => simp_all [pop, TaskFifo.pop]
  | holding task => simp [pop] at h
  | exited => simp [pop] at h

theorem WorkerState.pending_pop {w w' : WorkerState} (h : w.pop = some w') :
    w'.pending = w.pending := by
  obtain ⟨hpc, ⟨task, rest, htasks, rfl⟩ | ⟨htasks, -, rfl⟩⟩ := WorkerState.pop_cases h
  · simp [pending, hpc, htasks, WorkerPc.inHand]
  · simp [pending, hpc, htasks, WorkerPc.inHand]

theorem WorkerState.pending_push {w : WorkerState} {task : DbTask}
    (hroom : w.queue.tasks.length < dbQueueMaxSize) :
    (w.push task).pending = w.pending ++ [task] := by
  simp [pending, push, TaskFifo.push, enqueue_of_lt hroom]

/-! ## Section 4: The table at the end of the queue -/

/-- The table of agents after the pending tasks. -/
def drain (t : AgentTable) (w : WorkerState) : AgentTable := w.pending.foldl applyTask t

theorem drain_pop {t : AgentTable} {w w' : WorkerState} (h : w.pop = some w') :
    drain t w' = drain t w := by
  rw [drain, drain, WorkerState.pending_pop h]

/-- Executing the task in hand. -/
theorem drain_finish {t : AgentTable} {w : WorkerState} {task : DbTask}
    (hpc : w.pc = .holding task) : drain (applyTask t task) w.finish = drain t w := by
  simp [drain, WorkerState.pending, WorkerState.finish, hpc, WorkerPc.inHand]

theorem drain_push {t : AgentTable} {w : WorkerState} {task : DbTask}
    (hroom : w.queue.tasks.length < dbQueueMaxSize) :
    drain t (w.push task) = applyTask (drain t w) task := by
  rw [drain, drain, WorkerState.pending_push hroom, List.foldl_append]
  rfl

theorem hasRow_onAgents {t : AgentTable} {e : CStr} (call : MysqlCall) :
    (call.onAgents t).HasRow e ↔ t.HasRow e := by
  cases call with
  | updateAgentStatus ext status calls => exact AgentTable.hasRow_update
  | insertCallRecord => rfl
  | updateCallEnd => rfl

theorem hasRow_applyTask {t : AgentTable} {e : CStr} (task : DbTask) :
    (applyTask t task).HasRow e ↔ t.HasRow e := by
  unfold applyTask
  cases taskOperation [] task with
  | none => rfl
  | some call => exact hasRow_onAgents call

/-- Working off the queue neither creates nor deletes rows. -/
theorem hasRow_drain {t : AgentTable} {e : CStr} (w : WorkerState) :
    (drain t w).HasRow e ↔ t.HasRow e := by
  unfold drain
  generalize w.pending = tasks
  induction tasks generalizing t with
  | nil => rfl
  | cons task tasks ih =>
    rw [List.foldl_cons, ih]
    exact hasRow_applyTask task

/-- The end time of a call does not matter to the agents. -/
theorem onAgents_taskOperation (endTime : CStr) (t : AgentTable) (task : DbTask) :
    ((taskOperation endTime task).elim t fun call => call.onAgents t) = applyTask t task := by
  unfold applyTask taskOperation
  split <;> rfl

/-- Whether a task has an operation does not depend on the clock. -/
theorem taskOperation_isSome (endTime : CStr) (task : DbTask) :
    (taskOperation endTime task).isSome = (taskOperation [] task).isSome := by
  unfold taskOperation
  split <;> rfl

theorem applyTask_packAgentStatus {extension status : CStr} (hext : Required 31 extension)
    (hstatus : Required 31 status) (calls : Int32) (t : AgentTable) :
    applyTask t (packAgentStatus extension status calls) =
      dbMysqlUpdateAgentStatus t extension status calls := by
  simp [applyTask, taskOperation, decode_packAgentStatus hext hstatus, MysqlCall.onAgents]

theorem applyTask_packAgentOnline {extension : CStr} (hext : Required 31 extension)
    (isOnline : Int32) (t : AgentTable) :
    applyTask t (packAgentOnline extension isOnline) =
      dbMysqlUpdateAgentStatus t extension
        (if isOnline ≠ 0 then cstr "idle" else cstr "offline") 0 := by
  simp [applyTask, taskOperation, decode_packAgentOnline hext, MysqlCall.onAgents]

end DbSync
