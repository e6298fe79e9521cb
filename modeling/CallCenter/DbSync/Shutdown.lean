import Mathlib.Data.List.TakeWhile
import CallCenter.DbSync.Worker

/-! # Stopping the Worker

    `db_sync_stop_worker` pushes a stop marker, raises the shutdown flag and
    joins the worker, which goes on emptying the queue until it finds it
    empty with the flag up.

    The marker goes through the same bounded push as every other task.  On a
    full queue it throws the oldest accepted task away:

    * `stop_delivers_iff`: the tasks queued at the call are all handed to
      their MySQL operations, in order, exactly when the marker fits and
      each of them has an operation.
    * `stop_length_le`, `stop_completes`: every schedule ends, and from every
      state the join is reached. -/

namespace DbSync

open CFormat BoundedFifo Transition

/-! ## Section 1: The stopping thread and the worker -/

/-- Where `db_sync_stop_worker` stands. -/
inductive StopperPc where
  | pushing
  | signalling
  | joining
  | returned
  deriving DecidableEq, Repr

/-- `finished` records the tasks that the worker is done with since the call,
    each with the MySQL operation it was handed to. -/
structure StopSystem where
  worker : WorkerState
  stopper : StopperPc
  finished : List (DbTask × Option MysqlCall)

inductive StopLabel where
  /-- The stop marker is allocated and pushed. -/
  | push
  /-- There is no memory for the stop marker. -/
  | noMemory
  /-- The shutdown flag is raised. -/
  | signal
  /-- The worker's `queue_pop` returns. -/
  | pop
  /-- The worker finishes the task in hand; the text is the clock's. -/
  | finish (endTime : CStr)
  /-- `pthread_join` returns. -/
  | join
  deriving DecidableEq, Repr

/-- The `calloc`ed task of type `DB_TASK_SHUTDOWN`. -/
def stopTask : DbTask := ⟨.shutdown, []⟩

/-- `sync->queue.shutdown = 1` -/
def WorkerState.raiseShutdown (w : WorkerState) : WorkerState :=
  { w with queue := { w.queue with shutdown := true } }

/-- One step of either thread, with `db_enabled` set all along. -/
def stopStep (s : StopSystem) : StopLabel → Option StopSystem
  | .push =>
    if s.stopper = .pushing then
      some { s with worker := s.worker.push stopTask, stopper := .signalling }
    else none
  | .noMemory => if s.stopper = .pushing then some { s with stopper := .signalling } else none
  | .signal =>
    if s.stopper = .signalling then
      some { s with worker := s.worker.raiseShutdown, stopper := .joining }
    else none
  | .pop => s.worker.pop.map fun w => { s with worker := w }
  | .finish endTime =>
    match s.worker.pc with
    | .holding task =>
      some { s with
        worker := s.worker.finish
        finished := s.finished ++ [(task, taskOperation endTime task)] }
    | _ => none
  | .join =>
    if s.stopper = .joining ∧ s.worker.pc = .exited then some { s with stopper := .returned }
    else none

/-- The call finds `queued` in the queue and the worker at `pc`. -/
def stopInit (queued : List DbTask) (pc : WorkerPc) : StopSystem where
  worker := ⟨⟨queued, false⟩, pc⟩
  stopper := .pushing
  finished := []

/-- Behind the task in hand at the call, if any, the worker has handed every
    task queued at the call to a MySQL operation, in their order. -/
def Delivered (queued : List DbTask) (pc : WorkerPc) (s : StopSystem) : Prop :=
  ∃ handed : List (DbTask × MysqlCall), handed.map Prod.fst = queued ∧
    handed.map (fun x => (x.1, some x.2)) <+: s.finished.drop pc.inHand.length

/-- The push of the marker, if it happens, finds the queue not full: the
    worker has taken enough tasks out before it. -/
def MarkerFits (queued : List DbTask) (ls : List StopLabel) : Prop :=
  .push ∈ ls → queued.length - (ls.takeWhile (· ≠ .push)).count .pop < dbQueueMaxSize

/-! ## Section 2: One step -/

/-- Everything a step can do. -/
theorem stopStep_cases {s t : StopSystem} {l : StopLabel} (h : stopStep s l = some t) :
    (l = .push ∧ s.stopper = .pushing ∧
      t = { s with worker := s.worker.push stopTask, stopper := .signalling }) ∨
    (l = .noMemory ∧ s.stopper = .pushing ∧ t = { s with stopper := .signalling }) ∨
    (l = .signal ∧ s.stopper = .signalling ∧
      t = { s with worker := s.worker.raiseShutdown, stopper := .joining }) ∨
    (l = .pop ∧ ∃ w, s.worker.pop = some w ∧ t = { s with worker := w }) ∨
    (∃ endTime task, l = .finish endTime ∧ s.worker.pc = .holding task ∧
      t = { s with
        worker := s.worker.finish
        finished := s.finished ++ [(task, taskOperation endTime task)] }) ∨
    (l = .join ∧ s.stopper = .joining ∧ s.worker.pc = .exited ∧
      t = { s with stopper := .returned }) := by
  cases l with
  | push => simp_all [stopStep]
  | noMemory => simp_all [stopStep]
  | signal => simp_all [stopStep]
  | pop =>
    obtain ⟨w, hw, ht⟩ := Option.map_eq_some_iff.mp h
    simp [hw, ht.symm]
  | finish endTime =>
    simp only [stopStep] at h
    split at h
    · next task hpc =>
      obtain rfl := Option.some.inj h
      simp [hpc]
    · simp at h
  | join => simp_all [stopStep]

/-! ### What is accounted for -/

/-- The tasks finished since the call and those still to do, in order. -/
def StopSystem.accounted (s : StopSystem) : List DbTask :=
  s.finished.map Prod.fst ++ s.worker.pending

/-- The state before the marker is pushed. -/
structure BeforeMarker (queued : List DbTask) (pc : WorkerPc) (ls : List StopLabel)
    (s : StopSystem) : Prop where
  no_push : .push ∉ ls
  tasks_eq : s.worker.queue.tasks = queued.drop (ls.count .pop)
  accounted_eq : s.accounted = pc.inHand ++ queued

/-- The state after it: the queued tasks are all there, or the marker has
    taken the place of the oldest. -/
def AfterMarker (queued : List DbTask) (pc : WorkerPc) (ls : List StopLabel)
    (s : StopSystem) : Prop :=
  (MarkerFits queued ls ∧ ∃ rest, s.accounted = pc.inHand ++ (queued ++ rest)) ∨
  (¬ MarkerFits queued ls ∧ queued ≠ [] ∧
    s.accounted = pc.inHand ++ (queued.tail ++ [stopTask]))

structure StopInv (queued : List DbTask) (pc : WorkerPc) (ls : List StopLabel)
    (s : StopSystem) : Prop where
  before : s.stopper = .pushing → BeforeMarker queued pc ls s
  after : s.stopper ≠ .pushing → AfterMarker queued pc ls s
  /-- The flag is up exactly when the stopping thread has raised it. -/
  shutdown_iff : s.worker.queue.shutdown = true ↔ s.stopper = .joining ∨ s.stopper = .returned
  exited : s.worker.pc = .exited → s.worker.queue.tasks = [] ∧ s.worker.queue.shutdown = true
  returned : s.stopper = .returned → s.worker.pc = .exited
  /-- What the worker calls is the operation of the task. -/
  operation : ∀ x ∈ s.finished, ∃ endTime, x.2 = taskOperation endTime x.1

theorem stopInv_init {queued : List DbTask} {pc : WorkerPc} (hpc : pc ≠ .exited) :
    StopInv queued pc [] (stopInit queued pc) where
  before _ := ⟨by simp, rfl, rfl⟩
  after h := absurd rfl h
  shutdown_iff := by simp [stopInit]
  exited h := absurd h hpc
  returned h := by simp [stopInit] at h
  operation := by simp [stopInit]

/-! ### The marker among the labels -/

theorem markerFits_append {queued : List DbTask} {ls : List StopLabel} {l : StopLabel}
    (hl : l ≠ .push) : MarkerFits queued (ls ++ [l]) ↔ MarkerFits queued ls := by
  unfold MarkerFits
  by_cases hpush : StopLabel.push ∈ ls
  · -- the prefix before the marker does not reach the new label
    have htake : (ls ++ [l]).takeWhile (· ≠ .push) = ls.takeWhile (· ≠ .push) := by
      rw [List.takeWhile_append, if_neg]
      intro hlen
      have heq := (List.takeWhile_prefix _).eq_of_length hlen
      have hall := List.takeWhile_eq_self_iff.mp heq StopLabel.push hpush
      simp at hall
    rw [htake]
    simp [hpush]
  · simp [hpush, hl.symm]

theorem markerFits_of_no_push {queued : List DbTask} {ls : List StopLabel}
    (h : .push ∉ ls) : MarkerFits queued ls := by
  intro hpush
  exact absurd hpush h

theorem markerFits_push {queued : List DbTask} {ls : List StopLabel} (h : .push ∉ ls) :
    MarkerFits queued (ls ++ [.push]) ↔ queued.length - ls.count .pop < dbQueueMaxSize := by
  have htake : (ls ++ [StopLabel.push]).takeWhile (· ≠ .push) = ls := by
    rw [List.takeWhile_append_of_pos]
    · simp
    · intro x hx
      simpa using fun hxp : x = StopLabel.push => h (hxp ▸ hx)
  unfold MarkerFits
  rw [htake]
  simp

/-! ### The invariant -/

theorem accounted_push {s : StopSystem} (hroom : s.worker.queue.tasks.length < dbQueueMaxSize) :
    StopSystem.accounted
        { s with worker := s.worker.push stopTask, stopper := .signalling } =
      s.accounted ++ [stopTask] := by
  simp [StopSystem.accounted, WorkerState.pending_push hroom]

theorem accounted_pop {s : StopSystem} {w : WorkerState} (h : s.worker.pop = some w) :
    StopSystem.accounted { s with worker := w } = s.accounted := by
  simp [StopSystem.accounted, WorkerState.pending_pop h]

theorem accounted_finish {s : StopSystem} {task : DbTask} (hpc : s.worker.pc = .holding task)
    (call : Option MysqlCall) :
    StopSystem.accounted
        { s with worker := s.worker.finish, finished := s.finished ++ [(task, call)] } =
      s.accounted := by
  simp [StopSystem.accounted, WorkerState.pending, WorkerState.finish, hpc, WorkerPc.inHand]

/-- The push of the marker: either there is room, or nothing was taken out
    since the call and the oldest task goes. -/
theorem afterMarker_push {queued : List DbTask} {pc : WorkerPc} {ls : List StopLabel}
    {s : StopSystem} (hlen : queued.length ≤ dbQueueMaxSize)
    (hbefore : BeforeMarker queued pc ls s) :
    AfterMarker queued pc (ls ++ [.push])
      { s with worker := s.worker.push stopTask, stopper := .signalling } := by
  have htasks := hbefore.tasks_eq
  have hlength : s.worker.queue.tasks.length = queued.length - ls.count .pop := by
    rw [htasks, List.length_drop]
  by_cases hroom : queued.length - ls.count .pop < dbQueueMaxSize
  · left
    refine ⟨(markerFits_push hbefore.no_push).mpr hroom, [stopTask], ?_⟩
    rw [accounted_push (by omega), hbefore.accounted_eq, List.append_assoc]
  · right
    have hmax := pos_dbQueueMaxSize
    have hcount : ls.count .pop = 0 := by omega
    have hqueued : queued ≠ [] := by
      intro hnil
      rw [hnil, List.length_nil] at hroom
      omega
    rw [hcount, List.drop_zero] at htasks
    refine ⟨fun h => hroom ((markerFits_push hbefore.no_push).mp h), hqueued, ?_⟩
    have hfull : dbQueueMaxSize ≤ s.worker.queue.tasks.length := by omega
    -- what is finished and in hand is what was in hand at the call
    have hfront : s.finished.map Prod.fst ++ s.worker.pc.inHand = pc.inHand := by
      have hacc := hbefore.accounted_eq
      rw [StopSystem.accounted, WorkerState.pending, htasks, ← List.append_assoc] at hacc
      exact List.append_cancel_right hacc
    show s.finished.map Prod.fst ++ (s.worker.pc.inHand ++
      enqueue dbQueueMaxSize s.worker.queue.tasks stopTask) = _
    rw [enqueue_of_le hfull, htasks, ← List.append_assoc, hfront]

/-- The later steps account for the same tasks. -/
theorem AfterMarker.append {queued : List DbTask} {pc : WorkerPc} {ls : List StopLabel}
    {s t : StopSystem} {l : StopLabel} (h : AfterMarker queued pc ls s) (hl : l ≠ .push)
    (hacc : t.accounted = s.accounted) : AfterMarker queued pc (ls ++ [l]) t := by
  unfold AfterMarker at h ⊢
  rw [markerFits_append hl, hacc]
  exact h

/-- **Step lemma**: every step of either thread keeps the accounting. -/
theorem stopInv_step {queued : List DbTask} {pc : WorkerPc} {ls : List StopLabel}
    {s t : StopSystem} {l : StopLabel} (hlen : queued.length ≤ dbQueueMaxSize)
    (hinv : StopInv queued pc ls s) (hstep : ofPartial stopStep s l t) :
    StopInv queued pc (ls ++ [l]) t := by
  rcases stopStep_cases hstep with ⟨rfl, hpc, rfl⟩ | ⟨rfl, hpc, rfl⟩ | ⟨rfl, hpc, rfl⟩ |
    ⟨rfl, w, hpop, rfl⟩ | ⟨endTime, task, rfl, hpc, rfl⟩ | ⟨rfl, hpc, hexit, rfl⟩
  · -- the marker is pushed; the flag is down, so the worker has not left
    have hdown : s.worker.queue.shutdown ≠ true := by
      intro h
      have hpcs := hinv.shutdown_iff.mp h
      simp [hpc] at hpcs
    refine ⟨by simp, fun _ => afterMarker_push hlen (hinv.before hpc), ?_, ?_, by simp,
      hinv.operation⟩
    · simpa [WorkerState.push, TaskFifo.push] using hdown
    · intro hexited
      exact absurd (hinv.exited hexited).2 hdown
  · have hbefore := hinv.before hpc
    refine ⟨by simp, fun _ => Or.inl ⟨?_, [], ?_⟩, ?_, hinv.exited, by simp, hinv.operation⟩
    · apply markerFits_of_no_push
      simpa using hbefore.no_push
    · rw [List.append_nil]
      exact hbefore.accounted_eq
    · simpa [hpc] using hinv.shutdown_iff
  · have hafter := hinv.after (by simp [hpc])
    refine ⟨by simp, fun _ => hafter.append (by simp) rfl, by simp [WorkerState.raiseShutdown],
      ?_, by simp, hinv.operation⟩
    intro hexited
    exact ⟨(hinv.exited hexited).1, rfl⟩
  · have hacc := accounted_pop hpop
    have hcases := WorkerState.pop_cases hpop
    refine ⟨fun hpc => ?_, fun hpc => (hinv.after hpc).append (by simp) hacc, ?_, ?_, ?_,
      hinv.operation⟩
    · have hbefore := hinv.before hpc
      refine ⟨by simpa using hbefore.no_push, ?_, hacc.trans hbefore.accounted_eq⟩
      have htasks := hbefore.tasks_eq
      obtain ⟨-, ⟨task, rest, hcons, rfl⟩ | ⟨-, hup, rfl⟩⟩ := hcases
      · rw [hcons] at htasks
        have htail := congrArg List.tail htasks
        rw [List.tail_drop] at htail
        simpa using htail
      · have hpcs := hinv.shutdown_iff.mp hup
        simp [show s.stopper = .pushing from hpc] at hpcs
    · obtain ⟨-, ⟨task, rest, -, rfl⟩ | ⟨-, -, rfl⟩⟩ := hcases
      · exact hinv.shutdown_iff
      · exact hinv.shutdown_iff
    · obtain ⟨-, ⟨task, rest, -, rfl⟩ | ⟨hnil, hup, rfl⟩⟩ := hcases
      · simp
      · exact fun _ => ⟨hnil, hup⟩
    · intro hret
      have hpop' := hcases.1
      simp [hinv.returned hret] at hpop'
  · have hacc := accounted_finish hpc (taskOperation endTime task)
    refine ⟨fun hstop => ?_, fun hstop => (hinv.after hstop).append (by simp) hacc,
      hinv.shutdown_iff, by simp [WorkerState.finish], ?_, ?_⟩
    · have hbefore := hinv.before hstop
      refine ⟨by simpa using hbefore.no_push, ?_, hacc.trans hbefore.accounted_eq⟩
      rw [List.count_append]
      simpa [WorkerState.finish] using hbefore.tasks_eq
    · intro hret
      simp [hinv.returned hret] at hpc
    · intro x hx
      rcases List.mem_append.mp hx with hx | hx
      · exact hinv.operation x hx
      · obtain rfl := List.mem_singleton.mp hx
        exact ⟨endTime, rfl⟩
  · have hafter := hinv.after (by simp [hpc])
    refine ⟨by simp, fun _ => hafter.append (by simp) rfl, ?_, hinv.exited, fun _ => hexit,
      hinv.operation⟩
    simpa [hpc] using hinv.shutdown_iff

theorem stopInv_run {queued : List DbTask} {pc : WorkerPc} {ls : List StopLabel}
    {s : StopSystem} (hpc : pc ≠ .exited) (hlen : queued.length ≤ dbQueueMaxSize)
    (hrun : Run (ofPartial stopStep) (stopInit queued pc) ls s) : StopInv queued pc ls s := by
  apply hrun.trace_invariant (stopInv_init hpc)
  intro ls t l u _ hinv hstep
  exact stopInv_step hlen hinv hstep

/-! ## Section 3: After the join -/

/-- When `db_sync_stop_worker` returns, nothing is left to do. -/
theorem StopInv.finished_eq {queued : List DbTask} {pc : WorkerPc} {ls : List StopLabel}
    {s : StopSystem} (hinv : StopInv queued pc ls s) (hret : s.stopper = .returned) :
    s.finished.map Prod.fst = s.accounted := by
  have hexited := hinv.returned hret
  have hnil := (hinv.exited hexited).1
  simp [StopSystem.accounted, WorkerState.pending, hexited, hnil, WorkerPc.inHand]

/-- Tasks that all have an operation, with their operations. -/
theorem exists_handed {finished : List (DbTask × Option MysqlCall)}
    (h : ∀ x ∈ finished, x.2.isSome) :
    ∃ handed : List (DbTask × MysqlCall), handed.map (fun x => (x.1, some x.2)) = finished := by
  induction finished with
  | nil => exact ⟨[], rfl⟩
  | cons x rest ih =>
    obtain ⟨handed, hhanded⟩ := ih fun y hy => h y (List.mem_cons_of_mem _ hy)
    obtain ⟨call, hcall⟩ := Option.isSome_iff_exists.mp (h x List.mem_cons_self)
    refine ⟨(x.1, call) :: handed, ?_⟩
    rw [List.map_cons, hhanded, ← hcall]

/-- Every delivered task has a MySQL operation. -/
theorem Delivered.operation {queued : List DbTask} {pc₀ pc : WorkerPc} {ls : List StopLabel}
    {s : StopSystem} (hinv : StopInv queued pc₀ ls s) (h : Delivered queued pc s) :
    ∀ task ∈ queued, (taskOperation [] task).isSome := by
  intro task htask
  obtain ⟨handed, hfst, hpre⟩ := h
  rw [← hfst] at htask
  obtain ⟨x, hx, rfl⟩ := List.mem_map.mp htask
  have hmem : (x.1, some x.2) ∈ s.finished :=
    List.mem_of_mem_drop (hpre.subset (List.mem_map_of_mem hx))
  obtain ⟨endTime, hop⟩ := hinv.operation _ hmem
  rw [← taskOperation_isSome endTime, ← hop]
  rfl

theorem delivered_of_fits {queued : List DbTask} {pc : WorkerPc} {ls : List StopLabel}
    {s : StopSystem} {rest : List DbTask} (hinv : StopInv queued pc ls s)
    (hfinished : s.finished.map Prod.fst = pc.inHand ++ (queued ++ rest))
    (hop : ∀ task ∈ queued, (taskOperation [] task).isSome) : Delivered queued pc s := by
  have hbehind : (s.finished.drop pc.inHand.length).map Prod.fst = queued ++ rest := by
    rw [List.map_drop, hfinished, List.drop_left]
  have hfst : ((s.finished.drop pc.inHand.length).take queued.length).map Prod.fst = queued := by
    rw [List.map_take, hbehind, List.take_left]
  have hsome : ∀ x ∈ (s.finished.drop pc.inHand.length).take queued.length, x.2.isSome := by
    intro x hx
    have hqueued : x.1 ∈ queued := by
      rw [← hfst]
      exact List.mem_map_of_mem hx
    obtain ⟨endTime, hcall⟩ := hinv.operation x (List.mem_of_mem_drop (List.mem_of_mem_take hx))
    rw [hcall, taskOperation_isSome]
    exact hop x.1 hqueued
  obtain ⟨handed, hhanded⟩ := exists_handed hsome
  refine ⟨handed, ?_, ?_⟩
  · rw [← hfst, ← hhanded, List.map_map]
    rfl
  · rw [hhanded]
    exact List.take_prefix _ _

/-- The task thrown away by the marker is not delivered. -/
theorem not_delivered_of_evicted {queued : List DbTask} {pc : WorkerPc} {ls : List StopLabel}
    {s : StopSystem} (hinv : StopInv queued pc ls s) (hqueued : queued ≠ [])
    (hfinished : s.finished.map Prod.fst = pc.inHand ++ (queued.tail ++ [stopTask])) :
    ¬ Delivered queued pc s := by
  intro hdelivered
  have hop := hdelivered.operation hinv
  obtain ⟨handed, hfst, hprefix⟩ := hdelivered
  have hmap : queued <+: queued.tail ++ [stopTask] := by
    have h := hprefix.map Prod.fst
    rw [List.map_drop, hfinished, List.drop_left, List.map_map] at h
    rw [← hfst] at h ⊢
    exact h
  have hlen : queued.length = (queued.tail ++ [stopTask]).length := by
    have hpos := List.length_pos_iff.mpr hqueued
    rw [List.length_append, List.length_tail, List.length_singleton]
    omega
  -- so the marker itself would be one of the tasks with an operation
  have hmarker : stopTask ∈ queued := by
    rw [hmap.eq_of_length hlen]
    simp
  have hnone := hop stopTask hmarker
  simp [taskOperation, decode, stopTask] at hnone

/-- **An orderly shutdown loses a task only to its own marker.**  Whatever
    the queue and the worker are doing at the call, and however the two
    threads are scheduled: when the join has returned, the tasks queued at
    the call have been handed to their MySQL operations in FIFO order if and
    only if the stop marker found room and every one of them has an
    operation. -/
theorem stop_delivers_iff {queued : List DbTask} {pc : WorkerPc} {ls : List StopLabel}
    {s : StopSystem} (hpc : pc ≠ .exited) (hlen : queued.length ≤ dbQueueMaxSize)
    (hrun : Run (ofPartial stopStep) (stopInit queued pc) ls s) (hret : s.stopper = .returned) :
    Delivered queued pc s ↔
      MarkerFits queued ls ∧ ∀ task ∈ queued, (taskOperation [] task).isSome := by
  have hinv := stopInv_run hpc hlen hrun
  have hfinished := hinv.finished_eq hret
  rcases hinv.after (by simp [hret]) with ⟨hfits, rest, hacc⟩ | ⟨hfull, hqueued, hacc⟩
  · rw [hacc] at hfinished
    constructor
    · intro hdelivered
      exact ⟨hfits, hdelivered.operation hinv⟩
    · intro h
      exact delivered_of_fits hinv hfinished h.2
  · rw [hacc] at hfinished
    constructor
    · intro hdelivered
      exact absurd hdelivered (not_delivered_of_evicted hinv hqueued hfinished)
    · intro h
      exact absurd h.1 hfull

/-! ## Section 4: Every schedule ends -/

def WorkerPc.weight : WorkerPc → Nat
  | .popping => 1
  | .holding _ => 2
  | .exited => 0

def StopperPc.weight : StopperPc → Nat
  | .pushing => 5
  | .signalling => 2
  | .joining => 1
  | .returned => 0

/-- What is left to do until the join. -/
def StopSystem.weight (s : StopSystem) : Nat :=
  2 * s.worker.queue.tasks.length + s.worker.pc.weight + s.stopper.weight

theorem length_enqueue_le_succ (cap : Nat) (q : List DbTask) (task : DbTask) :
    (enqueue cap q task).length ≤ q.length + 1 := by
  by_cases hfull : cap ≤ q.length
  · rw [enqueue_of_le hfull, List.length_append, List.length_tail, List.length_singleton]
    omega
  · rw [enqueue_of_lt (by omega), List.length_append, List.length_singleton]

theorem weight_step {s t : StopSystem} {l : StopLabel} (hstep : ofPartial stopStep s l t) :
    t.weight < s.weight := by
  unfold StopSystem.weight
  rcases stopStep_cases hstep with ⟨rfl, hpc, rfl⟩ | ⟨rfl, hpc, rfl⟩ | ⟨rfl, hpc, rfl⟩ |
    ⟨rfl, w, hpop, rfl⟩ | ⟨endTime, task, rfl, hpc, rfl⟩ | ⟨rfl, hpc, hexit, rfl⟩
  · have hle := length_enqueue_le_succ dbQueueMaxSize s.worker.queue.tasks stopTask
    simp only [WorkerState.push, TaskFifo.push, hpc, StopperPc.weight]
    omega
  · simp [hpc, StopperPc.weight]
  · simp [hpc, StopperPc.weight, WorkerState.raiseShutdown]
  · obtain ⟨hpopping, ⟨task, rest, htasks, rfl⟩ | ⟨htasks, -, rfl⟩⟩ := WorkerState.pop_cases hpop
    · simp only [htasks, hpopping, WorkerPc.weight, List.length_cons]
      omega
    · simp [htasks, hpopping, WorkerPc.weight]
  · simp [hpc, WorkerState.finish, WorkerPc.weight]
  · simp [hpc, StopperPc.weight]

/-- Every schedule is at most this long. -/
theorem stop_length_le {queued : List DbTask} {pc : WorkerPc} {ls : List StopLabel}
    {s : StopSystem} (hrun : Run (ofPartial stopStep) (stopInit queued pc) ls s) :
    ls.length ≤ 2 * queued.length + 7 := by
  have hle : ls.length + s.weight ≤ (stopInit queued pc).weight :=
    hrun.length_le fun _ _ _ hstep => weight_step hstep
  have hpc : pc.weight ≤ 2 := by cases pc <;> simp [WorkerPc.weight]
  have hinit : (stopInit queued pc).weight = 2 * queued.length + pc.weight + 5 := rfl
  omega

/-- Until the join has returned, some thread can go on. -/
theorem stop_progress {queued : List DbTask} {pc : WorkerPc} {ls : List StopLabel}
    {s : StopSystem} (hinv : StopInv queued pc ls s) (hret : s.stopper ≠ .returned) :
    ∃ l t, ofPartial stopStep s l t := by
  suffices henabled : ∃ l, (stopStep s l).isSome by
    obtain ⟨l, hl⟩ := henabled
    exact ⟨l, Option.isSome_iff_exists.mp hl⟩
  cases hstop : s.stopper with
  | pushing => exact ⟨.noMemory, by simp [stopStep, hstop]⟩
  | signalling => exact ⟨.signal, by simp [stopStep, hstop]⟩
  | joining =>
    -- the flag is up, so the worker never waits
    have hup := hinv.shutdown_iff.mpr (Or.inl hstop)
    cases hpc : s.worker.pc with
    | popping =>
      refine ⟨.pop, ?_⟩
      cases htasks : s.worker.queue.tasks <;> simp [stopStep, WorkerState.pop, hpc, htasks, hup]
    | holding task => exact ⟨.finish [], by simp [stopStep, hpc]⟩
    | exited => exact ⟨.join, by simp [stopStep, hpc, hstop]⟩
  | returned => exact absurd hstop hret

/-- A state that a call can be in. -/
def Stopping (queued : List DbTask) (pc : WorkerPc) (s : StopSystem) : Prop :=
  ∃ ls, StopInv queued pc ls s

/-- From every state that a call can be in, the join is reached. -/
theorem stop_completes {queued : List DbTask} {pc : WorkerPc} {ls : List StopLabel}
    {s : StopSystem} (hlen : queued.length ≤ dbQueueMaxSize) (hinv : StopInv queued pc ls s) :
    ∃ ms t, Run (ofPartial stopStep) s ms t ∧ t.stopper = .returned := by
  have hs : Stopping queued pc s := ⟨ls, hinv⟩
  refine Run.exists_final hs ?_ (fun _ _ _ hstep => weight_step hstep) ?_
  · intro s l t hs hstep
    obtain ⟨ls, hinv⟩ := hs
    exact ⟨ls ++ [l], stopInv_step hlen hinv hstep⟩
  · intro s hs hret
    obtain ⟨ls, hinv⟩ := hs
    exact stop_progress hinv hret

/-! ## Section 5: One task, and a full queue -/

/-- A status change queued at the call. -/
def statusTask : DbTask := packAgentStatus (cstr "2001") (cstr "busy") 1

theorem statusTask_operation : (taskOperation [] statusTask).isSome := by decide

/-- The theorem at a queue of one task. -/
theorem stop_delivers_iff_one :
    ∃ s, Run (ofPartial stopStep) (stopInit [statusTask] .popping)
        [.push, .signal, .pop, .finish [], .pop, .finish [], .pop, .join] s ∧
      Delivered [statusTask] .popping s := by
  have hrun := run_ofPartial_iff.mpr (show
    [StopLabel.push, .signal, .pop, .finish [], .pop, .finish [], .pop, .join].foldlM stopStep
      (stopInit [statusTask] .popping) = some _ from rfl)
  refine ⟨_, hrun, (stop_delivers_iff (by simp) (by decide) hrun rfl).mpr ⟨?_, ?_⟩⟩
  · intro _
    decide
  · intro task htask
    obtain rfl := List.mem_singleton.mp htask
    exact statusTask_operation

/-- With the queue full at the call and the marker pushed at once, the oldest
    task is lost, although every task has an operation. -/
theorem stop_loses_oldest :
    ¬ ∀ (queued : List DbTask) (pc : WorkerPc) (ls : List StopLabel) (s : StopSystem),
      pc ≠ .exited → queued.length ≤ dbQueueMaxSize →
      (∀ task ∈ queued, (taskOperation [] task).isSome) →
      Run (ofPartial stopStep) (stopInit queued pc) ls s → s.stopper = .returned →
      Delivered queued pc s := by
  intro h
  let queued := List.replicate dbQueueMaxSize statusTask
  have hlen : queued.length = dbQueueMaxSize := List.length_replicate
  have hop : ∀ task ∈ queued, (taskOperation [] task).isSome := by
    intro task htask
    rw [List.eq_of_mem_replicate htask]
    exact statusTask_operation
  let pushed : StopSystem := ⟨(stopInit queued .popping).worker.push stopTask, .signalling, []⟩
  have hpush : Run (ofPartial stopStep) (stopInit queued .popping) [.push] pushed :=
    Run.single (by simp [ofPartial, stopStep, stopInit, pushed])
  have hinv := stopInv_run (by simp) hlen.le hpush
  obtain ⟨ms, t, hrun, hret⟩ := stop_completes hlen.le hinv
  have hall := hpush.append hrun
  have hdelivered := h queued .popping _ t (by simp) hlen.le hop hall hret
  -- the worker had taken nothing out when the marker came
  have hfits := ((stop_delivers_iff (by simp) hlen.le hall hret).mp hdelivered).1 (by simp)
  rw [hlen, List.singleton_append, List.takeWhile_cons_of_neg (by simp), List.count_nil] at hfits
  omega

end DbSync
