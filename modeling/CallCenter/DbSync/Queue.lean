import Mathlib.Data.Finset.Insert
import CallCenter.DbSync.Task
import CallCenter.Framework.BoundedFifo
import CallCenter.Framework.LinkedHeap
import CallCenter.Framework.Transition

/-! # The Task Queue

    The producer/consumer queue of `db_sync.c`: a singly linked list with
    `head`, `tail` and `count`, used under one lock, that throws its oldest
    task away when a push finds `DB_QUEUE_MAX_SIZE` tasks linked.

    A heap operation on memory that is not allocated makes the function
    return `none`; `QueueInv` rules that out.

    Main results:
    * `queuePush_spec`, `queuePop_spec`: what one operation does to the list
      of linked nodes.
    * `queue_run`: in every state of every run the pointers describe one list
      of `count` nodes, and that list is the bounded drop-oldest FIFO of
      everything pushed so far. -/

namespace DbSync

open LinkedHeap BoundedFifo Transition

/-! ## Section 1: Queue operations -/

/-- `DB_QUEUE_MAX_SIZE` -/
def dbQueueMaxSize : Nat := 10000

theorem pos_dbQueueMaxSize : 0 < dbQueueMaxSize := by decide

/-- `db_task_queue_t` without its lock, together with the heap its nodes live in. -/
structure TaskQueue where
  head : Option Addr
  tail : Option Addr
  count : Int
  shutdown : Bool
  heap : Heap DbTask

def queueInit (heap : Heap DbTask) : TaskQueue where
  head := none
  tail := none
  count := 0
  shutdown := false
  heap := heap

/-- `head = node->next; if (!head) tail = NULL; count--`, the statements that
    both operations use to unlink the first node. -/
def unlinkHead (q : TaskQueue) (node : Node DbTask) : TaskQueue :=
  { q with
    head := node.next
    tail := if node.next.isNone then none else q.tail
    count := q.count - 1 }

/-- The overflow protection at the start of `queue_push`. -/
def dropOldest (q : TaskQueue) : Option TaskQueue :=
  if (dbQueueMaxSize : Int) ≤ q.count then
    match q.head with
    | none => some q
    | some old => do
      let node ← q.heap old
      some { unlinkHead q node with heap := free q.heap old }
  else some q

/-- The rest of `queue_push`: the new task becomes the last one. -/
def linkLast (q : TaskQueue) (task : Addr) : Option TaskQueue := do
  let node ← q.heap task
  let heap := store q.heap task { node with next := none }
  match q.tail with
  | none => some { q with head := some task, tail := some task, count := q.count + 1, heap := heap }
  | some last => do
    let lastNode ← heap last
    some { q with
      tail := some task
      count := q.count + 1
      heap := store heap last { lastNode with next := some task } }

/-- `queue_push`; the result is the return code and the queue. -/
def queuePush (q : TaskQueue) (task : Option Addr) : Option (Int × TaskQueue) :=
  match task with
  | none => some (-1, q)
  | some task => do
    let q ← dropOldest q
    let q ← linkLast q task
    some (0, q)

/-- How a call of `queue_pop` continues once it holds the lock. -/
inductive PopResult where
  /-- It waits on the condition variable. -/
  | wait
  /-- It returns NULL. -/
  | null
  /-- It returns a task. -/
  | task (a : Addr)
  deriving DecidableEq, Repr

def queuePop (q : TaskQueue) : Option (PopResult × TaskQueue) :=
  match q.head with
  | none => some (if q.shutdown then .null else .wait, q)
  | some task => do
    let node ← q.heap task
    some (.task task, unlinkHead q node)

/-! ## Section 2: What one operation does -/

/-- The pointers of `q` describe the list `as` of linked nodes. -/
structure QueueInv (q : TaskQueue) (as : List Addr) : Prop where
  chain : Chain q.heap q.head as
  nodup : as.Nodup
  tail_eq : q.tail = as.getLast?
  count_eq : q.count = as.length
  length_le : as.length ≤ dbQueueMaxSize

theorem queueInv_init (heap : Heap DbTask) : QueueInv (queueInit heap) [] where
  chain := Chain.nil
  nodup := List.nodup_nil
  tail_eq := rfl
  count_eq := rfl
  length_le := Nat.zero_le _

/-- The nodes that a push finds linked after its overflow protection. -/
def dropFull (as : List Addr) : List Addr := if dbQueueMaxSize ≤ as.length then as.tail else as

theorem dropFull_subset {as : List Addr} {a : Addr} (ha : a ∈ dropFull as) : a ∈ as := by
  unfold dropFull at ha
  split at ha
  · exact List.mem_of_mem_tail ha
  · exact ha

theorem QueueInv.unlink {q : TaskQueue} {a : Addr} {as : List Addr} {node : Node DbTask}
    (hinv : QueueInv q (a :: as)) (hnode : q.heap a = some node) (heap : Heap DbTask)
    (hagree : ∀ b ∈ as, heap b = q.heap b) :
    QueueInv { unlinkHead q node with heap := heap } as := by
  obtain ⟨node', rest, hnode', hrest, heq⟩ := chain_some_iff.mp (hinv.chain.head_eq ▸ hinv.chain)
  obtain ⟨-, rfl⟩ := List.cons.inj heq
  obtain rfl : node' = node := Option.some.inj (hnode'.symm.trans hnode)
  have hhead : node'.next = as.head? := hrest.head_eq
  refine ⟨hrest.frame hagree, (List.nodup_cons.mp hinv.nodup).2, ?_, ?_, ?_⟩
  · show (if node'.next.isNone then none else q.tail) = as.getLast?
    rw [hhead, hinv.tail_eq]
    cases as <;> simp
  · show q.count - 1 = (as.length : Int)
    rw [hinv.count_eq, List.length_cons]
    omega
  · exact Nat.le_of_succ_le hinv.length_le

theorem QueueInv.head_node {q : TaskQueue} {a : Addr} {as : List Addr}
    (hinv : QueueInv q (a :: as)) : q.head = some a ∧ ∃ node, q.heap a = some node := by
  obtain ⟨node, _, hnode, _, _⟩ := chain_some_iff.mp (hinv.chain.head_eq ▸ hinv.chain)
  exact ⟨hinv.chain.head_eq, node, hnode⟩

theorem dropOldest_spec {q : TaskQueue} {as : List Addr} (hinv : QueueInv q as) :
    ∃ q', dropOldest q = some q' ∧ QueueInv q' (dropFull as) ∧
      (dropFull as).length < dbQueueMaxSize ∧ q'.shutdown = q.shutdown ∧
      ∀ b, b ∈ dropFull as ∨ b ∉ as → q'.heap b = q.heap b := by
  have hcount := hinv.count_eq
  by_cases hfull : dbQueueMaxSize ≤ as.length
  · cases as with
    | nil => exact absurd hfull (by decide)
    | cons a as =>
      obtain ⟨hhead, node, hnode⟩ := hinv.head_node
      have ha : a ∉ as := (List.nodup_cons.mp hinv.nodup).1
      have hdrop : dropFull (a :: as) = as := if_pos hfull
      have hle : (dbQueueMaxSize : Int) ≤ q.count := by omega
      have heq : dropOldest q = some { unlinkHead q node with heap := free q.heap a } := by
        simp [dropOldest, hhead, hnode, hle]
      refine ⟨_, heq, ?_, ?_, rfl, ?_⟩
      · rw [hdrop]
        exact hinv.unlink hnode _ fun b hb => free_ne _ fun h => ha (h ▸ hb)
      · have hlen := hinv.length_le
        rw [hdrop]
        simpa using hlen
      · intro b hb
        rw [hdrop] at hb
        refine free_ne _ ?_
        rintro rfl
        rcases hb with hb | hb
        · exact ha hb
        · exact hb List.mem_cons_self
  · have hlt : ¬ (dbQueueMaxSize : Int) ≤ q.count := by omega
    have hdrop : dropFull as = as := if_neg hfull
    refine ⟨q, by simp [dropOldest, hlt], ?_, ?_, rfl, fun _ _ => rfl⟩
    · rwa [hdrop]
    · rw [hdrop]
      omega

theorem linkLast_spec {q : TaskQueue} {as : List Addr} {task : Addr} {node : Node DbTask}
    (hinv : QueueInv q as) (hlt : as.length < dbQueueMaxSize) (hnot : task ∉ as)
    (hnode : q.heap task = some node) :
    ∃ q', linkLast q task = some q' ∧ QueueInv q' (as ++ [task]) ∧ q'.shutdown = q.shutdown ∧
      ∀ b, (q'.heap b).map Node.val = (q.heap b).map Node.val := by
  have hframe : Chain (store q.heap task { node with next := none }) q.head as :=
    hinv.chain.store_ne _ hnot
  have hnodup : (as ++ [task]).Nodup := by
    rw [List.nodup_append_comm, List.singleton_append]
    exact List.nodup_cons.mpr ⟨hnot, hinv.nodup⟩
  have hcount : q.count + 1 = ((as ++ [task]).length : Int) := by
    rw [hinv.count_eq, List.length_append, List.length_singleton]
    rfl
  have hlength : (as ++ [task]).length ≤ dbQueueMaxSize := by
    rw [List.length_append, List.length_singleton]
    exact hlt
  cases htail : as.getLast? with
  | none =>
    obtain rfl : as = [] := List.getLast?_eq_none_iff.mp htail
    have hq : q.tail = none := hinv.tail_eq.trans htail
    have heq : linkLast q task = some { q with
        head := some task
        tail := some task
        count := q.count + 1
        heap := store q.heap task { node with next := none } } := by
      simp [linkLast, hnode, hq]
    refine ⟨_, heq, ⟨?_, hnodup, rfl, hcount, hlength⟩, rfl, val_store_next hnode none⟩
    exact Chain.cons (store_self _ _ _) Chain.nil
  | some last =>
    have hq : q.tail = some last := hinv.tail_eq.trans htail
    have hmem : last ∈ as := List.mem_of_getLast? htail
    have hne : last ≠ task := fun h => hnot (h ▸ hmem)
    obtain ⟨lastNode, hlast⟩ := Option.isSome_iff_exists.mp (hinv.chain.allocated last hmem)
    have hlast' : store q.heap task { node with next := none } last = some lastNode := by
      rw [store_ne _ _ hne, hlast]
    have heq : linkLast q task = some { q with
        tail := some task
        count := q.count + 1
        heap := store (store q.heap task { node with next := none }) last
          { lastNode with next := some task } } := by
      simp [linkLast, hnode, hq, hlast']
    refine ⟨_, heq, ⟨?_, hnodup, by simp, hcount, hlength⟩, rfl, fun b => ?_⟩
    · exact hframe.snoc hinv.nodup htail hlast' (store_self _ _ _) rfl hnot
    · exact (val_store_next hlast' (some task) b).trans (val_store_next hnode none b)

/-- **Push**: the nodes linked afterwards are the old ones, without the
    oldest if the queue was full, and the new one behind them. -/
theorem queuePush_spec {q : TaskQueue} {as : List Addr} {task : Addr} {node : Node DbTask}
    (hinv : QueueInv q as) (hnot : task ∉ as) (hnode : q.heap task = some node) :
    ∃ q', queuePush q (some task) = some (0, q') ∧ QueueInv q' (dropFull as ++ [task]) ∧
      q'.shutdown = q.shutdown ∧
      ∀ b, b ∈ dropFull as ∨ b ∉ as → (q'.heap b).map Node.val = (q.heap b).map Node.val := by
  obtain ⟨q₁, hdrop, hinv₁, hlt, hsd₁, hheap₁⟩ := dropOldest_spec hinv
  have hnode₁ : q₁.heap task = some node := (hheap₁ task (Or.inr hnot)).trans hnode
  have hnot₁ : task ∉ dropFull as := fun h => hnot (dropFull_subset h)
  obtain ⟨q₂, hlink, hinv₂, hsd₂, hheap₂⟩ := linkLast_spec hinv₁ hlt hnot₁ hnode₁
  refine ⟨q₂, by simp [queuePush, hdrop, hlink], hinv₂, hsd₂.trans hsd₁, fun b hb => ?_⟩
  rw [hheap₂ b, hheap₁ b hb]

/-- **Pop**: on a non-empty queue the first node is unlinked and returned. -/
theorem queuePop_spec {q : TaskQueue} {a : Addr} {as : List Addr} (hinv : QueueInv q (a :: as)) :
    ∃ q', queuePop q = some (.task a, q') ∧ QueueInv q' as ∧ q'.heap = q.heap ∧
      q'.shutdown = q.shutdown := by
  obtain ⟨hhead, node, hnode⟩ := hinv.head_node
  have heq : queuePop q = some (.task a, unlinkHead q node) := by simp [queuePop, hhead, hnode]
  exact ⟨_, heq, hinv.unlink hnode _ fun _ _ => rfl, rfl, rfl⟩

theorem queuePop_nil {q : TaskQueue} (hinv : QueueInv q []) :
    queuePop q = some (if q.shutdown then .null else .wait, q) := by
  have hhead : q.head = none := hinv.chain.head_eq
  simp [queuePop, hhead]

/-! ## Section 3: Threads around the queue -/

/-- The queue with its users.  `held` are the allocated nodes that a thread
    owns; the other fields record what the run did: the tasks pushed, the
    arrival number of each node's last push, the tasks popped, and the
    arrival numbers of the tasks that were at the head when a push found the
    queue full. -/
structure QueueSystem where
  queue : TaskQueue
  held : Finset Addr
  stamp : Addr → Nat
  pushed : List DbTask
  popped : List (DbTask × Nat)
  evicted : List Nat

/-- Memory without nodes and the queue that `queue_init` leaves. -/
def queueSystemInit : QueueSystem where
  queue := queueInit fun _ => none
  held := ∅
  stamp := fun _ => 0
  pushed := []
  popped := []
  evicted := []

inductive QueueOp where
  /-- A producer allocates a node and packs a task into it. -/
  | alloc (a : Addr) (task : DbTask)
  | push (a : Addr)
  /-- A `queue_pop` that does not keep waiting. -/
  | pop (result : PopResult)
  /-- A consumer frees a node it popped. -/
  | free (a : Addr)
  /-- `db_sync_stop_worker` sets the shutdown flag. -/
  | signalShutdown
  deriving DecidableEq, Repr

/-- The arrival numbers evicted by a push that finds the queue `q`. -/
def evictedBy (q : TaskQueue) (stamp : Addr → Nat) : List Nat :=
  if (dbQueueMaxSize : Int) ≤ q.count then (q.head.map stamp).toList else []

/-- One step of some thread; `queue_push` and `queue_pop` run under the lock. -/
inductive QueueStep : QueueSystem → QueueOp → QueueSystem → Prop where
  | alloc (s : QueueSystem) (a : Addr) (task : DbTask) (hfree : s.queue.heap a = none) :
      QueueStep s (.alloc a task)
        { s with
          queue := { s.queue with heap := store s.queue.heap a ⟨task, none⟩ }
          held := insert a s.held }
  | push (s : QueueSystem) (a : Addr) (node : Node DbTask) (q : TaskQueue) (hheld : a ∈ s.held)
      (hnode : s.queue.heap a = some node) (hpush : queuePush s.queue (some a) = some (0, q)) :
      QueueStep s (.push a)
        { s with
          queue := q
          held := s.held.erase a
          stamp := Function.update s.stamp a s.pushed.length
          pushed := s.pushed ++ [node.val]
          evicted := s.evicted ++ evictedBy s.queue s.stamp }
  | popTask (s : QueueSystem) (a : Addr) (node : Node DbTask) (q : TaskQueue)
      (hnode : s.queue.heap a = some node) (hpop : queuePop s.queue = some (.task a, q)) :
      QueueStep s (.pop (.task a))
        { s with
          queue := q
          held := insert a s.held
          popped := s.popped ++ [(node.val, s.stamp a)] }
  | popNull (s : QueueSystem) (q : TaskQueue) (hpop : queuePop s.queue = some (.null, q)) :
      QueueStep s (.pop .null) { s with queue := q }
  | free (s : QueueSystem) (a : Addr) (hheld : a ∈ s.held) :
      QueueStep s (.free a)
        { s with
          queue := { s.queue with heap := LinkedHeap.free s.queue.heap a }
          held := s.held.erase a }
  | signalShutdown (s : QueueSystem) :
      QueueStep s .signalShutdown { s with queue := { s.queue with shutdown := true } }

/-! ## Section 4: The queue refines the bounded FIFO -/

/-- The tasks of a list of nodes, each with its arrival number. -/
def linkedTasks (s : QueueSystem) (as : List Addr) : List (DbTask × Nat) :=
  contents (fun a task => (task, s.stamp a)) s.queue.heap as

/-- The abstract queue that the system stands for when `as` is linked. -/
def QueueSystem.history (s : QueueSystem) (as : List Addr) : History DbTask where
  pushed := s.pushed
  popped := s.popped
  items := linkedTasks s as
  evicted := s.evicted

theorem history_items_cons {s : QueueSystem} {a : Addr} {node : Node DbTask}
    (hnode : s.queue.heap a = some node) (as : List Addr) :
    (s.history (a :: as)).items = (node.val, s.stamp a) :: linkedTasks s as :=
  contents_cons (fun a task => (task, s.stamp a)) hnode as

/-- `as` are the linked nodes of the queue, the nodes held by threads are
    allocated and not linked, and the tasks are accounted for. -/
structure SystemInv (s : QueueSystem) (as : List Addr) : Prop where
  queue : QueueInv s.queue as
  held_allocated : ∀ a ∈ s.held, (s.queue.heap a).isSome
  held_unlinked : ∀ a ∈ s.held, a ∉ as
  accounting : Accounting (s.history as)

theorem SystemInv.history_items_length {s : QueueSystem} {as : List Addr} (hinv : SystemInv s as) :
    (s.history as).items.length = as.length := by
  have hlen : (linkedTasks s as).length = as.length := hinv.queue.chain.length_contents _
  exact hlen

theorem systemInv_init : SystemInv queueSystemInit [] where
  queue := queueInv_init _
  held_allocated := by simp [queueSystemInit]
  held_unlinked := by simp
  accounting := accounting_empty

/-- Changes outside the linked nodes keep the linked list. -/
theorem QueueInv.frame {q q' : TaskQueue} {as : List Addr} (hinv : QueueInv q as)
    (hhead : q'.head = q.head) (htail : q'.tail = q.tail) (hcount : q'.count = q.count)
    (hheap : ∀ a ∈ as, q'.heap a = q.heap a) : QueueInv q' as where
  chain := hhead ▸ hinv.chain.frame hheap
  nodup := hinv.nodup
  tail_eq := htail.trans hinv.tail_eq
  count_eq := hcount.trans hinv.count_eq
  length_le := hinv.length_le

/-- Memory outside the linked nodes does not matter to the abstract queue. -/
theorem history_frame {s : QueueSystem} {as : List Addr} {heap : Heap DbTask}
    {held : Finset Addr} (hheap : ∀ b ∈ as, heap b = s.queue.heap b) :
    QueueSystem.history { s with queue := { s.queue with heap := heap }, held := held } as =
      s.history as := by
  have hitems : contents (fun a task => (task, s.stamp a)) heap as = linkedTasks s as :=
    contents_congr (fun _ _ => rfl) fun b hb => by rw [hheap b hb]
  simp only [QueueSystem.history]
  rw [← hitems]
  rfl

/-- A step that changes one unlinked node and the set of held nodes. -/
theorem SystemInv.frame {s : QueueSystem} {as : List Addr} (hinv : SystemInv s as) {a : Addr}
    (hnot : a ∉ as) {heap : Heap DbTask} {held : Finset Addr}
    (hheap : ∀ b, b ≠ a → heap b = s.queue.heap b)
    (halloc : ∀ b ∈ held, (heap b).isSome) (hunlinked : ∀ b ∈ held, b ∉ as) :
    SystemInv { s with queue := { s.queue with heap := heap }, held := held } as := by
  have hagree : ∀ b ∈ as, heap b = s.queue.heap b := fun b hb => hheap b fun h => hnot (h ▸ hb)
  refine ⟨hinv.queue.frame rfl rfl rfl hagree, halloc, hunlinked, ?_⟩
  rw [history_frame hagree]
  exact hinv.accounting

/-- The nodes that stay linked keep their tasks and arrival numbers, and the
    pushed node gets the next number. -/
theorem linkedTasks_push {s : QueueSystem} {as : List Addr} {a : Addr} {node : Node DbTask}
    {heap : Heap DbTask} (hnot : a ∉ as) (hnode : (heap a).map Node.val = some node.val)
    (hheap : ∀ b ∈ as, (heap b).map Node.val = (s.queue.heap b).map Node.val) :
    contents (fun b task => (task, Function.update s.stamp a s.pushed.length b)) heap (as ++ [a]) =
      linkedTasks s as ++ [(node.val, s.pushed.length)] := by
  have hlinked : contents (fun b task => (task, Function.update s.stamp a s.pushed.length b))
      heap as = linkedTasks s as := by
    refine contents_congr (fun b hb => ?_) hheap
    have hne : b ≠ a := fun h => hnot (h ▸ hb)
    rw [Function.update_of_ne hne]
  obtain ⟨node', hnode', hval⟩ := Option.map_eq_some_iff.mp hnode
  rw [contents_append, hlinked]
  simp [contents, hnode', hval]

/-- A push of the code is a push of the abstract queue. -/
theorem history_push {s : QueueSystem} {as : List Addr} (hinv : SystemInv s as)
    (node : Node DbTask) :
    BoundedFifo.push dbQueueMaxSize (s.history as) node.val =
      { pushed := s.pushed ++ [node.val]
        popped := s.popped
        items := linkedTasks s (dropFull as) ++ [(node.val, s.pushed.length)]
        evicted := s.evicted ++ evictedBy s.queue s.stamp } := by
  have hlen := hinv.history_items_length
  have hcount := hinv.queue.count_eq
  by_cases hfull : dbQueueMaxSize ≤ as.length
  · cases as with
    | nil => exact absurd hfull (by decide)
    | cons x rest =>
      obtain ⟨hhead, first, hfirst⟩ := hinv.queue.head_node
      have hitems : (s.history (x :: rest)).items =
          (first.val, s.stamp x) :: linkedTasks s rest := history_items_cons hfirst rest
      have hev : evictedBy s.queue s.stamp = [s.stamp x] := by
        simp [evictedBy, hhead, show (dbQueueMaxSize : Int) ≤ s.queue.count by omega]
      have hdrop : dropFull (x :: rest) = rest := if_pos hfull
      have hcap : dbQueueMaxSize ≤ (s.history (x :: rest)).items.length := hlen ▸ hfull
      rw [BoundedFifo.push, if_pos hcap, evictOldest_cons hitems, hev, hdrop]
      rfl
  · have hev : evictedBy s.queue s.stamp = [] := by
      simp [evictedBy, show ¬ (dbQueueMaxSize : Int) ≤ s.queue.count by omega]
    have hdrop : dropFull as = as := if_neg hfull
    have hcap : ¬ dbQueueMaxSize ≤ (s.history as).items.length := hlen ▸ hfull
    rw [BoundedFifo.push, if_neg hcap, hev, hdrop]
    simp [QueueSystem.history, append]

/-- What a step does to the abstract queue. -/
def historyStep (s : QueueSystem) (op : QueueOp) (h : History DbTask) : History DbTask :=
  match op with
  | .push a => (s.queue.heap a).elim h fun node => BoundedFifo.push dbQueueMaxSize h node.val
  | .pop (.task _) => BoundedFifo.pop h
  | _ => h

/-- A push drops the oldest task of a full queue and appends. -/
theorem systemInv_push {s t : QueueSystem} {a : Addr} {as : List Addr} (hinv : SystemInv s as)
    (hstep : QueueStep s (.push a) t) :
    SystemInv t (dropFull as ++ [a]) ∧
      t.history (dropFull as ++ [a]) = historyStep s (.push a) (s.history as) := by
  cases hstep with
  | push a node q hheld hnode hpush =>
    have hnot := hinv.held_unlinked a hheld
    obtain ⟨q', hpush', hqinv, -, hheap⟩ := queuePush_spec hinv.queue hnot hnode
    obtain rfl : q' = q := by
      have heq := hpush'.symm.trans hpush
      simpa using heq
    have hnot' : a ∉ dropFull as := fun h => hnot (dropFull_subset h)
    have hval : (q'.heap a).map Node.val = some node.val := by
      rw [hheap a (Or.inr hnot), hnode]
      rfl
    have hlinked := linkedTasks_push hnot' hval fun b hb => hheap b (Or.inl hb)
    have hhist := history_push hinv node
    rw [← hlinked] at hhist
    refine ⟨⟨hqinv, ?_, ?_, ?_⟩, ?_⟩
    · intro b hb
      have hmem := Finset.mem_of_mem_erase hb
      have hval := hheap b (Or.inr (hinv.held_unlinked b hmem))
      have halloc := hinv.held_allocated b hmem
      rw [← Option.isSome_map, ← hval, Option.isSome_map] at halloc
      exact halloc
    · intro b hb hlinked
      rcases List.mem_append.mp hlinked with hlinked | hlinked
      · exact hinv.held_unlinked b (Finset.mem_of_mem_erase hb) (dropFull_subset hlinked)
      · exact Finset.ne_of_mem_erase hb (List.mem_singleton.mp hlinked)
    · have hpushed := accounting_push hinv.accounting dbQueueMaxSize node.val
      rw [hhist] at hpushed
      exact hpushed
    · simp only [historyStep, hnode, Option.elim_some]
      exact hhist.symm

/-- An allocation leaves the queue as it is. -/
theorem systemInv_alloc {s t : QueueSystem} {a : Addr} {task : DbTask} {as : List Addr}
    (hinv : SystemInv s as) (hstep : QueueStep s (.alloc a task) t) :
    SystemInv t as ∧ t.history as = s.history as := by
  cases hstep with
  | alloc _ _ hfree =>
    -- a fresh node is neither linked nor held
    have hnot : a ∉ as := by
      intro ha
      have halloc := hinv.queue.chain.allocated a ha
      simp [hfree] at halloc
    refine ⟨hinv.frame hnot (fun b hb => store_ne _ _ hb) ?_ ?_, ?_⟩
    · intro b hb
      rcases Finset.mem_insert.mp hb with rfl | hb
      · simp
      · by_cases hba : b = a
        · simp [hba]
        · rw [store_ne _ _ hba]
          exact hinv.held_allocated b hb
    · intro b hb
      rcases Finset.mem_insert.mp hb with rfl | hb
      · exact hnot
      · exact hinv.held_unlinked b hb
    · exact history_frame fun b hb => store_ne _ _ fun h => hnot (h ▸ hb)

/-- A pop takes the oldest task, if there is one. -/
theorem systemInv_pop {s t : QueueSystem} {r : PopResult} {as : List Addr} (hinv : SystemInv s as)
    (hstep : QueueStep s (.pop r) t) :
    ∃ as', SystemInv t as' ∧ t.history as' = historyStep s (.pop r) (s.history as) := by
  cases hstep with
  | popTask a node q hnode hpop =>
    cases as with
    | nil =>
      rw [queuePop_nil hinv.queue] at hpop
      split at hpop <;> simp at hpop
    | cons x rest =>
      obtain ⟨q', hpop', hqinv, hheap, -⟩ := queuePop_spec hinv.queue
      obtain ⟨rfl, rfl⟩ : x = a ∧ q' = q := by
        have heq := hpop'.symm.trans hpop
        simpa using heq
      have hnd := List.nodup_cons.mp hinv.queue.nodup
      have hitems : (s.history (x :: rest)).items =
          (node.val, s.stamp x) :: linkedTasks s rest := history_items_cons hnode rest
      have hhist : BoundedFifo.pop (s.history (x :: rest)) =
          { pushed := s.pushed
            popped := s.popped ++ [(node.val, s.stamp x)]
            items := contents (fun b task => (task, s.stamp b)) q'.heap rest
            evicted := s.evicted } := by
        rw [pop_cons hitems, hheap]
        rfl
      refine ⟨rest, ⟨hqinv, ?_, ?_, ?_⟩, ?_⟩
      · intro b hb
        show (q'.heap b).isSome
        rw [hheap]
        rcases Finset.mem_insert.mp hb with rfl | hb
        · simp [hnode]
        · exact hinv.held_allocated b hb
      · intro b hb
        rcases Finset.mem_insert.mp hb with rfl | hb
        · exact hnd.1
        · exact fun h => hinv.held_unlinked b hb (List.mem_cons_of_mem _ h)
      · have hpopped := accounting_pop hinv.accounting
        rw [hhist] at hpopped
        exact hpopped
      · exact hhist.symm
  | popNull q hpop =>
    cases as with
    | nil =>
      rw [queuePop_nil hinv.queue] at hpop
      obtain rfl : s.queue = q := by
        have heq := (Option.some.inj hpop)
        exact (Prod.mk.inj heq).2
      exact ⟨[], hinv, rfl⟩
    | cons x rest =>
      obtain ⟨q', hpop', -⟩ := queuePop_spec hinv.queue
      have heq := hpop'.symm.trans hpop
      simp at heq

/-- **Step lemma**: every step keeps the pointers and the accounting, and is
    the step of the abstract queue. -/
theorem systemInv_step {s t : QueueSystem} {op : QueueOp} {as : List Addr}
    (hinv : SystemInv s as) (hstep : QueueStep s op t) :
    ∃ as', SystemInv t as' ∧ t.history as' = historyStep s op (s.history as) := by
  cases op with
  | push a => exact ⟨_, systemInv_push hinv hstep⟩
  | pop r => exact systemInv_pop hinv hstep
  | alloc a task => exact ⟨as, systemInv_alloc hinv hstep⟩
  | free a =>
    cases hstep with
    | free _ hheld =>
      have hnot := hinv.held_unlinked a hheld
      refine ⟨as, hinv.frame hnot (fun b hb => free_ne _ hb) ?_ ?_, ?_⟩
      · intro b hb
        rw [free_ne _ (Finset.ne_of_mem_erase hb)]
        exact hinv.held_allocated b (Finset.mem_of_mem_erase hb)
      · exact fun b hb => hinv.held_unlinked b (Finset.mem_of_mem_erase hb)
      · exact history_frame fun b hb => free_ne _ fun h => hnot (h ▸ hb)
  | signalShutdown =>
    cases hstep
    exact ⟨as, ⟨hinv.queue.frame rfl rfl rfl fun _ _ => rfl, hinv.held_allocated,
      hinv.held_unlinked, hinv.accounting⟩, rfl⟩

/-- The invariant holds in every reachable state. -/
theorem systemInv_run {s : QueueSystem} {ops : List QueueOp}
    (hrun : Run QueueStep queueSystemInit ops s) : ∃ as, SystemInv s as := by
  apply hrun.invariant ⟨[], systemInv_init⟩
  intro t op u hinv hstep
  obtain ⟨as, hinv⟩ := hinv
  obtain ⟨as', hinv', -⟩ := systemInv_step hinv hstep
  exact ⟨as', hinv'⟩

theorem QueueInv.null_iff {q : TaskQueue} {as : List Addr} (hinv : QueueInv q as) :
    (q.head = none ↔ q.tail = none) ∧ (q.tail = none ↔ q.count = 0) := by
  have hhead := hinv.chain.head_eq
  have htail := hinv.tail_eq
  have hcount := hinv.count_eq
  cases as with
  | nil => simp_all
  | cons x rest =>
    rw [hhead, htail, hcount]
    simp [List.getLast?_cons]
    omega

/-- **The queue is a bounded drop-oldest FIFO.**  In every state of every run
    from `queue_init` the pointers describe one list of `count` nodes that
    ends at `tail`, and the tasks popped, followed by the tasks linked, are
    the pushed ones without those that a push found at the head of the full
    queue.  No later operation uses memory that is not allocated, and no push
    of a task is refused. -/
theorem queue_run {s : QueueSystem} {ops : List QueueOp}
    (hrun : Run QueueStep queueSystemInit ops s) :
    (s.queue.head = none ↔ s.queue.tail = none) ∧ (s.queue.tail = none ↔ s.queue.count = 0) ∧
    s.queue.count ≤ dbQueueMaxSize ∧
    (∃ as, Chain s.queue.heap s.queue.head as ∧ as.Nodup ∧ s.queue.count = as.length ∧
      s.queue.tail = as.getLast? ∧
      s.popped ++ linkedTasks s as = survivors s.pushed s.evicted) ∧
    (queuePop s.queue).isSome ∧ ∀ a ∈ s.held, ∃ q, queuePush s.queue (some a) = some (0, q) := by
  obtain ⟨as, hinv⟩ := systemInv_run hrun
  obtain ⟨hheadtail, htailcount⟩ := hinv.queue.null_iff
  have hcount := hinv.queue.count_eq
  have hle := hinv.queue.length_le
  refine ⟨hheadtail, htailcount, by omega, ?_, ?_, ?_⟩
  · exact ⟨as, hinv.queue.chain, hinv.queue.nodup, hcount, hinv.queue.tail_eq,
      hinv.accounting.conserved⟩
  · cases as with
    | nil => simp [queuePop_nil hinv.queue]
    | cons x rest =>
      obtain ⟨q, hpop, -⟩ := queuePop_spec hinv.queue
      simp [hpop]
  · intro a ha
    obtain ⟨node, hnode⟩ := Option.isSome_iff_exists.mp (hinv.held_allocated a ha)
    obtain ⟨q, hpush, -⟩ := queuePush_spec hinv.queue (hinv.held_unlinked a ha) hnode
    exact ⟨q, hpush⟩

/-! ## Section 5: A queue that overflows -/

/-- A producer packs a task into fresh memory and pushes it. -/
theorem push_fresh {s : QueueSystem} {as : List Addr} (hinv : SystemInv s as) {a : Addr}
    (hfree : s.queue.heap a = none) (task : DbTask) :
    ∃ t, Run QueueStep s [.alloc a task, .push a] t ∧ SystemInv t (dropFull as ++ [a]) ∧
      t.history (dropFull as ++ [a]) = BoundedFifo.push dbQueueMaxSize (s.history as) task ∧
      ∀ b, b ≠ a → s.queue.heap b = none → t.queue.heap b = none := by
  have halloc := QueueStep.alloc s a task hfree
  obtain ⟨hinv₁, hhist₁⟩ := systemInv_alloc hinv halloc
  have hheld := Finset.mem_insert_self a s.held
  have hnot := hinv₁.held_unlinked a hheld
  obtain ⟨q, hpush, -, -, hheap⟩ := queuePush_spec hinv₁.queue hnot (store_self s.queue.heap a _)
  have hstep := QueueStep.push _ a ⟨task, none⟩ q hheld (store_self s.queue.heap a _) hpush
  obtain ⟨hinv₂, hhist₂⟩ := systemInv_push hinv₁ hstep
  refine ⟨_, Run.append (Run.single halloc) (Run.single hstep), hinv₂, ?_, ?_⟩
  · rw [hhist₂, hhist₁]
    simp [historyStep]
  · intro b hba hb
    have hunlinked : b ∉ as := by
      intro hlinked
      have hsome := hinv.queue.chain.allocated b hlinked
      rw [hb] at hsome
      cases hsome
    have hval : (q.heap b).map Node.val = (store s.queue.heap a ⟨task, none⟩ b).map Node.val :=
      hheap b (Or.inr hunlinked)
    rw [store_ne _ _ hba, hb] at hval
    exact Option.map_eq_none_iff.mp hval

/-- Tasks that differ. -/
def numbered (k : Nat) : DbTask := ⟨.agentStatus, [k.toUInt8]⟩

/-- The first pushes fill the queue. -/
theorem fill_queue {n : Nat} (hn : n ≤ dbQueueMaxSize) :
    ∃ ops s, Run QueueStep queueSystemInit ops s ∧ SystemInv s (List.range n) ∧
      s.pushed = (List.range n).map numbered ∧ s.popped = [] ∧ s.evicted = [] ∧
      ∀ b, n ≤ b → s.queue.heap b = none := by
  induction n with
  | zero => exact ⟨[], _, Run.nil _, systemInv_init, rfl, rfl, rfl, fun _ _ => rfl⟩
  | succ n ih =>
    obtain ⟨ops, s, hrun, hinv, hpushed, hpopped, hevicted, hfree⟩ := ih (by omega)
    obtain ⟨t, hmore, hinv', hhist, hfree'⟩ := push_fresh hinv (hfree n le_rfl) (numbered n)
    have hroom : ¬ dbQueueMaxSize ≤ (List.range n).length := by rw [List.length_range]; omega
    have hdrop : dropFull (List.range n) = List.range n := if_neg hroom
    have hitems : ¬ dbQueueMaxSize ≤ (s.history (List.range n)).items.length := by
      rwa [hinv.history_items_length]
    rw [BoundedFifo.push, if_neg hitems] at hhist
    rw [hdrop, ← List.range_succ] at hinv' hhist
    refine ⟨_, t, Run.append hrun hmore, hinv', ?_, ?_, ?_, ?_⟩
    · have hsame : t.pushed = s.pushed ++ [numbered n] := congrArg History.pushed hhist
      rw [hsame, hpushed, List.range_succ, List.map_append]
      rfl
    · exact (congrArg History.popped hhist).trans hpopped
    · exact (congrArg History.evicted hhist).trans hevicted
    · intro b hb
      exact hfree' b (Nat.ne_of_gt hb) (hfree b (Nat.le_of_succ_le hb))

theorem numbered_range (n : Nat) :
    ∃ rest, (List.range (n + 2)).map numbered = numbered 0 :: numbered 1 :: rest := by
  rw [List.range_succ_eq_map, List.range_succ_eq_map]
  exact ⟨_, rfl⟩

/-- One task too many: the first one is evicted. -/
theorem overfill_queue :
    ∃ ops t as, Run QueueStep queueSystemInit ops t ∧ SystemInv t as ∧ as ≠ [] ∧
      t.pushed = (List.range (dbQueueMaxSize + 1)).map numbered ∧ t.popped = [] ∧
      t.evicted = [0] := by
  obtain ⟨ops, s, hrun, hinv, hpushed, hpopped, hevicted, hfree⟩ := fill_queue le_rfl
  obtain ⟨t, hmore, hinv', hhist, -⟩ :=
    push_fresh hinv (hfree dbQueueMaxSize le_rfl) (numbered dbQueueMaxSize)
  -- the first task is at the head of the full queue
  obtain ⟨first, hfirst⟩ := numbered_range 9998
  have hitems : ∃ items, (s.history (List.range dbQueueMaxSize)).items =
      (numbered 0, 0) :: items := by
    have hconserved : s.popped ++ (s.history (List.range dbQueueMaxSize)).items =
        survivors s.pushed s.evicted := hinv.accounting.conserved
    rw [hpopped, List.nil_append, hevicted, hpushed,
      show List.range dbQueueMaxSize = List.range (9998 + 2) from rfl, hfirst] at hconserved
    rw [show List.range dbQueueMaxSize = List.range (9998 + 2) from rfl, hconserved]
    simp [survivors, List.zipIdx_cons]
  obtain ⟨items, hitems⟩ := hitems
  have hfull : dbQueueMaxSize ≤ (s.history (List.range dbQueueMaxSize)).items.length := by
    rw [hinv.history_items_length, List.length_range]
  rw [BoundedFifo.push, if_pos hfull, evictOldest_cons hitems] at hhist
  refine ⟨_, t, _, Run.append hrun hmore, hinv', ?_, ?_, ?_, ?_⟩
  · exact List.append_ne_nil_of_right_ne_nil _ (List.cons_ne_nil _ _)
  · have hsame : t.pushed = s.pushed ++ [numbered dbQueueMaxSize] := congrArg History.pushed hhist
    rw [hsame, hpushed, List.range_succ, List.map_append]
    rfl
  · exact (congrArg History.popped hhist).trans hpopped
  · have hsame : t.evicted = s.evicted ++ [0] := congrArg History.evicted hhist
    rw [hsame, hevicted]
    rfl

/-- After one more push a pop gives the second task. -/
theorem queue_run_overflow :
    ∃ ops s, Run QueueStep queueSystemInit ops s ∧
      s.pushed = (List.range (dbQueueMaxSize + 1)).map numbered ∧ s.evicted = [0] ∧
      s.popped = [(numbered 1, 1)] ∧
      ∃ as, Chain s.queue.heap s.queue.head as ∧ s.queue.count = as.length ∧
        s.popped ++ linkedTasks s as = survivors s.pushed s.evicted := by
  obtain ⟨ops, t, as, hrun, hinv, hlinked, hpushed, hpopped, hevicted⟩ := overfill_queue
  obtain ⟨a, as, rfl⟩ := List.exists_cons_of_ne_nil hlinked
  obtain ⟨-, node, hnode⟩ := hinv.queue.head_node
  obtain ⟨q, hpop, -⟩ := queuePop_spec hinv.queue
  have hwhole := Run.snoc hrun (QueueStep.popTask t a node q hnode hpop)
  obtain ⟨-, -, -, ⟨as', hchain, -, hcount, -, hconserved⟩, -⟩ := queue_run hwhole
  refine ⟨_, _, hwhole, hpushed, hevicted, ?_, as', hchain, hcount, hconserved⟩
  -- what was popped is the first of the survivors
  obtain ⟨rest, hrest⟩ := numbered_range 9999
  have hhead : t.popped ++ [(node.val, t.stamp a)] ++ _ = survivors t.pushed t.evicted := hconserved
  rw [hpopped, hpushed, show dbQueueMaxSize + 1 = 9999 + 2 from rfl, hrest, hevicted] at hhead
  have hsecond : ∃ more, survivors (numbered 0 :: numbered 1 :: rest) [0] =
      (numbered 1, 1) :: more := by
    simp [survivors, List.zipIdx_cons]
  obtain ⟨more, hmore⟩ := hsecond
  rw [hmore] at hhead
  show t.popped ++ [(node.val, t.stamp a)] = _
  rw [hpopped]
  exact congrArg ([·]) (List.cons.inj hhead).1

end DbSync
