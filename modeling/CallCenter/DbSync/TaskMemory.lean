import CallCenter.DbSync.Queue

/-! # The Memory of the Tasks

    Tasks are allocated by the producers, and freed by the worker, by a push
    that finds the queue full, or by `queue_destroy`.  `queue_run` says that
    nobody touches a task that is freed; here is the other half: an allocated
    task is in a thread's hand or linked, at every moment
    (`noLeak_run`), so that `queue_destroy` frees all that is left. -/

namespace DbSync

open LinkedHeap Transition

/-- `queue_destroy`, with more steps for its loop than it needs. -/
def queueDestroy (q : TaskQueue) : Option TaskQueue :=
  (freeAll q.count.toNat q.heap q.head).map fun heap =>
    { q with head := none, tail := none, count := 0, heap := heap }

/-! ## Section 1: What a push frees -/

variable {q q' : TaskQueue} {as : List Addr} {task b : Addr} {node : Node DbTask}

theorem allocated_dropOldest (hinv : QueueInv q as) (hdrop : dropOldest q = some q')
    (hb : (q'.heap b).isSome) : (q.heap b).isSome ∧ (b ∈ dropFull as ∨ b ∉ as) := by
  have hcount := hinv.count_eq
  by_cases hfull : dbQueueMaxSize ≤ as.length
  · cases as with
    | nil => exact absurd hfull (by decide)
    | cons a rest =>
      obtain ⟨hhead, node, hnode⟩ := hinv.head_node
      have hle : (dbQueueMaxSize : Int) ≤ q.count := by omega
      have hq' : q' = { unlinkHead q node with heap := LinkedHeap.free q.heap a } := by
        simp only [dropOldest, if_pos hle, hhead, hnode, Option.bind_eq_bind, Option.bind_some,
          Option.some.injEq] at hdrop
        exact hdrop.symm
      rw [hq'] at hb
      -- the node at the head is gone
      by_cases hba : b = a
      · subst hba
        simp [LinkedHeap.free] at hb
      · have hsome : (q.heap b).isSome := by
          rw [← free_ne q.heap hba]
          exact hb
        refine ⟨hsome, ?_⟩
        rw [dropFull, if_pos hfull, List.tail_cons, List.mem_cons]
        by_cases hrest : b ∈ rest
        · exact Or.inl hrest
        · exact Or.inr (not_or.mpr ⟨hba, hrest⟩)
  · have hlt : ¬ (dbQueueMaxSize : Int) ≤ q.count := by omega
    obtain rfl : q = q' := by simpa [dropOldest, hlt] using hdrop
    rw [dropFull, if_neg hfull]
    exact ⟨hb, Classical.em _⟩

theorem allocated_queuePush (hinv : QueueInv q as) (hnot : task ∉ as)
    (hnode : q.heap task = some node) (hpush : queuePush q (some task) = some (0, q'))
    (hb : (q'.heap b).isSome) : (q.heap b).isSome ∧ (b ∈ dropFull as ∨ b ∉ as) := by
  obtain ⟨q₁, hdrop, hinv₁, hlt, -, hheap₁⟩ := dropOldest_spec hinv
  have hnode₁ : q₁.heap task = some node := (hheap₁ task (Or.inr hnot)).trans hnode
  have hnot₁ : task ∉ dropFull as := fun h => hnot (dropFull_subset h)
  obtain ⟨q₂, hlink, -, -, hheap₂⟩ := linkLast_spec hinv₁ hlt hnot₁ hnode₁
  obtain rfl : q₂ = q' := by simpa [queuePush, hdrop, hlink] using hpush
  refine allocated_dropOldest hinv hdrop ?_
  -- linking changes `next` pointers only
  rw [← Option.isSome_map, hheap₂ b, Option.isSome_map] at hb
  exact hb

/-! ## Section 2: Runs -/

variable {s t : QueueSystem} {op : QueueOp}

/-- Every allocated task is in a thread's hand or linked. -/
def NoLeak (s : QueueSystem) (as : List Addr) : Prop :=
  ∀ a, (s.queue.heap a).isSome → a ∈ s.held ∨ a ∈ as

/-- **Step lemma.** -/
theorem noLeak_step (hinv : SystemInv s as) (hleak : NoLeak s as) (hstep : QueueStep s op t) :
    ∃ as', SystemInv t as' ∧ NoLeak t as' := by
  obtain ⟨as', hinv', -⟩ := systemInv_step hinv hstep
  refine ⟨as', hinv', fun b hb => ?_⟩
  cases hstep with
  | alloc a task hfree =>
    have hnot : a ∉ as := fun ha => by simpa [hfree] using hinv.queue.chain.allocated a ha
    obtain rfl := hinv'.queue.chain.unique (hinv.queue.chain.store_ne _ hnot)
    by_cases hba : b = a
    · exact Or.inl (Finset.mem_insert.mpr (Or.inl hba))
    · dsimp only at hb ⊢
      rw [store_ne _ _ hba] at hb
      exact (hleak b hb).imp (Finset.mem_insert_of_mem ·) id
  | push a node q hheld hnode hpush =>
    have hnot := hinv.held_unlinked a hheld
    obtain ⟨q₁, hpush₁, hq₁, -⟩ := queuePush_spec hinv.queue hnot hnode
    obtain rfl : q₁ = q := by simpa using hpush₁.symm.trans hpush
    obtain rfl := hinv'.queue.chain.unique hq₁.chain
    obtain ⟨hsome, hkept⟩ := allocated_queuePush hinv.queue hnot hnode hpush hb
    by_cases hba : b = a
    · exact Or.inr (List.mem_append_right _ (List.mem_singleton.mpr hba))
    · rcases hleak b hsome with hheld | hlinked
      · exact Or.inl (Finset.mem_erase.mpr ⟨hba, hheld⟩)
      · exact Or.inr (List.mem_append_left _ (hkept.resolve_right (not_not_intro hlinked)))
  | popTask a node q hnode hpop =>
    cases as with
    | nil =>
      rw [queuePop_nil hinv.queue] at hpop
      split at hpop <;> simp at hpop
    | cons x rest =>
      obtain ⟨q₁, hpop₁, hq₁, hheap, -⟩ := queuePop_spec hinv.queue
      obtain ⟨rfl, rfl⟩ : x = a ∧ q₁ = q := by simpa using hpop₁.symm.trans hpop
      obtain rfl := hinv'.queue.chain.unique hq₁.chain
      dsimp only at hb
      rw [hheap] at hb
      -- the node popped goes into the worker's hand
      rcases hleak b hb with hheld | hlinked
      · exact Or.inl (Finset.mem_insert_of_mem hheld)
      · exact (List.mem_cons.mp hlinked).imp (fun h => Finset.mem_insert.mpr (Or.inl h)) id
  | popNull q hpop =>
    cases as with
    | nil =>
      rw [queuePop_nil hinv.queue] at hpop
      obtain rfl : s.queue = q := (Prod.mk.inj (Option.some.inj hpop)).2
      obtain rfl := hinv'.queue.chain.unique hinv.queue.chain
      exact hleak b hb
    | cons x rest =>
      obtain ⟨q₁, hpop₁, -⟩ := queuePop_spec hinv.queue
      simpa using hpop₁.symm.trans hpop
  | free a hheld =>
    have hnot := hinv.held_unlinked a hheld
    obtain rfl := hinv'.queue.chain.unique (hinv.queue.chain.free_ne hnot)
    have hba : b ≠ a := by
      rintro rfl
      simp [LinkedHeap.free] at hb
    dsimp only at hb ⊢
    rw [free_ne _ hba] at hb
    exact (hleak b hb).imp (fun h => Finset.mem_erase.mpr ⟨hba, h⟩) id
  | signalShutdown =>
    obtain rfl := hinv'.queue.chain.unique hinv.queue.chain
    exact hleak b hb

theorem noLeak_run {ops : List QueueOp} (hrun : Run QueueStep queueSystemInit ops s) :
    ∃ as, SystemInv s as ∧ NoLeak s as := by
  induction hrun with
  | nil => exact ⟨[], systemInv_init, fun a ha => by cases ha⟩
  | snoc _ hstep ih =>
    obtain ⟨as, hinv, hleak⟩ := ih
    exact noLeak_step hinv hleak hstep

/-- **Destruction**: in every reachable state `queue_destroy` ends, uses no
    task that is freed, and leaves just the tasks that are in a thread's hand;
    none, once the worker is joined. -/
theorem queueDestroy_frees {ops : List QueueOp} (hrun : Run QueueStep queueSystemInit ops s) :
    ∃ q, queueDestroy s.queue = some q ∧ ∀ a, (q.heap a).isSome ↔ a ∈ s.held := by
  obtain ⟨as, hinv, hleak⟩ := noLeak_run hrun
  have hfuel : as.length ≤ s.queue.count.toNat := by
    rw [hinv.queue.count_eq]
    simp
  obtain ⟨heap, hfree, hheap⟩ := freeAll_chain hinv.queue.chain hinv.queue.nodup hfuel
  refine ⟨_, by rw [queueDestroy, hfree]; rfl, fun a => ?_⟩
  dsimp only
  rw [hheap]
  constructor
  · intro ha
    split at ha
    · cases ha
    · next hnot => exact (hleak a ha).resolve_right hnot
  · intro ha
    rw [if_neg (hinv.held_unlinked a ha)]
    exact hinv.held_allocated a ha

/-- A task that is still in the queue, and one in a producer's hand. -/
theorem queueDestroy_frees_one :
    ∃ s, Run QueueStep queueSystemInit
        [.alloc 0 ⟨.shutdown, []⟩, .alloc 1 ⟨.shutdown, []⟩, .push 0] s ∧
      ∃ q, queueDestroy s.queue = some q ∧ (q.heap 0).isSome = false ∧ (q.heap 1).isSome := by
  have hfirst := Run.single (QueueStep.alloc queueSystemInit 0 ⟨.shutdown, []⟩ rfl)
  have hsecond := Run.snoc hfirst (QueueStep.alloc _ 1 ⟨.shutdown, []⟩ rfl)
  have hrun := Run.snoc hsecond (QueueStep.push _ 0 ⟨⟨.shutdown, []⟩, none⟩ _
    (Finset.mem_insert_of_mem (Finset.mem_insert_self _ _)) rfl rfl)
  obtain ⟨q, hdestroy, hleft⟩ := queueDestroy_frees hrun
  refine ⟨_, hrun, q, hdestroy, ?_, (hleft 1).mpr (by decide)⟩
  rw [Bool.eq_false_iff, Ne, hleft 0]
  decide

end DbSync
