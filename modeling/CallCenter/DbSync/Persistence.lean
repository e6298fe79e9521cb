import CallCenter.DbMysql.Statements
import CallCenter.DbSync.Worker
import CallCenter.Framework.Transition

/-! # From the Calls to MySQL

    The way of a change to MySQL, end to end: `db_sync_call_start` and its
    siblings pack their arguments into a task, the queue keeps the tasks in
    order, the worker unpacks one after the other, and `db_mysql.c` prints
    the statement that the server reads.

    `requests_persisted` puts the parts together.  Whatever the interleaving,
    the worker sends one statement for each request it gets to while it has a
    connection, in order and as it was meant; a request that it never gets to
    was thrown away by the full queue. -/

namespace DbSync

open CFormat BoundedFifo DbMysql DbMysql.Statements SqlText Transition

/-! ## Section 1: Requests, and what they mean to MySQL -/

/-- What the worker's buffers contain where `sscanf` has written nothing. -/
structure StackText where
  direction : CStr
  dept : CStr
  startTime : CStr
  resultDesc : CStr
  deriving DecidableEq, Repr

/-- The call into `db_mysql.c`, with the contents of the buffers. -/
def MysqlCall.sqlCall (stack : StackText) : MysqlCall → SqlCall
  | .updateAgentStatus extension status calls => .updateAgentStatus extension status calls
  | .insertCallRecord callId caller callee direction department startTime resultCode resultDesc =>
    .insertCallRecord callId caller callee (direction.getD stack.direction)
      (some (department.getD stack.dept)) (startTime.getD stack.startTime) resultCode
      (some resultDesc)
  | .updateCallEnd callId endTime duration sipStatus resultCode resultDesc =>
    .updateCallEnd callId endTime duration sipStatus resultCode
      (some (resultDesc.getD stack.resultDesc))

/-- What the caller of `db_sync` means, if the worker gets to it at `endTime`. -/
def EnqueueCall.meant (endTime : CStr) : EnqueueCall → SqlCall
  | .agentStatus extension status calls => .updateAgentStatus extension status calls
  | .agentOnline extension isOnline =>
    .updateAgentStatus extension (if isOnline ≠ 0 then cstr "idle" else cstr "offline") 0
  | .callStart callId caller callee direction department startTime =>
    .insertCallRecord callId caller callee direction (some (textOrEmpty department)) startTime 0
      (some [])
  | .callEnd callId duration sipStatus resultCode resultDesc =>
    .updateCallEnd callId endTime duration sipStatus resultCode (some (textOrEmpty resultDesc))

/-- The texts of a request. -/
def EnqueueCall.texts : EnqueueCall → List CStr
  | .agentStatus extension status _ => [extension, status]
  | .agentOnline extension _ => [extension]
  | .callStart callId caller callee direction department startTime =>
    [callId, caller, callee, direction, textOrEmpty department, startTime]
  | .callEnd callId _ _ _ resultDesc => [callId, textOrEmpty resultDesc]

/-- A request that the way to MySQL can carry: its fields fit the buffers, the
    optional ones are given, and its texts read as themselves between quotes. -/
structure EnqueueCall.Carried (call : EnqueueCall) : Prop where
  wellFormed : call.WellFormed
  given : call.OptionalGiven
  plain : ∀ a ∈ call.texts, plain a = true

/-- The text of the clock, `strftime` into 32 bytes. -/
structure ClockText (text : CStr) : Prop where
  length_le : text.length ≤ 31
  plain : plain text = true

/-- The worker calls the operation that is meant. -/
theorem taskOperation_pack {call : EnqueueCall} (h : call.Carried) (endTime : CStr)
    (stack : StackText) :
    (taskOperation endTime call.pack).map (MysqlCall.sqlCall stack) =
      some (call.meant endTime) := by
  cases call with
  | agentStatus extension status calls =>
    obtain ⟨hext, hstatus⟩ := h.wellFormed
    simp only [taskOperation, EnqueueCall.pack, decode_packAgentStatus hext hstatus]
    rfl
  | agentOnline extension isOnline =>
    simp only [taskOperation, EnqueueCall.pack, decode_packAgentOnline h.wellFormed]
    rfl
  | callStart callId caller callee direction department startTime =>
    obtain ⟨hid, hcaller, hcallee, hdir, hdept, htime⟩ := h.wellFormed
    have hgiven : textOrEmpty department ≠ [] := h.given
    simp only [taskOperation, EnqueueCall.pack,
      decode_packCallStart hid hcaller hcallee hdir hdept htime, if_neg hgiven]
    rfl
  | callEnd callId duration sipStatus resultCode resultDesc =>
    obtain ⟨hid, hdesc⟩ := h.wellFormed
    have hgiven : textOrEmpty resultDesc ≠ [] := h.given
    simp only [taskOperation, EnqueueCall.pack, decode_packCallEnd hid hdesc, if_neg hgiven]
    rfl

theorem plain_meant {call : EnqueueCall} (h : call.Carried) {endTime : CStr}
    (htime : ClockText endTime) : ∀ a ∈ (call.meant endTime).arguments, plain a = true := by
  have hplain := h.plain
  have hend := htime.plain
  have hnil : SqlText.plain [] = true := rfl
  cases call with
  | agentStatus extension status calls => exact hplain
  | agentOnline extension isOnline =>
    have hidle : SqlText.plain (cstr "idle") = true := by decide
    have hoffline : SqlText.plain (cstr "offline") = true := by decide
    simp only [EnqueueCall.texts, List.mem_singleton, forall_eq] at hplain
    simp only [EnqueueCall.meant, SqlCall.arguments, List.mem_cons, List.not_mem_nil, or_false,
      forall_eq_or_imp, forall_eq]
    refine ⟨hplain, ?_⟩
    split
    · exact hidle
    · exact hoffline
  | callStart callId caller callee direction department startTime =>
    simp only [EnqueueCall.texts, List.mem_cons, List.not_mem_nil, or_false, forall_eq_or_imp,
      forall_eq] at hplain
    simp [EnqueueCall.meant, SqlCall.arguments, hplain, hnil]
  | callEnd callId duration sipStatus resultCode resultDesc =>
    simp only [EnqueueCall.texts, List.mem_cons, List.not_mem_nil, or_false, forall_eq_or_imp,
      forall_eq] at hplain
    simp [EnqueueCall.meant, SqlCall.arguments, hplain, hend]

/-- Whatever fits a task fits the buffer of a statement. -/
theorem textLength_meant {call : EnqueueCall} (h : call.WellFormed) {endTime : CStr}
    (htime : endTime.length ≤ 31) : (call.meant endTime).textLength < dbMaxSqlLen := by
  cases call with
  | agentStatus extension status calls =>
    have hext := h.1.2.length_le
    have hstatus := h.2.2.length_le
    have hcalls := length_intText_le calls
    simp only [EnqueueCall.meant, SqlCall.textLength, SqlCall.formatBytes, SqlCall.arguments,
      SqlCall.integers, List.map_cons, List.map_nil, List.sum_cons, List.sum_nil, dbMaxSqlLen]
    omega
  | agentOnline extension isOnline =>
    have hext := h.2.length_le
    have hzero := length_intText_le 0
    have hstatus : (if isOnline ≠ 0 then cstr "idle" else cstr "offline").length ≤ 7 := by
      split <;> decide
    simp only [EnqueueCall.meant, SqlCall.textLength, SqlCall.formatBytes, SqlCall.arguments,
      SqlCall.integers, List.map_cons, List.map_nil, List.sum_cons, List.sum_nil, dbMaxSqlLen]
    omega
  | callStart callId caller callee direction department startTime =>
    obtain ⟨hid, hcaller, hcallee, hdir, hdept, hstart⟩ := h
    have hid := hid.2.length_le
    have hcaller := hcaller.2.length_le
    have hcallee := hcallee.2.length_le
    have hdir := hdir.2.length_le
    have hdept := hdept.length_le
    have hstart := hstart.2.length_le
    have hzero := length_intText_le 0
    simp only [EnqueueCall.meant, SqlCall.textLength, SqlCall.formatBytes, SqlCall.arguments,
      SqlCall.integers, List.map_cons, List.map_nil, List.sum_cons, List.sum_nil, dbMaxSqlLen,
      Option.getD_some, List.length_nil]
    omega
  | callEnd callId duration sipStatus resultCode resultDesc =>
    have hid := h.1.2.length_le
    have hdesc := h.2.length_le
    have hduration := length_intText_le duration
    have hstatus := length_intText_le sipStatus
    have hcode := length_intText_le resultCode
    simp only [EnqueueCall.meant, SqlCall.textLength, SqlCall.formatBytes, SqlCall.arguments,
      SqlCall.integers, List.map_cons, List.map_nil, List.sum_cons, List.sum_nil, dbMaxSqlLen,
      Option.getD_some]
    omega

/-- A connection gets the text once. -/
theorem execute_texts (mysql : MysqlAnswers) (sql : CStr) :
    (dbMysqlExecute mysql sql).2 = mysql.borrow.toList.map fun _ => sql := by
  unfold dbMysqlExecute
  cases mysql.borrow with
  | none => rfl
  | some conn =>
    dsimp only
    split <;> rfl

/-- The text of a call that fits is read as it is meant. -/
theorem read_of_fits {call : SqlCall} (hplain : ∀ a ∈ call.arguments, plain a = true)
    (hfits : call.textLength < dbMaxSqlLen) :
    lex (snprintf dbMaxSqlLen (render call.statement)) = some (tokens call.statement) := by
  refine (lex_take_render_iff (wellFormed_statement call) _).mpr ⟨?_, fun a ha => ?_⟩
  · rw [length_render_statement]
    simp only [dbMaxSqlLen] at hfits ⊢
    omega
  · exact hplain a ((literals_statement_perm call).mem_iff.mp ha)

/-! ## Section 2: The pipeline -/

/-- What has become of a task: when the worker got to it, the connection it was
    lent (none while `db_enabled` is off), and the texts that it gave to
    `mysql_real_query`. -/
structure Written where
  endTime : CStr
  conn : Option Handle
  texts : List CStr
  deriving DecidableEq, Repr

structure Pipeline where
  worker : WorkerState
  written : List Written
  /-- How often `queue_push` threw a task away. -/
  dropped : Nat
  deriving DecidableEq, Repr

inductive PipelineLabel where
  /-- `db_sync_call_start` or a sibling, with memory for the task. -/
  | request (call : EnqueueCall)
  /-- `queue_pop` -/
  | take
  /-- The worker works on its task. -/
  | execute (mysql : MysqlAnswers) (endTime : CStr) (stack : StackText)
  /-- The same while `db_enabled` is off. -/
  | discard (endTime : CStr)

/-- The empty queue and the worker at its start. -/
def pipelineInit : Pipeline where
  worker := ⟨⟨[], false⟩, .popping⟩
  written := []
  dropped := 0

def pipelineStep (s : Pipeline) : PipelineLabel → Option Pipeline
  | .request call => some { s with
      worker := s.worker.push call.pack
      dropped := s.dropped + if dbQueueMaxSize ≤ s.worker.queue.tasks.length then 1 else 0 }
  | .take => s.worker.pop.map fun worker => { s with worker := worker }
  | .execute mysql endTime stack =>
    match s.worker.pc with
    | .holding task => some { s with
        worker := s.worker.finish
        written := s.written ++ [⟨endTime, mysql.borrow, (taskOperation endTime task).elim []
          fun call => ((call.sqlCall stack).run mysql).2⟩] }
    | _ => none
  | .discard endTime =>
    match s.worker.pc with
    | .holding _ => some { s with
        worker := s.worker.finish, written := s.written ++ [⟨endTime, none, []⟩] }
    | _ => none

/-- The requests of a run. -/
def requested (ls : List PipelineLabel) : List EnqueueCall :=
  ls.filterMap fun
    | .request call => some call
    | _ => none

/-- Requests that can be carried, and clocks that tell the time. -/
def PipelineLabel.Ordinary : PipelineLabel → Prop
  | .request call => call.Carried
  | .take => True
  | .execute _ endTime _ => ClockText endTime
  | .discard _ => True

/-- When the worker got to a task, and which connection it was lent. -/
def loans (ls : List PipelineLabel) : List (CStr × Option Handle) :=
  ls.filterMap fun
    | .execute mysql endTime _ => some (endTime, mysql.borrow)
    | .discard endTime => some (endTime, none)
    | _ => none

/-- The statement that was meant is written, once, if there was a connection;
    else nothing is. -/
def WrittenAsMeant (call : EnqueueCall) (w : Written) : Prop :=
  match w.conn with
  | none => w.texts = []
  | some _ => ∃ sql, w.texts = [sql] ∧ lex sql = some (tokens (call.meant w.endTime).statement)

/-- The requests `finished` have been worked off and the requests `waiting` are
    in the worker's hand or in the queue. -/
structure PipelineInv (ls : List PipelineLabel) (finished waiting : List EnqueueCall)
    (s : Pipeline) : Prop where
  carried : ∀ call ∈ waiting, call.Carried
  pending : s.worker.pending = waiting.map EnqueueCall.pack
  written : List.Forall₂ WrittenAsMeant finished s.written
  lent : s.written.map (fun w => (w.endTime, w.conn)) = loans ls
  order : (finished ++ waiting).Sublist (requested ls)
  count : (requested ls).length = finished.length + waiting.length + s.dropped

/-! ## Section 3: Steps and runs -/

variable {ls : List PipelineLabel} {finished waiting : List EnqueueCall} {s t : Pipeline}

theorem requested_append (ls : List PipelineLabel) (l : PipelineLabel) :
    requested (ls ++ [l]) = requested ls ++ requested [l] :=
  List.filterMap_append

theorem loans_append (ls : List PipelineLabel) (l : PipelineLabel) :
    loans (ls ++ [l]) = loans ls ++ loans [l] :=
  List.filterMap_append

theorem pipelineInv_init : PipelineInv [] [] [] pipelineInit where
  carried := nofun
  pending := rfl
  written := List.Forall₂.nil
  lent := rfl
  order := List.Sublist.refl _
  count := rfl

/-- A step that is no request and leaves the tasks alone. -/
theorem PipelineInv.quiet (h : PipelineInv ls finished waiting s) {l : PipelineLabel}
    (hl : requested [l] = []) (hlent : loans [l] = [])
    (hpending : t.worker.pending = s.worker.pending) (hwritten : t.written = s.written)
    (hdropped : t.dropped = s.dropped) :
    PipelineInv (ls ++ [l]) finished waiting t where
  carried := h.carried
  pending := hpending.trans h.pending
  written := hwritten ▸ h.written
  lent := by
    rw [loans_append, hlent, List.append_nil, hwritten]
    exact h.lent
  order := by
    rw [requested_append, hl, List.append_nil]
    exact h.order
  count := by
    rw [requested_append, hl, List.append_nil, hdropped]
    exact h.count

theorem pipelineInv_request (h : PipelineInv ls finished waiting s) {call : EnqueueCall}
    (hcall : call.Carried) (ht : pipelineStep s (.request call) = some t) :
    ∃ waiting', PipelineInv (ls ++ [.request call]) finished waiting' t := by
  cases ht
  obtain ⟨inHand, queued, rfl, hinHand, hqueued⟩ :=
    List.map_eq_append_iff.mp h.pending.symm
  have hlength : s.worker.queue.tasks.length = queued.length := by
    rw [← hqueued, List.length_map]
  have hnew : requested [.request call] = [call] := rfl
  have hlent : s.written.map (fun w => (w.endTime, w.conn)) = loans (ls ++ [.request call]) :=
    h.lent.trans (by rw [loans_append, show loans [.request call] = [] from rfl, List.append_nil])
  have hpush : (s.worker.push call.pack).pending =
      s.worker.pc.inHand ++ enqueue dbQueueMaxSize s.worker.queue.tasks call.pack := rfl
  have hcount := h.count
  by_cases hfull : dbQueueMaxSize ≤ s.worker.queue.tasks.length
  -- the oldest task in the queue goes, the one in hand stays
  · refine ⟨inHand ++ (queued.tail ++ [call]), ?_, ?_, h.written, hlent, ?_, ?_⟩
    · intro c hc
      simp only [List.mem_append, List.mem_singleton] at hc
      rcases hc with hc | hc | rfl
      · exact h.carried c (List.mem_append_left _ hc)
      · exact h.carried c (List.mem_append_right _ (List.mem_of_mem_tail hc))
      · exact hcall
    · rw [hpush, enqueue_of_le hfull, ← hinHand, ← hqueued]
      simp
    · rw [requested_append, hnew]
      have hshort : (finished ++ (inHand ++ (queued.tail ++ [call]))).Sublist
          ((finished ++ (inHand ++ queued)) ++ [call]) := by
        simp only [List.append_assoc, List.append_sublist_append_left]
        exact (List.tail_sublist queued).append (List.Sublist.refl _)
      exact hshort.trans (h.order.append (List.Sublist.refl _))
    · have hpos := pos_dbQueueMaxSize
      rw [requested_append, hnew]
      simp only [List.length_append, List.length_singleton, List.length_tail, if_pos hfull]
        at hcount ⊢
      omega
  · refine ⟨inHand ++ (queued ++ [call]), ?_, ?_, h.written, hlent, ?_, ?_⟩
    · intro c hc
      rw [← List.append_assoc, List.mem_append, List.mem_singleton] at hc
      rcases hc with hc | rfl
      · exact h.carried c hc
      · exact hcall
    · rw [hpush, enqueue_of_lt (by omega), ← hinHand, ← hqueued]
      simp
    · rw [requested_append, hnew]
      have hsame : finished ++ (inHand ++ (queued ++ [call])) =
          (finished ++ (inHand ++ queued)) ++ [call] := by simp
      rw [hsame]
      exact h.order.append (List.Sublist.refl _)
    · rw [requested_append, hnew]
      simp only [List.length_append, List.length_singleton, if_neg hfull] at hcount ⊢
      omega

/-- The task in hand is finished with these texts. -/
theorem PipelineInv.finish (h : PipelineInv ls finished waiting s) {l : PipelineLabel}
    (hl : requested [l] = []) {task : DbTask} (hpc : s.worker.pc = .holding task) {w : Written}
    (hlent : loans [l] = [(w.endTime, w.conn)])
    (hw : ∀ call : EnqueueCall, call.Carried → call.pack = task → WrittenAsMeant call w) :
    ∃ finished' waiting', PipelineInv (ls ++ [l]) finished' waiting'
      { s with worker := s.worker.finish, written := s.written ++ [w] } := by
  have hpending := h.pending
  unfold WorkerState.pending WorkerPc.inHand at hpending
  rw [hpc] at hpending
  obtain ⟨call, rest, rfl, hcall, hrest⟩ := List.map_eq_cons_iff.mp hpending.symm
  have hcarried := h.carried call List.mem_cons_self
  have hcount := h.count
  refine ⟨finished ++ [call], rest, fun c hc => h.carried c (List.mem_cons_of_mem _ hc), ?_, ?_,
    ?_, ?_, ?_⟩
  · exact hrest.symm
  · exact List.rel_append h.written (List.Forall₂.cons (hw call hcarried hcall) List.Forall₂.nil)
  · rw [loans_append, hlent, List.map_append, h.lent]
    rfl
  · rw [requested_append, hl, List.append_nil, List.append_assoc]
    exact h.order
  · rw [requested_append, hl, List.append_nil]
    simp only [List.length_append, List.length_cons, List.length_nil] at hcount ⊢
    omega

/-- **Step lemma.** -/
theorem pipelineInv_step (h : PipelineInv ls finished waiting s) {l : PipelineLabel}
    (hl : l.Ordinary) (ht : pipelineStep s l = some t) :
    ∃ finished' waiting', PipelineInv (ls ++ [l]) finished' waiting' t := by
  cases l with
  | request call => exact ⟨finished, pipelineInv_request h hl ht⟩
  | take =>
    obtain ⟨worker, hpop, rfl⟩ := Option.map_eq_some_iff.mp ht
    exact ⟨finished, waiting, h.quiet rfl rfl (WorkerState.pending_pop hpop) rfl rfl⟩
  | execute mysql endTime stack =>
    simp only [pipelineStep] at ht
    split at ht
    · next task hpc =>
      cases ht
      refine h.finish rfl hpc rfl fun call hcarried hpack => ?_
      -- the operation that is called is the one that is meant
      obtain ⟨op, hop, hmeant⟩ := Option.map_eq_some_iff.mp
        (taskOperation_pack hcarried endTime stack)
      have hread := read_of_fits (plain_meant hcarried hl)
        (textLength_meant hcarried.wellFormed hl.length_le)
      unfold WrittenAsMeant
      dsimp only
      rw [← hpack, hop, Option.elim_some, hmeant, run_sql, execute_texts]
      cases mysql.borrow with
      | none => rfl
      | some conn => exact ⟨_, rfl, hread⟩
    · cases ht
  | discard endTime =>
    simp only [pipelineStep] at ht
    split at ht
    · next task hpc =>
      cases ht
      exact h.finish rfl hpc rfl fun call _ _ => rfl
    · cases ht

abbrev PipelineRun (ls : List PipelineLabel) (s : Pipeline) : Prop :=
  Run (restrict (ofPartial pipelineStep) fun _ l => l.Ordinary) pipelineInit ls s

/-- **End to end**: the requests `finished` have been worked off.  For each one
    for which the worker had a connection it has written the statement that
    was meant, exactly once, and for the others nothing.  The requests
    `waiting` are in the worker's hand or in the queue.  Both are in the order
    in which they were made, and every other request is one that the full
    queue threw away. -/
theorem requests_persisted (h : PipelineRun ls s) :
    ∃ finished waiting, List.Forall₂ WrittenAsMeant finished s.written ∧
      s.written.map (fun w => (w.endTime, w.conn)) = loans ls ∧
      s.worker.pending = waiting.map EnqueueCall.pack ∧
      (finished ++ waiting).Sublist (requested ls) ∧
      (requested ls).length = (finished ++ waiting).length + s.dropped := by
  have hinv : ∃ finished waiting, PipelineInv ls finished waiting s := by
    induction h with
    | nil => exact ⟨[], [], pipelineInv_init⟩
    | snoc _ hstep ih =>
      obtain ⟨finished, waiting, hinv⟩ := ih
      exact pipelineInv_step hinv hstep.1 hstep.2
  obtain ⟨finished, waiting, hinv⟩ := hinv
  refine ⟨finished, waiting, hinv.written, hinv.lent, hinv.pending, hinv.order, ?_⟩
  rw [List.length_append]
  exact hinv.count

/-! ### One call -/

/-- A call to the sales department that starts. -/
def salesCall : EnqueueCall :=
  .callStart (cstr "c1") (cstr "4001234567") (cstr "2001") (cstr "inbound") (some (cstr "sales"))
    (cstr "2026-07-16 09:30:00")

theorem carried_salesCall : salesCall.Carried := by
  refine ⟨⟨?_, ?_, ?_, ?_, ?_, ?_⟩, ?_, ?_⟩
  · exact ⟨by decide, by decide, by decide, by decide⟩
  · exact ⟨by decide, by decide, by decide, by decide⟩
  · exact ⟨by decide, by decide, by decide, by decide⟩
  · exact ⟨by decide, by decide, by decide, by decide⟩
  · exact ⟨by decide, by decide, by decide⟩
  · exact ⟨by decide, by decide, by decide, by decide⟩
  · exact (by decide : textOrEmpty (some (cstr "sales")) ≠ [])
  · decide

/-- A pool that lends a connection and a server that accepts every statement. -/
def acceptingServer : MysqlAnswers := ⟨some 1, fun _ _ => some 1⟩

/-- The call is requested, taken out of the queue and written. -/
def salesRun : List PipelineLabel :=
  [.request salesCall, .take,
    .execute acceptingServer (cstr "2026-07-16 09:31:00") ⟨[], [], [], []⟩]

/-- Its one statement is written. -/
theorem requests_persisted_sales :
    ∃ s endTime sql, PipelineRun salesRun s ∧ s.written = [⟨endTime, some 1, [sql]⟩] ∧
      lex sql = some (tokens (salesCall.meant endTime).statement) := by
  have hclock : ClockText (cstr "2026-07-16 09:31:00") := ⟨by decide, by decide⟩
  obtain ⟨op, hop, -⟩ := Option.map_eq_some_iff.mp
    (taskOperation_pack carried_salesCall (cstr "2026-07-16 09:31:00") ⟨[], [], [], []⟩)
  let queued : Pipeline := ⟨⟨⟨[salesCall.pack], false⟩, .popping⟩, [], 0⟩
  let taken : Pipeline := ⟨⟨⟨[], false⟩, .holding salesCall.pack⟩, [], 0⟩
  let w : Written := ⟨cstr "2026-07-16 09:31:00", some 1,
    ((op.sqlCall ⟨[], [], [], []⟩).run acceptingServer).2⟩
  let finished : Pipeline := ⟨⟨⟨[], false⟩, .popping⟩, [w], 0⟩
  have hexecute : pipelineStep taken
      (.execute acceptingServer (cstr "2026-07-16 09:31:00") ⟨[], [], [], []⟩) =
        some finished := by
    simp only [pipelineStep, taken, hop, Option.elim_some]
    rfl
  have hrun : PipelineRun salesRun finished :=
    Run.cons (show restrict _ _ _ _ queued from ⟨carried_salesCall, rfl⟩)
      (Run.cons (show restrict _ _ _ _ taken from ⟨trivial, rfl⟩)
        (Run.single ⟨hclock, hexecute⟩))
  obtain ⟨done, waiting, hwritten, -, -, horder, -⟩ := requests_persisted hrun
  obtain ⟨call, rest, hw, -, rfl⟩ := List.forall₂_cons_right_iff.mp hwritten
  obtain rfl : call = salesCall := by
    have hmem : call ∈ requested salesRun := horder.subset (by simp)
    exact List.mem_singleton.mp hmem
  obtain ⟨sql, htexts, hlex⟩ := hw
  refine ⟨finished, w.endTime, sql, hrun, ?_, hlex⟩
  rw [← htexts]

end DbSync
