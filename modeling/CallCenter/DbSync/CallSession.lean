import CallCenter.DbSync.DeptIdle

/-! # The Session Entries of Calls

    `db_sync_call_start` sets the key `call:session:<call id>` in Redis and
    `db_sync_call_end` deletes it.  Both print the key into a buffer of
    `DB_MAX_REDIS_KEY_LEN` bytes, which is as large as the field that the call
    id comes from, and the prefix takes thirteen bytes of it.

    * `sessionKey_eq_iff`: when two calls have one key.
    * `sessionKeys_iff`: when ending one call leaves the entry of another.
    * `sessions_collide`: two call ids for which it does not. -/

namespace DbSync

open CFormat Interference Transition DbRedis

/-! ## Section 1: The stores -/

/-- `expires` records the key and the seconds of every `EXPIRE` executed. -/
structure SessionState where
  fields : SyncFields
  redis : RedisContext
  keys : Keyspace
  worker : WorkerState
  expires : List (CStr × Int32)

inductive SessionOp where
  /-- `time`, `localtime` and `strftime` -/
  | startTime
  /-- Reading the fields of the context. -/
  | fields
  /-- `db_redis_set` -/
  | redisSet (key value : CStr)
  /-- `db_redis_expire` -/
  | redisExpire (key : CStr) (seconds : Int32)
  /-- `db_redis_del` -/
  | redisDel (key : CStr)
  /-- `calloc` of a task. -/
  | alloc
  | queuePush (task : DbTask)

abbrev SessionRet : SessionOp → Type
  | .startTime => CStr
  | .fields => SyncFields
  | .redisSet _ _ => Int
  | .redisExpire _ _ => Int
  | .redisDel _ => Int
  | .alloc => Bool
  | .queuePush _ => Unit

inductive SessionAnswer where
  | silent
  | clock (text : CStr)
  | net (answers : List NetAnswer)
  /-- How the connection is ensured, and the outcome of the command. -/
  | command (answers : List NetAnswer) (outcome : Outcome)
  | ok (b : Bool)

/-- Whether the server executes the command. -/
def executes : Outcome → Bool
  | .answered => true
  | .refused => false
  | .lost executed => executed

/-- `(reply->type == REDIS_REPLY_INTEGER) ? (int)reply->integer : -1`, and -1
    without a reply; the server counts the keys concerned. -/
def integerReply (keys : Keyspace) (key : CStr) : Outcome → Int
  | .answered => if (keys key).isSome then 1 else 0
  | _ => -1

/-- A command after `db_redis_ensure_connected`. -/
def onConnected (s : SessionState) (key : CStr) (answers : List NetAnswer) (outcome : Outcome)
    (effect : SessionState → SessionState) : Option (Int × SessionState) :=
  (exec netPerform (dbRedisEnsureConnected s.redis) answers s.keys).map fun r =>
    let s := { s with redis := r.1.2, keys := r.2 }
    if r.1.1 ≠ 0 then (-1, s)
    else (integerReply s.keys key outcome, if executes outcome then effect s else s)

def sessionPerform : (op : SessionOp) → SessionAnswer → SessionState →
    Option (SessionRet op × SessionState)
  | .startTime, .clock text, s => some (text, s)
  | .fields, .silent, s => some (s.fields, s)
  | .redisSet key value, .net answers, s =>
    (exec netPerform (dbRedisSet s.redis key value) answers s.keys).map fun r =>
      (r.1.1, { s with redis := r.1.2, keys := r.2 })
  | .redisExpire key seconds, .command answers outcome, s =>
    onConnected s key answers outcome fun s => { s with expires := s.expires ++ [(key, seconds)] }
  | .redisDel key, .command answers outcome, s =>
    onConnected s key answers outcome fun s => { s with keys := Function.update s.keys key none }
  | .alloc, .ok b, s => some (b, s)
  | .queuePush task, .silent, s => some ((), { s with worker := s.worker.push task })
  | _, _, _ => none

/-! ## Section 2: The functions -/

abbrev SessionProg : Type → Type := Prog SessionOp SessionRet

/-- `REDIS_KEY_CALL_SESSION` -/
def sessionKey (callId : CStr) : CStr :=
  snprintf dbMaxRedisKeyLen (cstr "call:session:" ++ callId)

/-- `if (sync->db_enabled && sync->worker_running) …` -/
def persistCall (sync : SyncFields) (task : DbTask) : SessionProg Unit := do
  if sync.dbEnabled ∧ sync.workerRunning then
    let allocated ← Prog.op SessionOp.alloc
    if allocated then Prog.op (SessionOp.queuePush task)

def dbSyncCallStart (callId caller callee : Option CStr) (direction : CStr)
    (department : Option CStr) : SessionProg Int :=
  match callId, caller, callee with
  | some callId, some caller, some callee => do
    let startTime ← Prog.op SessionOp.startTime
    let sync ← Prog.op SessionOp.fields
    if sync.cacheInUse then
      let _ ← Prog.op (SessionOp.redisSet (sessionKey callId) (cstr "ringing"))
      let _ ← Prog.op (SessionOp.redisExpire (sessionKey callId) 7200)
    persistCall sync (packCallStart callId caller callee direction department (some startTime))
    return 0
  | _, _, _ => return -1

def dbSyncCallEnd (callId : Option CStr) (duration sipStatus resultCode : Int32)
    (resultDesc : Option CStr) : SessionProg Int :=
  match callId with
  | some callId => do
    let sync ← Prog.op SessionOp.fields
    if sync.cacheInUse then
      let _ ← Prog.op (SessionOp.redisDel (sessionKey callId))
    persistCall sync (packCallEnd callId duration sipStatus resultCode resultDesc)
    return 0
  | none => return -1

/-- The calls of the main thread, with the arguments after the context. -/
inductive SessionCall where
  | callStart (callId caller callee : Option CStr) (direction : CStr) (department : Option CStr)
  | callEnd (callId : Option CStr) (duration sipStatus resultCode : Int32)
      (resultDesc : Option CStr)

def SessionCall.program : SessionCall → SessionProg Int
  | .callStart callId caller callee direction department =>
    dbSyncCallStart callId caller callee direction department
  | .callEnd callId duration sipStatus resultCode resultDesc =>
    dbSyncCallEnd callId duration sipStatus resultCode resultDesc

/-- Any outcome of the commands and any other answers. -/
abbrev sessionWorld : World SessionOp SessionRet SessionAnswer SessionState :=
  World.alone sessionPerform fun _ => True

def sessionStep (s : SessionState) (call : SessionCall) (t : SessionState) : Prop :=
  ∃ r, sessionWorld.Exec call.program s r t

/-! ## Section 3: What the calls do to an entry -/

def HasEntry (key : CStr) (s : SessionState) : Prop := s.keys key ≠ none

/-- The program leaves the entry there. -/
abbrev KeepsEntry {α : Type} (key : CStr) (p : SessionProg α) : Prop :=
  sessionWorld.Triple (HasEntry key) p fun _ => HasEntry key

variable {α β : Type} {key : CStr}

/-- The connection does not touch the keys. -/
theorem onConnected_cases (effect : SessionState → SessionState) {s t : SessionState} {k : CStr}
    {answers : List NetAnswer} {outcome : Outcome} {r : Int}
    (h : onConnected s k answers outcome effect = some (r, t)) :
    ∃ ctx, t = { s with redis := ctx } ∨ t = effect { s with redis := ctx } := by
  obtain ⟨⟨⟨ret, ctx⟩, keys⟩, hexec, heq⟩ := Option.map_eq_some_iff.mp h
  have hkeys : keys = s.keys :=
    exec_spec (keeps_dbRedisEnsureConnected s.redis) rfl (fun _ _ _ _ => trivial) hexec
  subst hkeys
  refine ⟨ctx, ?_⟩
  dsimp only at heq
  split at heq
  · obtain ⟨-, rfl⟩ := Prod.mk.inj heq
    exact .inl rfl
  · obtain ⟨-, rfl⟩ := Prod.mk.inj heq
    split
    · exact .inr rfl
    · exact .inl rfl

/-- **Operation**: only a `DEL` of the key itself removes the entry. -/
theorem hasEntry_perform {op : SessionOp} {ans : SessionAnswer} {s t : SessionState}
    {r : SessionRet op} (hop : op ≠ .redisDel key) (hs : HasEntry key s)
    (h : sessionPerform op ans s = some (r, t)) : HasEntry key t := by
  cases op with
  | startTime =>
    cases ans with
    | clock text =>
      obtain ⟨-, rfl⟩ := Prod.mk.inj (Option.some.inj h)
      exact hs
    | _ => cases h
  | fields =>
    cases ans with
    | silent =>
      obtain ⟨-, rfl⟩ := Prod.mk.inj (Option.some.inj h)
      exact hs
    | _ => cases h
  | redisSet k value =>
    cases ans with
    | net answers =>
      obtain ⟨⟨⟨ret, ctx⟩, keys⟩, hexec, heq⟩ := Option.map_eq_some_iff.mp h
      obtain ⟨-, rfl⟩ := Prod.mk.inj heq
      have hkeys :=
        exec_spec (keepsOr_dbRedisSet s.redis k value) rfl (fun _ _ _ _ => trivial) hexec
      show keys key ≠ none
      -- the `SET` was carried out or not; either way no entry is lost
      rcases hkeys with hsame | hset
      · rw [hsame]
        exact hs
      · rw [hset, Function.update_apply]
        split
        · exact Option.some_ne_none _
        · exact hs
    | _ => cases h
  | redisExpire k seconds =>
    cases ans with
    | command answers outcome =>
      obtain ⟨ctx, rfl | rfl⟩ := onConnected_cases
        (fun s => { s with expires := s.expires ++ [(k, seconds)] }) h
      · exact hs
      · exact hs
    | _ => cases h
  | redisDel k =>
    cases ans with
    | command answers outcome =>
      obtain ⟨ctx, rfl | rfl⟩ := onConnected_cases
        (fun s => { s with keys := Function.update s.keys k none }) h
      · exact hs
      · -- another key is deleted
        have hne : key ≠ k := fun heq => hop (heq ▸ rfl)
        show Function.update s.keys k none key ≠ none
        rw [Function.update_of_ne hne]
        exact hs
    | _ => cases h
  | alloc =>
    cases ans with
    | ok b =>
      obtain ⟨-, rfl⟩ := Prod.mk.inj (Option.some.inj h)
      exact hs
    | _ => cases h
  | queuePush task =>
    cases ans with
    | silent =>
      obtain ⟨-, rfl⟩ := Prod.mk.inj (Option.some.inj h)
      exact hs
    | _ => cases h

theorem keepsEntry_pure (a : α) : KeepsEntry key (pure a) :=
  World.Triple.ret (World.stable_alone _) fun _ hs => hs

theorem keepsEntry_op {op : SessionOp} {k : SessionRet op → SessionProg α}
    (hop : op ≠ .redisDel key) (hk : ∀ r, KeepsEntry key (k r)) :
    KeepsEntry key (Prog.op op >>= k) := by
  apply World.Triple.op (World.stable_alone _) (fun _ => HasEntry key)
  · intro s ans r t hs _ hperf
    exact hasEntry_perform hop hs hperf
  · exact hk

theorem keepsEntry_bind {p : SessionProg α} {f : α → SessionProg β} (hp : KeepsEntry key p)
    (hf : ∀ a, KeepsEntry key (f a)) : KeepsEntry key (p >>= f) :=
  World.Triple.bind hp hf

theorem keepsEntry_persistCall (sync : SyncFields) (task : DbTask) :
    KeepsEntry key (persistCall sync task) := by
  unfold persistCall
  split
  · apply keepsEntry_op (by simp)
    intro allocated
    split
    · apply keepsEntry_op (by simp)
      intro _
      exact keepsEntry_pure _
    · exact keepsEntry_pure _
  · exact keepsEntry_pure _

/-- A start makes an entry and removes none. -/
theorem keepsEntry_callStart (callId caller callee : Option CStr) (direction : CStr)
    (department : Option CStr) :
    KeepsEntry key (dbSyncCallStart callId caller callee direction department) := by
  unfold dbSyncCallStart
  split
  · apply keepsEntry_op (by simp)
    intro startTime
    apply keepsEntry_op (by simp)
    intro sync
    dsimp only
    -- with the cache in use, `SET` and `EXPIRE` come before the task
    split
    · apply keepsEntry_op (by simp)
      intro _
      apply keepsEntry_op (by simp)
      intro _
      exact keepsEntry_bind (keepsEntry_persistCall _ _) fun _ => keepsEntry_pure _
    · exact keepsEntry_bind (keepsEntry_persistCall _ _) fun _ => keepsEntry_pure _
  · exact keepsEntry_pure _

/-- An end of a call with another key. -/
theorem keepsEntry_callEnd {callId : Option CStr} (hne : ∀ id, callId = some id →
    sessionKey id ≠ key) (duration sipStatus resultCode : Int32) (resultDesc : Option CStr) :
    KeepsEntry key (dbSyncCallEnd callId duration sipStatus resultCode resultDesc) := by
  cases callId with
  | none => exact keepsEntry_pure _
  | some id =>
    apply keepsEntry_op (by simp)
    intro sync
    dsimp only
    split
    · apply keepsEntry_op
      -- the `DEL` is for the other key
      · intro heq
        exact hne id rfl (SessionOp.redisDel.inj heq)
      · intro _
        exact keepsEntry_bind (keepsEntry_persistCall _ _) fun _ => keepsEntry_pure _
    · exact keepsEntry_bind (keepsEntry_persistCall _ _) fun _ => keepsEntry_pure _

/-- `call` is a `db_sync_call_end` with this call id. -/
def SessionCall.Ends (id : CStr) : SessionCall → Prop
  | .callEnd callId _ _ _ _ => callId = some id
  | .callStart _ _ _ _ _ => False

/-- **Step**: the entry is left by every call that ends none with its key. -/
theorem hasEntry_step {s t : SessionState} {call : SessionCall}
    (hends : ∀ id, call.Ends id → sessionKey id ≠ key) (hs : HasEntry key s)
    (hstep : sessionStep s call t) : HasEntry key t := by
  obtain ⟨r, hexec⟩ := hstep
  cases call with
  | callStart callId caller callee direction department =>
    exact hexec.wp (keepsEntry_callStart callId caller callee direction department s hs)
  | callEnd callId duration sipStatus resultCode resultDesc =>
    exact hexec.wp
      (keepsEntry_callEnd hends duration sipStatus resultCode resultDesc s hs)

/-- **Run**: so is it by every sequence of such calls. -/
theorem hasEntry_run {s t : SessionState} {calls : List SessionCall}
    (hends : ∀ call ∈ calls, ∀ id, call.Ends id → sessionKey id ≠ key) (hs : HasEntry key s)
    (hrun : Run sessionStep s calls t) : HasEntry key t := by
  induction hrun with
  | nil => exact hs
  | snoc _ hstep ih =>
    have hinit := ih fun call hmem => hends call (List.mem_append_left _ hmem)
    exact hasEntry_step (hends _ (List.mem_append_right _ List.mem_cons_self)) hinit hstep

/-! ## Section 4: Two call ids -/

/-- The buffer holds the prefix, 242 bytes of the call id and the NUL. -/
theorem sessionKey_eq (callId : CStr) :
    sessionKey callId = cstr "call:session:" ++ callId.take 242 := by
  have hfront : (cstr "call:session:").length = 13 := by decide
  unfold sessionKey snprintf dbMaxRedisKeyLen
  rw [List.take_append, hfront, List.take_of_length_le (by rw [hfront]; omega)]

theorem sessionKey_eq_iff (a b : CStr) : sessionKey a = sessionKey b ↔ a.take 242 = b.take 242 := by
  rw [sessionKey_eq, sessionKey_eq]
  exact ⟨List.append_cancel_left, congrArg _⟩

/-- Ending the call `b` never removes the entry of the call `a`, whatever calls
    are started in between. -/
def EntryKept (a b : CStr) : Prop :=
  ∀ s calls t, HasEntry (sessionKey a) s → Run sessionStep s calls t →
    (∀ call ∈ calls, ∀ id, call.Ends id → id = b) → HasEntry (sessionKey a) t

/-- A call that rings, with both stores in use. -/
def ringingState (callId : CStr) : SessionState where
  fields := ⟨true, true, true, true, true, 0, 30⟩
  redis := ⟨true, [], 0, true, 0, 0⟩
  keys := Function.update (fun _ => none) (sessionKey callId) (some (.string (cstr "ringing")))
  worker := ⟨⟨[], false⟩, .popping⟩
  expires := []

theorem hasEntry_ringingState (callId : CStr) :
    HasEntry (sessionKey callId) (ringingState callId) := by
  simp [HasEntry, ringingState]

/-- Of two calls with one key, ending one removes the entry of both. -/
theorem callEnd_removes {a b : CStr} (hkeys : sessionKey a = sessionKey b) :
    ∃ t, Run sessionStep (ringingState a) [.callEnd (some b) 12 200 0 none] t ∧
      ¬ HasEntry (sessionKey a) t := by
  have hexec : exec sessionPerform (dbSyncCallEnd (some b) 12 200 0 none)
      [.silent, .command [.outcome .answered] .answered, .ok false] (ringingState a) =
        some (0, _) := rfl
  refine ⟨_, Run.single ⟨0, exec_sound (fun _ _ _ _ => trivial) hexec⟩, ?_⟩
  intro hleft
  rw [hkeys] at hleft
  exact hleft (Function.update_self _ _ _)

theorem entryKept_iff (a b : CStr) : EntryKept a b ↔ sessionKey a ≠ sessionKey b := by
  constructor
  · intro hkept hkeys
    obtain ⟨t, hrun, hgone⟩ := callEnd_removes hkeys
    apply hgone
    apply hkept _ _ _ (hasEntry_ringingState a) hrun
    intro call hmem id hid
    obtain rfl := List.mem_singleton.mp hmem
    exact (Option.some.inj hid).symm
  · intro hne s calls t hs hrun hends
    apply hasEntry_run _ hs hrun
    intro call hmem id hid heq
    obtain rfl := hends call hmem id hid
    exact hne heq.symm

/-- **The session keys**: two calls have different keys, and ending one leaves
    the entry of the other, exactly if their ids differ within the bytes that
    fit behind the prefix. -/
theorem sessionKeys_iff (a b : CStr) :
    (sessionKey a ≠ sessionKey b ↔ a.take 242 ≠ b.take 242) ∧
      (EntryKept a b ↔ a.take 242 ≠ b.take 242) := by
  have hkeys : sessionKey a ≠ sessionKey b ↔ a.take 242 ≠ b.take 242 :=
    (sessionKey_eq_iff a b).not
  exact ⟨hkeys, (entryKept_iff a b).trans hkeys⟩

/-- A call id of 243 bytes that ends with `last`. -/
def longCallId (last : UInt8) : CStr := List.replicate 242 97 ++ [last]

/-- Two calls whose ids differ in the last byte. -/
theorem sessions_collide :
    ∃ a b : CStr, a ≠ b ∧ a.length ≤ 255 ∧ b.length ≤ 255 ∧ 0 ∉ a ∧ 0 ∉ b ∧
      sessionKey a = sessionKey b ∧
      ∃ s t, HasEntry (sessionKey a) s ∧
        Run sessionStep s [.callEnd (some b) 12 200 0 none] t ∧ ¬ HasEntry (sessionKey a) t := by
  have hkeys : sessionKey (longCallId 49) = sessionKey (longCallId 50) := by decide +kernel
  obtain ⟨t, hrun, hgone⟩ := callEnd_removes hkeys
  exact ⟨longCallId 49, longCallId 50, by decide +kernel, by decide +kernel, by decide +kernel,
    by decide +kernel, by decide +kernel, hkeys, _, t, hasEntry_ringingState _, hrun, hgone⟩

end DbSync
