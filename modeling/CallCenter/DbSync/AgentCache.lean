import CallCenter.DbSync.Sync

/-! # The Agent Hashes and the Table Behind Them

    Every extension has a hash `agent:status:<extension>` in Redis and a row
    in MySQL.  The main thread writes the hash at once and sends the row's
    update through the queue, so what has to be compared is the hash and the
    row at the end of the queue (`drain`).

    `Holds` says that for a target of pairs (status, number of calls) the
    hashes present and the drained rows carry the target's pairs, on given
    sets of extensions.  The rules of Section 4 say how each call of the main
    thread changes these sets; the others (worker steps, lost keys) keep
    every such assertion (`stable_holds`).  The runs considered are those
    that meet `Nominal`. -/

namespace DbSync

open CFormat Interference DbMysql DbRedis

/-! ## Section 1: Hashes -/

/-- What `db_redis_get_agent_status` reads from a hash: the status, in a
    buffer of 32 bytes, and the number of calls. -/
def hashPair (h : RedisHash) : Option (CStr × Int32) :=
  (h (cstr "status")).map fun status =>
    (status.take 31, ((h (cstr "concurrent_calls")).map fun calls => atoi (calls.take 15)).getD 0)

/-- The hash of the extension, if present, holds the pair. -/
def HashHolds (keys : Keyspace) (extension : CStr) (pair : CStr × Int32) : Prop :=
  ∀ h, keys (agentStatusKey extension) = some (.hash h) → hashPair h = some pair

theorem hashHolds_of_key {keys : Keyspace} {extension : CStr} {pair : CStr × Int32} {h : RedisHash}
    (hkey : keys (agentStatusKey extension) = some (.hash h)) (hpair : hashPair h = some pair) :
    HashHolds keys extension pair := by
  intro h' hkey'
  obtain rfl : h = h' := by simpa using hkey.symm.trans hkey'
  exact hpair

theorem snprintf_intText (v : Int32) : snprintf 16 (intText v) = intText v := by
  have hlen := length_intText_le v
  exact snprintf_fits (by omega)

/-- The fields that `db_redis_cache_agent_status` sets, read back. -/
theorem hashPair_setFields (h : RedisHash) (extension status : CStr) (calls : Int32) (now : Int) :
    hashPair (setFields h (agentStatusFields extension status calls now)) =
      some (status.take 31, calls) := by
  have hlen := length_intText_le calls
  have htake : (intText calls).take 15 = intText calls := List.take_of_length_le (by omega)
  have h₁ : cstr "status" ≠ cstr "concurrent_calls" := by decide
  have h₂ : cstr "status" ≠ cstr "updated_at" := by decide
  have h₃ : cstr "concurrent_calls" ≠ cstr "updated_at" := by decide
  simp [hashPair, setFields, agentStatusFields, Function.update_of_ne h₁,
    Function.update_of_ne h₂, Function.update_of_ne h₃, snprintf_intText, htake, atoi_intText]

/-! ### Keys -/

theorem agentStatusKey_ne_online (e e' : CStr) : agentStatusKey e ≠ agentOnlineKey e' := by
  intro h
  have hbyte := congrArg (fun key => key[6]?) h
  simp only [agentStatusKey, agentOnlineKey, snprintf, dbMaxRedisKeyLen] at hbyte
  rw [List.getElem?_take_of_lt (by omega), List.getElem?_take_of_lt (by omega),
    List.getElem?_append_left (by decide), List.getElem?_append_left (by decide)] at hbyte
  revert hbyte
  decide

theorem agentStatusKey_ne_dept (e deptKey : CStr) : agentStatusKey e ≠ deptConfigKey deptKey := by
  intro h
  have hbyte := congrArg (fun key => key[0]?) h
  simp only [agentStatusKey, deptConfigKey, snprintf, dbMaxRedisKeyLen] at hbyte
  rw [List.getElem?_take_of_lt (by omega), List.getElem?_take_of_lt (by omega),
    List.getElem?_append_left (by decide), List.getElem?_append_left (by decide)] at hbyte
  revert hbyte
  decide

/-- No other extension has the key of one that fits the worker's buffers;
    longer ones are cut to keys that are longer too. -/
theorem agentStatusKey_inj {e e' : CStr} (hlen : e.length ≤ 31)
    (h : agentStatusKey e = agentStatusKey e') : e = e' := by
  apply snprintf_append_inj _ h
  have hfront : (cstr "agent:status:").length = 13 := by decide
  rw [List.length_append, hfront, dbMaxRedisKeyLen]
  omega

/-! ### Writes -/

theorem hmset_ne {keys : Keyspace} {key key' : CStr} (fields : List (CStr × CStr))
    (hne : key' ≠ key) : hmset keys key fields key' = keys key' := by
  rcases hkey : keys key with _ | _ | h
  · simp [hmset, hkey, Function.update_of_ne hne]
  · simp [hmset, hkey]
  · simp [hmset, hkey, Function.update_of_ne hne]

/-- A hash that an `HMSET` leaves behind has the fields of that command. -/
theorem hmset_self {keys : Keyspace} {key : CStr} {fields : List (CStr × CStr)} {h : RedisHash}
    (hhash : hmset keys key fields key = some (.hash h)) : ∃ h₀, h = setFields h₀ fields := by
  rcases hkey : keys key with _ | _ | h₀
  · simp only [hmset, hkey, Function.update_self] at hhash
    exact ⟨_, by simpa using hhash.symm⟩
  · simp [hmset, hkey] at hhash
  · simp only [hmset, hkey, Function.update_self] at hhash
    exact ⟨h₀, by simpa using hhash.symm⟩

/-! ## Section 2: Nominal runs -/

/-- The write takes effect, or the hash is absent or holds its pair already. -/
def WriteLands (s : SyncState) (key : CStr) (fields : List (CStr × CStr))
    (answers : List NetAnswer) : Prop :=
  (∀ r, exec netPerform (dbRedisHmset s.redis key fields) answers s.keys = some r →
      r.2 = hmset s.keys key fields) ∨
    ∀ h, s.keys key = some (.hash h) → hashPair h = hashPair (setFields h fields)

theorem writeLands_of_exec {s : SyncState} {key : CStr} {fields : List (CStr × CStr)}
    {answers : List NetAnswer}
    (h : ∃ u, exec netPerform (dbRedisHmset s.redis key fields) answers s.keys =
      some (u, hmset s.keys key fields)) : WriteLands s key fields answers := by
  obtain ⟨u, hu⟩ := h
  refine Or.inl fun r hr => ?_
  obtain rfl := Option.some.inj (hu.symm.trans hr)
  rfl

/-- MySQL is up, there is memory, no push finds the queue full, and no write
    of an agent hash leaves another pair standing. -/
def Nominal (s : SyncState) : SyncOp → SyncAnswer → Prop
  | .alloc, .ok b => b = true
  | .queuePush _, _ => s.worker.queue.tasks.length < dbQueueMaxSize
  | .poolHealth, .health n => 0 < n
  | .selectAgents, .ok b => b = true
  | .redisHmset key fields, .net answers => WriteLands s key fields answers
  | _, _ => True

/-- MySQL executes the statements of the worker. -/
def EnvStep.Nominal : EnvStep → Prop
  | .workerFinish _ executed => executed = true
  | _ => True

/-- What worker steps and lost keys leave as it is. -/
structure Quiet (s t : SyncState) : Prop where
  fields : t.fields = s.fields
  last : t.last = s.last
  drained : drain t.agents t.worker = drain s.agents s.worker
  rows : ∀ e, t.agents.HasRow e ↔ s.agents.HasRow e
  keys : ∀ key v, t.keys key = some v → s.keys key = some v

theorem quiet_envStep {s t : SyncState} {e : EnvStep} (hdb : s.fields.dbEnabled = true)
    (he : e.Nominal) (hstep : envStep s e = some t) : Quiet s t := by
  cases e with
  | workerPop =>
    obtain ⟨w, hpop, rfl⟩ := Option.map_eq_some_iff.mp hstep
    exact ⟨rfl, rfl, drain_pop hpop, fun _ => Iff.rfl, fun _ _ h => h⟩
  | workerFinish endTime executed =>
    obtain rfl : executed = true := he
    simp only [envStep] at hstep
    split at hstep
    · next task hpc =>
      obtain rfl := Option.some.inj hstep
      simp only [hdb, and_self, if_true, onAgents_taskOperation]
      exact ⟨rfl, rfl, drain_finish hpc, fun _ => hasRow_applyTask task, fun _ _ h => h⟩
    · simp at hstep
  | loseKeys gone =>
    obtain rfl := Option.some.inj hstep
    refine ⟨rfl, rfl, rfl, fun _ => Iff.rfl, ?_⟩
    intro key v hkey
    by_cases hgone : key ∈ gone
    · simp [hgone] at hkey
    · simpa [hgone] using hkey

/-! ## Section 3: The assertion -/

/-- Which pair each extension should have; `none` for no opinion. -/
abbrev Target : Type := CStr → Option (CStr × Int32)

/-- The fields are `F`, the recorded calls `L` and the rows `R`.  On `D` the
    drained table and on `C` the hashes have the pairs of the target. -/
structure Holds (F : SyncFields) (L : CStr → Option (CStr × Int32)) (R : CStr → Prop)
    (T : Target) (D C : CStr → Prop) (s : SyncState) : Prop where
  fields_eq : s.fields = F
  last_eq : s.last = L
  rows_iff : ∀ e, s.agents.HasRow e ↔ R e
  drained : ∀ e pair, T e = some pair → D e → (drain s.agents s.worker).agentPair e = pair
  cached : ∀ e pair, T e = some pair → C e → HashHolds s.keys e pair

/-- MySQL is enabled, the worker runs, and both stores are configured. -/
structure SyncFields.Up (F : SyncFields) : Prop where
  mysqlPool : F.mysqlPool = true
  redis : F.redis = true
  workerRunning : F.workerRunning = true
  dbEnabled : F.dbEnabled = true

variable {F : SyncFields} {L : CStr → Option (CStr × Int32)} {R : CStr → Prop} {T : Target}
  {D D' C C' : CStr → Prop} {s t : SyncState}

theorem Holds.mono (h : Holds F L R T D C s) (hD : ∀ e, D' e → D e) (hC : ∀ e, C' e → C e) :
    Holds F L R T D' C' s where
  fields_eq := h.fields_eq
  last_eq := h.last_eq
  rows_iff := h.rows_iff
  drained e pair hT he := h.drained e pair hT (hD e he)
  cached e pair hT he := h.cached e pair hT (hC e he)

theorem HashHolds.mono {keys keys' : Keyspace} {e : CStr} {pair : CStr × Int32}
    (h : HashHolds keys e pair) (hkeys : ∀ key v, keys' key = some v → keys key = some v) :
    HashHolds keys' e pair := by
  intro hash hkey
  exact h hash (hkeys _ _ hkey)

theorem Holds.quiet (h : Holds F L R T D C s) (hq : Quiet s t) : Holds F L R T D C t where
  fields_eq := hq.fields.trans h.fields_eq
  last_eq := hq.last.trans h.last_eq
  rows_iff e := (hq.rows e).trans (h.rows_iff e)
  drained e pair hT he := by
    rw [hq.drained]
    exact h.drained e pair hT he
  cached e pair hT he := (h.cached e pair hT he).mono hq.keys

/-- Only the Redis client and the keyspace change. -/
theorem Holds.redis (h : Holds F L R T D C s) (ctx : RedisContext) {keys : Keyspace}
    (hkeys : ∀ e pair, T e = some pair → C' e → HashHolds keys e pair) :
    Holds F L R T D C' { s with redis := ctx, keys := keys } where
  fields_eq := h.fields_eq
  last_eq := h.last_eq
  rows_iff := h.rows_iff
  drained := h.drained
  cached := hkeys

/-! ### Calls into `db_redis.c` -/

theorem onRedis_keeps {α : Type} {p : RedisProg (α × RedisContext)} {answers : List NetAnswer}
    {a : α} (hp : Keeps s.keys p) (h : onRedis s p answers = some (a, t)) :
    ∃ ctx, t = { s with redis := ctx } := by
  obtain ⟨⟨⟨b, ctx⟩, keys⟩, hexec, heq⟩ := Option.map_eq_some_iff.mp h
  have hkeys : keys = s.keys := exec_spec hp rfl (fun _ _ _ _ => trivial) hexec
  obtain ⟨-, rfl⟩ := Prod.mk.inj heq
  refine ⟨ctx, ?_⟩
  rw [hkeys]

theorem onRedis_keepsOr {α : Type} {p : RedisProg (α × RedisContext)} {keys' : Keyspace}
    {answers : List NetAnswer} {a : α} (hp : KeepsOr s.keys keys' p)
    (h : onRedis s p answers = some (a, t)) :
    ∃ ctx keys, t = { s with redis := ctx, keys := keys } ∧
      exec netPerform p answers s.keys = some ((a, ctx), keys) ∧
      (keys = s.keys ∨ keys = keys') := by
  obtain ⟨⟨⟨b, ctx⟩, keys⟩, hexec, heq⟩ := Option.map_eq_some_iff.mp h
  obtain ⟨rfl, rfl⟩ := Prod.mk.inj heq
  exact ⟨ctx, keys, rfl, hexec, exec_spec hp rfl (fun _ _ _ _ => trivial) hexec⟩

/-! ## Section 4: Rules -/

/-- The runs of the guard are nominal. -/
structure SyncGuard.Nominal (g : SyncGuard) : Prop where
  answer : ∀ s op a, g.answer s op a → DbSync.Nominal s op a
  env : ∀ e, g.env e → e.Nominal

section Rules

variable {g : SyncGuard} {α β : Type} {P : SyncState → Prop} {Q : α → SyncState → Prop}

/-- Worker steps and lost keys keep every assertion of this form. -/
theorem stable_holds (hg : g.Nominal) (hup : F.Up) : g.world.Stable (Holds F L R T D C) := by
  intro s t hothers h
  obtain ⟨e, he, hstep⟩ := hothers
  have hdb : s.fields.dbEnabled = true := by rw [h.fields_eq, hup.dbEnabled]
  exact h.quiet (quiet_envStep hdb (hg.env e he) hstep)

/-- An operation that only reads, and what is known of its result. -/
theorem triple_read {op : SyncOp} {k : SyncRet op → SyncProg α} (hP : g.world.Stable P)
    (hread : ∀ s a r t, syncPerform op a s = some (r, t) → t = s) (fact : SyncRet op → Prop)
    (hfact : ∀ s a r, P s → g.answer s op a → syncPerform op a s = some (r, s) → fact r)
    (hk : ∀ r, fact r → g.world.Triple P (k r) Q) : g.world.Triple P (Prog.op op >>= k) Q := by
  apply World.Triple.op hP fun r s => P s ∧ fact r
  · intro s a r t hs hadm hperf
    obtain rfl := hread s a r t hperf
    exact ⟨hs, hfact t a r hs hadm hperf⟩
  · intro r
    exact World.Triple.of_fact (hk r)

/-- An operation at the end of a program. -/
theorem triple_op {op : SyncOp} {Q : SyncRet op → SyncState → Prop} (hP : g.world.Stable P)
    (hQ : ∀ r, g.world.Stable (Q r))
    (hop : ∀ s a r t, P s → g.answer s op a → syncPerform op a s = some (r, t) → Q r t) :
    g.world.Triple P (Prog.op op) Q := by
  apply World.Triple.op hP Q hop
  intro r
  exact World.Triple.ret (hQ r) fun _ hs => hs

theorem triple_bind {M : α → SyncState → Prop} {S : β → SyncState → Prop} {p : SyncProg α}
    {f : α → SyncProg β} (hp : g.world.Triple P p M) (hf : ∀ a, g.world.Triple (M a) (f a) S) :
    g.world.Triple P (p >>= f) S :=
  World.Triple.bind hp hf

theorem triple_getFields (hg : g.Nominal) (hup : F.Up) {k : SyncFields → SyncProg α}
    (hk : g.world.Triple (Holds F L R T D C) (k F) Q) :
    g.world.Triple (Holds F L R T D C) (getFields >>= k) Q := by
  refine triple_read (stable_holds hg hup) ?_ (fun r => r = F) ?_ ?_
  · intro s a r t h
    cases a <;> simp_all [syncPerform]
  · intro s a r hs _ h
    have hfields := hs.fields_eq
    cases a <;> simp_all [syncPerform]
  · intro r hr
    rw [hr]
    exact hk

theorem triple_timeNow (hg : g.Nominal) (hup : F.Up) {k : Int → SyncProg α}
    (hk : ∀ now, g.world.Triple (Holds F L R T D C) (k now) Q) :
    g.world.Triple (Holds F L R T D C) (timeNow >>= k) Q := by
  refine triple_read (stable_holds hg hup) ?_ (fun _ => True) ?_ fun now _ => hk now
  · intro s a r t h
    cases a <;> simp_all [syncPerform]
  · intros
    trivial

theorem triple_pure (hg : g.Nominal) (hup : F.Up) (a : α) :
    g.world.Triple (Holds F L R T D C) (pure a) fun _ => Holds F L R T D C :=
  World.Triple.ret (stable_holds hg hup) fun _ hs => hs

/-- A call whose result is not used. -/
theorem triple_discard (hg : g.Nominal) (hup : F.Up) {p : SyncProg α}
    (hp : g.world.Triple P p fun _ => Holds F L R T D C) :
    g.world.Triple P (p >>= fun _ => pure PUnit.unit) fun _ => Holds F L R T D C :=
  triple_bind hp fun _ => triple_pure hg hup _

/-! ### The cache -/

/-- An `HMSET` of an agent hash: afterwards it is as the target has it. -/
theorem triple_redisHmset (hg : g.Nominal) (hup : F.Up) {extension status : CStr} {calls : Int32}
    (now : Int)
    (hkey : ∀ e pair, T e = some pair → agentStatusKey e = agentStatusKey extension →
      e = extension)
    (hpair : ∀ pair, T extension = some pair → pair = (status.take 31, calls))
    (hC : ∀ e, C' e → C e ∨ e = extension) :
    g.world.Triple (Holds F L R T D C)
      (redisHmset (agentStatusKey extension) (agentStatusFields extension status calls now))
      fun _ => Holds F L R T D C' := by
  apply triple_op (stable_holds hg hup) fun _ => stable_holds hg hup
  intro s a r t hs hadm hperf
  cases a with
  | net answers =>
    have hlands : WriteLands s _ _ answers := hg.answer _ _ _ hadm
    obtain ⟨ctx, keys, rfl, hexec, hkeys⟩ := onRedis_keepsOr (keepsOr_dbRedisHmset _ _ _) hperf
    apply hs.redis ctx
    intro e pair hT he
    by_cases hext : e = extension
    · subst hext
      rw [hpair pair hT]
      intro h hhash
      have heff : keys = hmset s.keys (agentStatusKey e) (agentStatusFields e status calls now) →
          hashPair h = some (status.take 31, calls) := by
        intro heq
        rw [heq] at hhash
        obtain ⟨h₀, rfl⟩ := hmset_self hhash
        exact hashPair_setFields h₀ e status calls now
      rcases hkeys with hsame | hset
      · -- the write was not executed: it has landed all the same, or made no difference
        rcases hlands with hland | hcurrent
        · exact heff (hland _ hexec)
        · rw [hsame] at hhash
          rw [hcurrent h hhash]
          exact hashPair_setFields h e status calls now
      · exact heff hset
    · have hne : agentStatusKey e ≠ agentStatusKey extension := fun h => hext (hkey e pair hT h)
      have hold := hs.cached e pair hT ((hC e he).resolve_right hext)
      intro h hhash
      rcases hkeys with hsame | hset
      · exact hold h (hsame ▸ hhash)
      · rw [hset, hmset_ne _ hne] at hhash
        exact hold h hhash
  | _ => simp [syncPerform] at hperf

theorem triple_cacheAgentStatus (hg : g.Nominal) (hup : F.Up) {extension status : CStr}
    {calls : Int32}
    (hkey : ∀ e pair, T e = some pair → agentStatusKey e = agentStatusKey extension →
      e = extension)
    (hpair : ∀ pair, T extension = some pair → pair = (status.take 31, calls))
    (hC : ∀ e, C' e → C e ∨ e = extension) :
    g.world.Triple (Holds F L R T D C) (dbRedisCacheAgentStatus extension status calls)
      fun _ => Holds F L R T D C' := by
  apply triple_timeNow hg hup
  intro now
  exact triple_redisHmset hg hup now hkey hpair hC

/-- A `SET` of a key that is no agent hash. -/
theorem triple_redisSet (hg : g.Nominal) (hup : F.Up) {key value : CStr}
    (hkey : ∀ e, agentStatusKey e ≠ key) :
    g.world.Triple (Holds F L R T D C) (redisSet key value) fun _ => Holds F L R T D C := by
  apply triple_op (stable_holds hg hup) fun _ => stable_holds hg hup
  intro s a r t hs _ hperf
  cases a with
  | net answers =>
    obtain ⟨ctx, keys, rfl, -, hkeys⟩ := onRedis_keepsOr (keepsOr_dbRedisSet _ _ _) hperf
    apply hs.redis ctx
    intro e pair hT he h hhash
    rcases hkeys with rfl | rfl
    · exact hs.cached e pair hT he h hhash
    · rw [Function.update_of_ne (hkey e)] at hhash
      exact hs.cached e pair hT he h hhash
  | _ => simp [syncPerform] at hperf

theorem triple_cacheAgentOnline (hg : g.Nominal) (hup : F.Up) (extension : CStr)
    (isOnline : Int32) :
    g.world.Triple (Holds F L R T D C) (dbRedisCacheAgentOnline extension isOnline)
      fun _ => Holds F L R T D C :=
  triple_redisSet hg hup fun e => agentStatusKey_ne_online e extension

/-- A write of the cache that is left out while the cache is disabled. -/
theorem triple_whenCached (hg : g.Nominal) (hup : F.Up) {write : SyncProg Int}
    (hwrite : F.cacheEnabled = true →
      g.world.Triple (Holds F L R T D C) write fun _ => Holds F L R T D C')
    (hoff : F.cacheEnabled ≠ true → ∀ e, C' e → C e) :
    g.world.Triple (Holds F L R T D C) (whenCached F write) fun _ => Holds F L R T D C' := by
  unfold whenCached
  split
  · next hcond =>
    apply triple_bind (hwrite hcond.1)
    intro _
    exact triple_pure hg hup _
  · next hcond =>
    have hdisabled : F.cacheEnabled ≠ true := fun h => hcond ⟨h, hup.redis⟩
    refine World.Triple.conseq (triple_pure hg hup _) ?_ fun _ _ hs => hs
    intro s hs
    exact hs.mono (fun _ he => he) (hoff hdisabled)

/-! ### The queue -/

theorem triple_pushTask (hg : g.Nominal) (hup : F.Up) {task : DbTask}
    (htask : ∀ table : AgentTable, (∀ e, table.HasRow e ↔ R e) →
      (∀ e pair, T e = some pair → D e → table.agentPair e = pair) →
      ∀ e pair, T e = some pair → D' e → (applyTask table task).agentPair e = pair) :
    g.world.Triple (Holds F L R T D C) (pushTask task) fun _ => Holds F L R T D' C := by
  apply triple_op (stable_holds hg hup) fun _ => stable_holds hg hup
  intro s a r t hs hadm hperf
  have hroom : s.worker.queue.tasks.length < dbQueueMaxSize := hg.answer _ _ _ hadm
  cases a with
  | silent =>
    simp only [syncPerform, Option.some.injEq, Prod.mk.injEq, true_and] at hperf
    subst hperf
    refine ⟨hs.fields_eq, hs.last_eq, hs.rows_iff, ?_, hs.cached⟩
    intro e pair hT he
    simp only [drain_push hroom]
    refine htask _ ?_ hs.drained e pair hT he
    intro e
    rw [hasRow_drain]
    exact hs.rows_iff e
  | _ => simp [syncPerform] at hperf

/-- The update reaches the end of the queue; `htask` says what it does to the
    drained table. -/
theorem triple_enqueueTask (hg : g.Nominal) (hup : F.Up) {task : DbTask}
    (htask : ∀ table : AgentTable, (∀ e, table.HasRow e ↔ R e) →
      (∀ e pair, T e = some pair → D e → table.agentPair e = pair) →
      ∀ e pair, T e = some pair → D' e → (applyTask table task).agentPair e = pair) :
    g.world.Triple (Holds F L R T D C) (enqueueTask task) fun _ => Holds F L R T D' C := by
  refine triple_read (stable_holds hg hup) ?_ (fun r => r = true) ?_ ?_
  · intro s a r t h
    cases a <;> simp_all [syncPerform]
  · intro s a r _ hadm h
    have hnom := hg.answer _ _ _ hadm
    cases a <;> simp_all [syncPerform, DbSync.Nominal]
  · intro allocated halloc
    rw [halloc]
    exact triple_pushTask hg hup htask

theorem triple_whenPersisted (hg : g.Nominal) (hup : F.Up) {task : DbTask}
    (htask : ∀ table : AgentTable, (∀ e, table.HasRow e ↔ R e) →
      (∀ e pair, T e = some pair → D e → table.agentPair e = pair) →
      ∀ e pair, T e = some pair → D' e → (applyTask table task).agentPair e = pair) :
    g.world.Triple (Holds F L R T D C) (whenPersisted F task) fun _ => Holds F L R T D' C := by
  unfold whenPersisted
  rw [if_pos ⟨hup.dbEnabled, hup.workerRunning⟩]
  exact triple_enqueueTask hg hup htask

/-- **A status change** makes the target's pair for the extension true on
    both sides, if the target has the pair passed. -/
theorem triple_agentStatusChange (hg : g.Nominal) (hup : F.Up) {extension status : CStr}
    {calls : Int32} (hext : Required 31 extension) (hstatus : Required 31 status)
    (hpair : ∀ pair, T extension = some pair → pair = (status, calls) ∧ R extension ∧
      status ∈ agentStatusNames) :
    g.world.Triple
      (Holds F L R T (fun e => e ≠ extension) fun e => e ≠ extension ∧ F.cacheEnabled = true)
      (dbSyncAgentStatusChange (some extension) (some status) calls)
      fun _ => Holds F L R T (fun _ => True) fun _ => F.cacheEnabled = true := by
  have htask : ∀ table : AgentTable, (∀ e, table.HasRow e ↔ R e) →
      (∀ e pair, T e = some pair → e ≠ extension → table.agentPair e = pair) →
      ∀ e pair, T e = some pair → True →
        (applyTask table (packAgentStatus extension status calls)).agentPair e = pair := by
    intro table hrows hdrained e pair hT _
    rw [applyTask_packAgentStatus hext hstatus]
    by_cases he : e = extension
    · subst he
      obtain ⟨rfl, hrow, hname⟩ := hpair pair hT
      exact AgentTable.agentPair_update_self ((hrows e).mpr hrow) hname
    · rw [AgentTable.agentPair_update_ne he]
      exact hdrained e pair hT he
  have hcache : g.world.Triple
      (Holds F L R T (fun e => e ≠ extension) fun e => e ≠ extension ∧ F.cacheEnabled = true)
      (whenCached F (dbRedisCacheAgentStatus extension status calls))
      fun _ => Holds F L R T (fun e => e ≠ extension) fun _ => F.cacheEnabled = true := by
    apply triple_whenCached hg hup
    · intro _
      apply triple_cacheAgentStatus hg hup
      · intro e pair _ hkey
        exact (agentStatusKey_inj hext.2.length_le hkey.symm).symm
      · intro pair hT
        rw [List.take_of_length_le hstatus.2.length_le]
        exact (hpair pair hT).1
      · intro e he
        by_cases hne : e = extension
        · exact Or.inr hne
        · exact Or.inl ⟨hne, he⟩
    · intro hoff e he
      exact absurd he hoff
  apply triple_getFields hg hup
  apply triple_bind hcache
  intro _
  apply triple_bind (triple_whenPersisted hg hup htask)
  intro _
  exact triple_pure hg hup _

end Rules

end DbSync
