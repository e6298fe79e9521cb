import CallCenter.DbMysql.IdleAgents
import CallCenter.DbSync.Sync
import CallCenter.Framework.CMemory

/-! # The Idle Agents of a Department

    `db_sync_dept_idle_query` answers from the key `dept:idle:…`; if there is
    no count it lists the idle agents of the department in MySQL, and stores
    the length of that list.

    * `MissRun`: the runs in which the cache has no count to offer.
    * `deptIdle_iff`: in which of them the answer is the number of idle agents,
      and a failed lookup leaves the key alone. -/

namespace DbSync

open CFormat Interference BoundedPrint CMemory DbMysql DbRedis

/-! ## Section 1: The stores -/

/-- `sets` records the key and value of every `SET` that `db_redis_set` was
    called for. -/
structure IdleState where
  fields : SyncFields
  redis : RedisContext
  keys : Keyspace
  agents : List DeptAgent
  sets : List (CStr × CStr)

inductive IdleOp where
  /-- Reading the fields of the context. -/
  | fields
  /-- `db_redis_get` -/
  | redisGet (key : CStr) (outSize : Nat)
  /-- `db_redis_set` -/
  | redisSet (key value : CStr)
  /-- The query of `db_mysql_find_idle_agents`. -/
  | selectIdle (deptKey : CStr) (limitCount : Int32)

/-- `redisGet` returns what `out` holds on return code 0, and `none` on -1. -/
abbrev IdleRet : IdleOp → Type
  | .fields => SyncFields
  | .redisGet _ _ => Option CStr
  | .redisSet _ _ => Int
  | .selectIdle _ _ => Option (List (Option CStr))

inductive IdleAnswer where
  | silent
  /-- How the connection is ensured, and the outcome of the `GET`. -/
  | get (answers : List NetAnswer) (outcome : Outcome)
  | net (answers : List NetAnswer)
  /-- The order in which the server lists the idle agents. -/
  | listing (found : List DeptAgent)
  | failed

/-- The reply to `GET` as `db_redis_get` takes it. -/
def getReply (keys : Keyspace) (key : CStr) (outSize : Nat) : Outcome → Option CStr
  | .answered =>
    match keys key with
    | some (.string value) => some (value.take (outSize - 1))
    | _ => none
  | _ => none

def idlePerform : (op : IdleOp) → IdleAnswer → IdleState → Option (IdleRet op × IdleState)
  | .fields, .silent, s => some (s.fields, s)
  | .redisGet key outSize, .get answers outcome, s =>
    (exec netPerform (dbRedisEnsureConnected s.redis) answers s.keys).map fun r =>
      (if r.1.1 ≠ 0 then none else getReply r.2 key outSize outcome,
        { s with redis := r.1.2, keys := r.2 })
  | .redisSet key value, .net answers, s =>
    (exec netPerform (dbRedisSet s.redis key value) answers s.keys).map fun r =>
      (r.1.1, { s with redis := r.1.2, keys := r.2, sets := s.sets ++ [(key, value)] })
  | .selectIdle deptKey limitCount, .listing found, s =>
    if Listing s.agents deptKey found then
      some (some ((found.take limitCount.toInt.toNat).map fun row => some row.extension), s)
    else none
  | .selectIdle _ _, .failed, s => some (none, s)
  | _, _, _ => none

/-! ## Section 2: The functions -/

abbrev IdleProg : Type → Type := Prog IdleOp IdleRet

def readFields : IdleProg SyncFields := Prog.op IdleOp.fields

def dbRedisGet (key : CStr) (outSize : Nat) : IdleProg (Option CStr) :=
  Prog.op (IdleOp.redisGet key outSize)

def setKey (key value : CStr) : IdleProg Int := Prog.op (IdleOp.redisSet key value)

def selectIdle (deptKey : CStr) (limitCount : Int32) : IdleProg (Option (List (Option CStr))) :=
  Prog.op (IdleOp.selectIdle deptKey limitCount)

/-- `REDIS_KEY_DEPT_IDLE` -/
def deptIdleKey (deptKey : CStr) : CStr :=
  snprintf dbMaxRedisKeyLen (cstr "dept:idle:" ++ deptKey)

def dbRedisUpdateDeptIdle (deptKey : CStr) (idleCount : Int32) : IdleProg Int :=
  setKey (deptIdleKey deptKey) (snprintf 16 (intText idleCount))

def dbRedisGetDeptIdle (deptKey : CStr) : IdleProg Int32 := do
  let value ← dbRedisGet (deptIdleKey deptKey) 16
  return value.elim (-1) atoi

/-- `sync->cache_enabled && sync->redis` -/
def SyncFields.cacheInUse (sync : SyncFields) : Prop := sync.cacheEnabled ∧ sync.redis

instance (sync : SyncFields) : Decidable sync.cacheInUse := inferInstanceAs (Decidable (_ ∧ _))

/-- `sync->db_enabled && sync->mysql_pool` -/
def SyncFields.dbInUse (sync : SyncFields) : Prop := sync.dbEnabled ∧ sync.mysqlPool

instance (sync : SyncFields) : Decidable sync.dbInUse := inferInstanceAs (Decidable (_ ∧ _))

/-- The first step: the count in the cache, and a negative number if there is none. -/
def cachedIdle (sync : SyncFields) (deptKey : DeptKey) : IdleProg Int32 :=
  if sync.cacheInUse then dbRedisGetDeptIdle deptKey.text else return -1

/-- The second step.  A listing that does not fit `json[2048]` is written over
    the stack. -/
def lookupIdle (sync : SyncFields) (deptKey : DeptKey) : IdleProg (Checked Int32) :=
  if sync.dbInUse then do
    let res ← selectIdle deptKey.text 100
    let (count, calls) := dbMysqlFindIdleAgents res 2048
    if calls.any fun call => ¬ call.Inside 2048 then
      return .error .overflow
    else
      if sync.cacheInUse then
        let _ ← dbRedisUpdateDeptIdle deptKey.text count
      return .ok count
  else
    return .ok (-1)

def dbSyncDeptIdleQuery (deptKey : Option DeptKey) : IdleProg (Checked Int32) :=
  match deptKey with
  | some deptKey => do
    let sync ← readFields
    let idle ← cachedIdle sync deptKey
    if idle ≥ 0 then return .ok idle else lookupIdle sync deptKey
  | none => return .ok (-1)

/-! ## Section 3: Runs without a cached count -/

/-- Whether the lookup in MySQL succeeds. -/
def IdleAnswer.Lookup (succeeds : Bool) : IdleAnswer → Prop
  | .listing _ => succeeds = true
  | .failed => succeeds = false
  | _ => True

/-- The runs of a query alone, with any outcome of the Redis commands. -/
abbrev idleWorld (lookup : Bool) : World IdleOp IdleRet IdleAnswer IdleState :=
  World.alone idlePerform (IdleAnswer.Lookup lookup)

/-- A run in which the first step finds no count. -/
def MissRun (lookup : Bool) (s : IdleState) (deptKey : DeptKey) (r : Checked Int32)
    (t : IdleState) : Prop :=
  ∃ idle u, (idleWorld lookup).Exec (cachedIdle s.fields deptKey) s idle u ∧ ¬ 0 ≤ idle ∧
    (idleWorld lookup).Exec (lookupIdle s.fields deptKey) u r t

variable {lookup : Bool} {s t : IdleState} {deptKey : DeptKey} {r : Checked Int32}

/-- A query answers from the cache, or it is such a run. -/
theorem exec_deptIdleQuery_iff :
    (idleWorld lookup).Exec (dbSyncDeptIdleQuery (some deptKey)) s r t ↔
      (∃ idle, (idleWorld lookup).Exec (cachedIdle s.fields deptKey) s idle t ∧ 0 ≤ idle ∧
        r = .ok idle) ∨ MissRun lookup s deptKey r t := by
  unfold dbSyncDeptIdleQuery
  dsimp only
  constructor
  · intro h
    obtain ⟨ans, sync, u, -, hperf, hrest⟩ := World.exec_op_iff.mp h
    obtain ⟨rfl, rfl⟩ : sync = s.fields ∧ u = s := by
      cases ans with
      | silent =>
        simp only [idleWorld, World.alone, idlePerform, Option.some.injEq, Prod.mk.injEq] at hperf
        exact ⟨hperf.1.symm, hperf.2.symm⟩
      | _ => cases hperf
    obtain ⟨idle, u, hidle, hrest⟩ := World.exec_bind_iff.mp hrest
    by_cases hneg : 0 ≤ idle
    · rw [if_pos hneg] at hrest
      obtain ⟨rfl, rfl⟩ := World.exec_ret_iff.mp hrest
      exact .inl ⟨idle, hidle, hneg, rfl⟩
    · rw [if_neg hneg] at hrest
      exact .inr ⟨idle, u, hidle, hneg, hrest⟩
  · intro h
    apply World.exec_op_iff.mpr
    refine ⟨.silent, s.fields, s, trivial, rfl, World.exec_bind_iff.mpr ?_⟩
    obtain ⟨idle, hidle, hpos, rfl⟩ | ⟨idle, u, hidle, hneg, hrest⟩ := h
    · refine ⟨idle, t, hidle, ?_⟩
      rw [if_pos hpos]
      exact World.Exec.ret _ _
    · refine ⟨idle, u, hidle, ?_⟩
      rw [if_neg hneg]
      exact hrest

/-- Reading the cache changes nothing but the connection. -/
theorem exec_cachedIdle {idle : Int32} {u : IdleState}
    (h : (idleWorld lookup).Exec (cachedIdle s.fields deptKey) s idle u) :
    ∃ ctx, u = { s with redis := ctx } := by
  unfold cachedIdle at h
  split at h
  · obtain ⟨ans, value, v, -, hperf, hret⟩ := World.exec_op_iff.mp h
    obtain ⟨-, rfl⟩ := World.exec_ret_iff.mp hret
    cases ans with
    | get answers outcome =>
      obtain ⟨⟨⟨ret, ctx⟩, keys⟩, hexec, heq⟩ := Option.map_eq_some_iff.mp hperf
      have hkeys : keys = s.keys :=
        exec_spec (keeps_dbRedisEnsureConnected s.redis) rfl (fun _ _ _ _ => trivial) hexec
      obtain ⟨-, rfl⟩ := Prod.mk.inj heq
      refine ⟨ctx, ?_⟩
      rw [hkeys]
    | _ => cases hperf
  · obtain ⟨-, rfl⟩ := World.exec_ret_iff.mp h
    exact ⟨u.redis, rfl⟩

/-! ## Section 4: The lookup -/

/-- The result set of the query, or `none` if it fails. -/
def ResultSet (lookup : Bool) (agents : List DeptAgent) (deptKey : CStr)
    (res : Option (List (Option CStr))) : Prop :=
  (lookup = false ∧ res = none) ∨
    lookup = true ∧ ∃ found, Listing agents deptKey found ∧
      res = some ((found.take 100).map fun row => some row.extension)

/-- What the write back does to the key. -/
def WrittenBack (s : IdleState) (deptKey : CStr) (count : Int32) (t : IdleState) : Prop :=
  if s.fields.cacheInUse then
    t.sets = s.sets ++ [(deptIdleKey deptKey, intText count)] ∧
      (t.keys = s.keys ∨
        t.keys = Function.update s.keys (deptIdleKey deptKey) (some (.string (intText count))))
  else t.sets = s.sets ∧ t.keys = s.keys

theorem exec_writeBack {count : Int32}
    (h : (idleWorld lookup).Exec
      (if s.fields.cacheInUse then do
        let _ ← dbRedisUpdateDeptIdle deptKey.text count
        return .ok count
      else return .ok count) s r t) :
    r = .ok count ∧ WrittenBack s deptKey.text count t := by
  unfold WrittenBack
  split at h
  · next hcache =>
    rw [if_pos hcache]
    obtain ⟨ans, ret, u, -, hperf, hret⟩ := World.exec_op_iff.mp h
    obtain ⟨rfl, rfl⟩ := World.exec_ret_iff.mp hret
    have hfits : snprintf 16 (intText count) = intText count := by
      have hle := length_intText_le count
      exact snprintf_fits (by omega)
    cases ans with
    | net answers =>
      obtain ⟨⟨⟨ret', ctx⟩, keys⟩, hexec, heq⟩ := Option.map_eq_some_iff.mp hperf
      have hkeys := exec_spec (keepsOr_dbRedisSet s.redis _ _) rfl (fun _ _ _ _ => trivial) hexec
      obtain ⟨-, rfl⟩ := Prod.mk.inj heq
      rw [hfits] at hkeys ⊢
      exact ⟨rfl, rfl, hkeys⟩
    | _ => cases hperf
  · next hcache =>
    rw [if_neg hcache]
    obtain ⟨rfl, rfl⟩ := World.exec_ret_iff.mp h
    exact ⟨rfl, rfl, rfl⟩

/-- Everything that the second step can do. -/
theorem exec_lookupIdle (h : (idleWorld lookup).Exec (lookupIdle s.fields deptKey) s r t) :
    (¬ s.fields.dbInUse ∧ r = .ok (-1) ∧ t = s) ∨
      s.fields.dbInUse ∧ ∃ res, ResultSet lookup s.agents deptKey.text res ∧
        ((¬ (∀ call ∈ (dbMysqlFindIdleAgents res 2048).2, call.Inside 2048) ∧
            r = .error .overflow) ∨
          (∀ call ∈ (dbMysqlFindIdleAgents res 2048).2, call.Inside 2048) ∧
            r = .ok (dbMysqlFindIdleAgents res 2048).1 ∧
            WrittenBack s deptKey.text (dbMysqlFindIdleAgents res 2048).1 t) := by
  unfold lookupIdle at h
  split at h
  · next hdb =>
    obtain ⟨ans, res, u, hadm, hperf, hrest⟩ := World.exec_op_iff.mp h
    refine .inr ⟨hdb, res, ?_⟩
    have hres : ResultSet lookup s.agents deptKey.text res ∧ u = s := by
      cases ans with
      | listing found =>
        simp only [idleWorld, World.alone, idlePerform] at hperf
        split at hperf
        · next hlisting =>
          obtain ⟨rfl, rfl⟩ := Prod.mk.inj (Option.some.inj hperf)
          exact ⟨.inr ⟨hadm, found, hlisting, rfl⟩, rfl⟩
        · cases hperf
      | failed =>
        obtain ⟨rfl, rfl⟩ := Prod.mk.inj (Option.some.inj hperf)
        exact ⟨.inl ⟨hadm, rfl⟩, rfl⟩
      | _ => cases hperf
    obtain ⟨hset, rfl⟩ := hres
    refine ⟨hset, ?_⟩
    have hany : ((dbMysqlFindIdleAgents res 2048).2.any fun call => ¬ call.Inside 2048) = true ↔
        ¬ ∀ call ∈ (dbMysqlFindIdleAgents res 2048).2, call.Inside 2048 := by
      simp
    dsimp only at hrest
    split at hrest
    · next hover =>
      obtain ⟨rfl, -⟩ := World.exec_ret_iff.mp hrest
      exact .inl ⟨hany.mp hover, rfl⟩
    · next hinside =>
      exact .inr ⟨not_not.mp (hany.not.mp hinside), exec_writeBack hrest⟩
  · next hdb =>
    obtain ⟨rfl, rfl⟩ := World.exec_ret_iff.mp h
    exact .inl ⟨hdb, rfl, rfl⟩

/-! ## Section 5: The count -/

/-- A successful lookup returns the number of idle agents and stores it; after
    a failed one the answer is -1, and the key is left alone. -/
def Counted (lookup : Bool) (s : IdleState) (deptKey : DeptKey) (r : Checked Int32)
    (t : IdleState) : Prop :=
  if lookup = true ∧ s.fields.dbInUse then
    ∃ n : Int32, r = .ok n ∧ n.toInt = (idleAgents s.agents deptKey.text).length ∧
      WrittenBack s deptKey.text n t
  else r = .ok (-1) ∧ t.sets = s.sets ∧ t.keys = s.keys

/-- The idle agents are at most a hundred and their listing fits its buffer;
    or nothing is looked up, or a failed lookup is not written back. -/
def Countable (lookup : Bool) (s : IdleState) (deptKey : DeptKey) : Prop :=
  if lookup = true ∧ s.fields.dbInUse then
    (idleAgents s.agents deptKey.text).length ≤ 100 ∧
      (jsonArray ((idleAgents s.agents deptKey.text).map fun row => some row.extension)).length ≤
        2048
  else ¬ (s.fields.dbInUse ∧ s.fields.cacheInUse)

instance (lookup : Bool) (s : IdleState) (deptKey : DeptKey) :
    Decidable (Countable lookup s deptKey) := by
  unfold Countable
  infer_instance

theorem toInt_ofNat_small {n : Nat} (hn : n ≤ 100) : (Int32.ofNat n).toInt = n := by
  rw [Int32.toInt_ofNat', Int.bmod_eq_of_le (by simp only [Int32.size]; omega)
    (by simp only [Int32.size]; omega)]

/-- The second step after a successful query. -/
theorem counted_iff_of_listing {found : List DeptAgent}
    (hlisting : Listing s.agents deptKey.text found)
    (hruns : (¬ (∀ call ∈ (dbMysqlFindIdleAgents
          (some ((found.take 100).map fun row => some row.extension)) 2048).2, call.Inside 2048) ∧
          r = .error .overflow) ∨
        (∀ call ∈ (dbMysqlFindIdleAgents
          (some ((found.take 100).map fun row => some row.extension)) 2048).2, call.Inside 2048) ∧
          r = .ok (Int32.ofNat ((found.take 100).map fun row => some row.extension).length) ∧
          WrittenBack s deptKey.text
            (Int32.ofNat ((found.take 100).map fun row => some row.extension).length) t) :
    (∃ n : Int32, r = .ok n ∧ n.toInt = (idleAgents s.agents deptKey.text).length ∧
        WrittenBack s deptKey.text n t) ↔
      (idleAgents s.agents deptKey.text).length ≤ 100 ∧
        (jsonArray ((idleAgents s.agents deptKey.text).map fun row =>
          some row.extension)).length ≤ 2048 := by
  have hlength := hlisting.1.length_eq
  have hbuffer : ((2048 : Int32).toInt) = 2048 := by decide
  have hinside := findIdle_inside_iff ((found.take 100).map fun row => some row.extension) 2048
  rw [hbuffer] at hinside
  -- up to a hundred rows the whole listing is returned
  have hall : found.length ≤ 100 → (jsonArray ((found.take 100).map fun row =>
      some row.extension)).length = (jsonArray ((idleAgents s.agents deptKey.text).map fun row =>
      some row.extension)).length := by
    intro hle
    rw [List.take_of_length_le hle]
    exact length_jsonArray_perm (hlisting.1.map _)
  rw [hinside, List.length_map, List.length_take] at hruns
  constructor
  · rintro ⟨n, rfl, hn, -⟩
    obtain ⟨-, herror⟩ | ⟨hfits, hok, -⟩ := hruns
    · cases herror
    · obtain rfl := Except.ok.inj hok
      rw [toInt_ofNat_small (Nat.min_le_left 100 _)] at hn
      have hle : found.length ≤ 100 := by omega
      rw [hall hle] at hfits
      exact ⟨by omega, by omega⟩
  · rintro ⟨hle, hfits⟩
    rw [← hlength] at hle
    rw [hall hle] at hruns
    obtain ⟨hover, -⟩ | ⟨-, rfl, hwritten⟩ := hruns
    · exact absurd (by omega) hover
    · refine ⟨_, rfl, ?_, hwritten⟩
      rw [toInt_ofNat_small (Nat.min_le_left 100 _)]
      omega

/-- The second step after a failed query: the -1 is written back as well. -/
theorem counted_iff_of_failed (hwritten : WrittenBack s deptKey.text (-1) t) :
    (t.sets = s.sets ∧ t.keys = s.keys) ↔ ¬ s.fields.cacheInUse := by
  unfold WrittenBack at hwritten
  constructor
  · rintro ⟨hsets, -⟩ hcache
    rw [if_pos hcache, hsets] at hwritten
    exact List.cons_ne_nil _ _ (List.self_eq_append_right.mp hwritten.1)
  · intro hcache
    rwa [if_neg hcache] at hwritten

theorem counted_iff (h : (idleWorld lookup).Exec (lookupIdle s.fields deptKey) s r t) :
    Counted lookup s deptKey r t ↔ Countable lookup s deptKey := by
  unfold Counted Countable
  obtain ⟨hdb, rfl, rfl⟩ | ⟨hdb, res, hres, hruns⟩ := exec_lookupIdle h
  · rw [if_neg (fun h => hdb h.2), if_neg (fun h => hdb h.2)]
    exact iff_of_true ⟨rfl, rfl, rfl⟩ fun h => hdb h.1
  · obtain ⟨rfl, rfl⟩ | ⟨rfl, found, hlisting, rfl⟩ := hres
    · rw [if_neg (by simp), if_neg (by simp)]
      obtain ⟨hover, -⟩ | ⟨-, rfl, hwritten⟩ := hruns
      · exact absurd nofun hover
      · have hneg : (dbMysqlFindIdleAgents none 2048).1 = -1 := rfl
        rw [hneg] at hwritten ⊢
        rw [counted_iff_of_failed hwritten]
        simp [hdb]
    · rw [if_pos ⟨rfl, hdb⟩, if_pos ⟨rfl, hdb⟩]
      exact counted_iff_of_listing hlisting hruns

/-- **Without a cached count** the query counts the idle agents, and leaves the
    key alone after a failed lookup, exactly in these states. -/
theorem deptIdle_iff (h : MissRun lookup s deptKey r t) :
    Counted lookup s deptKey r t ↔ Countable lookup s deptKey := by
  obtain ⟨idle, u, hidle, -, hlookup⟩ := h
  obtain ⟨ctx, rfl⟩ := exec_cachedIdle hidle
  exact counted_iff (s := { s with redis := ctx }) hlookup

def salesKey : DeptKey := ⟨cstr "sales", by decide +kernel, by decide +kernel⟩

/-- Both stores are in use, and the cache is empty. -/
def coldState : IdleState where
  fields := ⟨true, true, true, true, true, 0, 30⟩
  redis := ⟨true, [], 0, true, 0, 0⟩
  keys := fun _ => none
  agents := [⟨⟨cstr "2001", some 1, some (cstr "idle"), some 0⟩, cstr "sales", none⟩,
    ⟨⟨cstr "2002", some 1, some (cstr "busy"), some 1⟩, cstr "sales", some 7⟩]
  sets := []

/-- The same after a count was stored. -/
def storedState (count : Int32) : IdleState :=
  { coldState with
    keys := Function.update coldState.keys (deptIdleKey (cstr "sales"))
      (some (.string (snprintf 16 (intText count))))
    sets := [(deptIdleKey (cstr "sales"), snprintf 16 (intText count))] }

/-- A server that answers every command. -/
theorem exec_cachedIdle_cold (lookup : Bool) :
    (idleWorld lookup).Exec (cachedIdle coldState.fields salesKey) coldState (-1) coldState := by
  have hget : exec (idleWorld lookup).perform (cachedIdle coldState.fields salesKey)
      [.get [.outcome .answered] .answered] coldState = some (-1, coldState) := rfl
  refine exec_sound ?_ hget
  intro ans hans s op
  obtain rfl := List.mem_singleton.mp hans
  exact trivial

/-- One of two agents is idle. -/
theorem deptIdle_sales :
    ∃ t, MissRun true coldState salesKey (.ok 1) t ∧ Counted true coldState salesKey (.ok 1) t := by
  have hrun : MissRun true coldState salesKey (.ok 1) (storedState 1) := by
    have hlookup : exec (idleWorld true).perform (lookupIdle coldState.fields salesKey)
        [.listing [⟨⟨cstr "2001", some 1, some (cstr "idle"), some 0⟩, cstr "sales", none⟩],
          .net [.outcome .answered, .outcome .answered]] coldState =
        some (.ok 1, storedState 1) := rfl
    refine ⟨-1, coldState, exec_cachedIdle_cold true, by decide, exec_sound ?_ hlookup⟩
    intro ans hans s op
    rcases List.mem_cons.mp hans with rfl | hans
    · exact rfl
    · obtain rfl := List.mem_singleton.mp hans
      exact trivial
  exact ⟨_, hrun, (deptIdle_iff hrun).mpr (by decide +kernel)⟩

/-- The query fails, and -1 becomes the cached count. -/
theorem deptIdle_failure_cached :
    ¬ ∀ (lookup : Bool) (s t : IdleState) (deptKey : DeptKey) (r : Checked Int32),
      MissRun lookup s deptKey r t → Counted lookup s deptKey r t := by
  intro h
  have hlookup : (idleWorld false).Exec (lookupIdle coldState.fields salesKey) coldState
      (.ok (-1)) (storedState (-1)) := by
    have hfailed : exec (idleWorld false).perform (lookupIdle coldState.fields salesKey)
        [.failed, .net [.outcome .answered, .outcome .answered]] coldState =
        some (.ok (-1), storedState (-1)) := rfl
    refine exec_sound ?_ hfailed
    intro ans hans s op
    rcases List.mem_cons.mp hans with rfl | hans
    · exact rfl
    · obtain rfl := List.mem_singleton.mp hans
      exact trivial
  have hcounted := h false coldState _ salesKey _
    ⟨-1, coldState, exec_cachedIdle_cold false, by decide, hlookup⟩
  rw [counted_iff hlookup] at hcounted
  revert hcounted
  decide +kernel

end DbSync
