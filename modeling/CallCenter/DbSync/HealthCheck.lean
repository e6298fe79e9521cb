import CallCenter.DbSync.Sync

/-! # One Warm-Up for Each Recovery

    `db_sync_health_check` reacts twice to a Redis connection that is back:
    where it is found again, and in the comparison at the end.

    * `healthCheckReport`: the check, with a record of what the clock, the
      pool and Redis answered and of how often it warms the cache up.
    * `check_outcome`: what one check does, from any fields and under any
      answers.
    * `warmedOnce_iff`: the checks of a run warm the cache up once for each
      recovery, and otherwise not, only if there is no recovery in it.
    * `warmup_repeated`: a check that warms the cache up twice. -/

namespace DbSync

open CFormat Interference Transition DbMysql DbRedis

/-! ## Section 1: A check that reports -/

/-- What the code met and did in one check. -/
structure CheckReport where
  ret : Int
  now : Int
  /-- The result of `db_mysql_pool_health`, if it was called. -/
  health : Option Int
  /-- The result of `db_redis_ensure_connected`, if it was called. -/
  ensured : Option Int
  /-- The calls of `db_sync_cache_warmup_all`. -/
  warmups : Nat
  deriving DecidableEq, Repr

/-- A warm-up that counts. -/
def countedWarmup : SyncProg Nat := do
  let _ ← dbSyncCacheWarmupAll
  return 1

/-- `checkMysql` -/
def mysqlReport : SyncProg (Option Int) := do
  let sync ← getFields
  if sync.mysqlPool ∧ sync.dbEnabled then
    let health ← poolHealth
    if health ≤ 0 then setDbEnabled false
    return some health
  else if sync.mysqlPool ∧ !sync.dbEnabled then
    let health ← poolHealth
    if health > 0 then setDbEnabled true
    return some health
  else
    return none

/-- `checkRedis` -/
def redisReport (sync : SyncFields) : SyncProg (Option Int × Nat) := do
  if sync.redis ∧ sync.cacheEnabled then
    let ret ← redisPing
    if ret ≠ 0 then setCacheEnabled false
    return (none, 0)
  else if sync.redis ∧ !sync.cacheEnabled then
    let ret ← redisEnsureConnected
    if ret = 0 then
      setCacheEnabled true
      if sync.dbEnabled then
        let warmups ← countedWarmup
        return (some ret, warmups)
      else
        return (some ret, 0)
    else
      return (some ret, 0)
  else
    return (none, 0)

/-- `warmupRecovered` -/
def recoveredReport (before after : SyncFields) : SyncProg Nat :=
  if !before.cacheEnabled ∧ after.cacheEnabled ∧ after.dbEnabled then countedWarmup else return 0

/-- `dbSyncHealthCheck` -/
def healthCheckReport : SyncProg CheckReport := do
  let now ← timeNow
  let sync ← getFields
  if now - sync.lastHealthCheck < sync.healthCheckIntervalSec then
    return ⟨healthResult sync, now, none, none, 0⟩
  else
    setLastHealthCheck now
    let health ← mysqlReport
    let before ← getFields
    let redis ← redisReport before
    let after ← getFields
    let warmups ← recoveredReport before after
    return ⟨healthResult after, now, health, redis.1, redis.2 + warmups⟩

/-! ### The reports add nothing to the check -/

theorem mysqlReport_checkMysql : (mysqlReport >>= fun _ => pure ()) = checkMysql := by
  unfold mysqlReport checkMysql
  rw [bind_assoc]
  congr 1
  funext sync
  split
  · rw [bind_assoc]
    congr 1
    funext health
    split <;> rfl
  · split
    · rw [bind_assoc]
      congr 1
      funext health
      split <;> rfl
    · rfl

theorem redisReport_checkRedis (sync : SyncFields) :
    (redisReport sync >>= fun _ => pure ()) = checkRedis sync := by
  unfold redisReport checkRedis
  split
  · rw [bind_assoc]
    congr 1
    funext ret
    split <;> rfl
  · split
    · rw [bind_assoc]
      congr 1
      funext ret
      split
      · rw [bind_assoc]
        congr 1
        funext _
        split
        · simp only [countedWarmup, bind_assoc, pure_bind]
        · rfl
      · rfl
    · rfl

theorem recoveredReport_warmupRecovered (before after : SyncFields) :
    (recoveredReport before after >>= fun _ => pure ()) = warmupRecovered before after := by
  unfold recoveredReport warmupRecovered
  split
  · simp only [countedWarmup, bind_assoc, pure_bind]
  · rfl

/-- The report belongs to the check: what it returns is what the check returns. -/
theorem healthCheckReport_ret :
    (healthCheckReport >>= fun report => pure report.ret) = dbSyncHealthCheck := by
  unfold healthCheckReport dbSyncHealthCheck
  simp only [← mysqlReport_checkMysql, ← redisReport_checkRedis,
    ← recoveredReport_warmupRecovered, bind_assoc, pure_bind]
  congr 1
  funext now
  congr 1
  funext sync
  split
  · rfl
  · simp only [bind_assoc, pure_bind]

/-! ## Section 2: What a check does to the fields

    Only the health check writes the fields, so the rules follow them alone. -/

/-- A check under any answers. -/
abbrev checker : World SyncOp SyncRet SyncAnswer SyncState := World.alone syncPerform fun _ => True

def FieldsAre (F : SyncFields) (s : SyncState) : Prop := s.fields = F

/-- The operations that set no field. -/
def SyncOp.SetsNone : SyncOp → Prop
  | .setDbEnabled _ => False
  | .setCacheEnabled _ => False
  | .setLastHealthCheck _ => False
  | _ => True

theorem fields_onRedis {α : Type} {s t : SyncState} {p : RedisProg (α × RedisContext)}
    {answers : List NetAnswer} {a : α} (h : onRedis s p answers = some (a, t)) :
    t.fields = s.fields := by
  obtain ⟨r, -, heq⟩ := Option.map_eq_some_iff.mp h
  obtain ⟨-, rfl⟩ := Prod.mk.inj heq
  rfl

theorem fields_syncPerform {op : SyncOp} {a : SyncAnswer} {s t : SyncState} {r : SyncRet op}
    (hop : op.SetsNone) (h : syncPerform op a s = some (r, t)) : t.fields = s.fields := by
  unfold syncPerform at h
  split at h
  -- the calls into `db_redis.c`, then the other operations
  all_goals first
    | exact fields_onRedis h
    | exact hop.elim
    | grind

section Rules

variable {α β : Type} {F G : SyncFields} {Q : α → SyncState → Prop}

/-- An operation without a result that turns the fields `F` into `G`. -/
theorem triple_set {op : SyncOp} {k : SyncRet op → SyncProg α}
    (hop : ∀ s a r t, s.fields = F → syncPerform op a s = some (r, t) → t.fields = G)
    (hk : ∀ r, checker.Triple (FieldsAre G) (k r) Q) :
    checker.Triple (FieldsAre F) (Prog.op op >>= k) Q := by
  apply World.Triple.op (World.stable_alone _) fun _ => FieldsAre G
  · intro s a r t hs _ hperf
    exact hop s a r t hs hperf
  · exact hk

theorem triple_writeDbEnabled {v : Bool} {k : Unit → SyncProg α}
    (hk : checker.Triple (FieldsAre { F with dbEnabled := v }) (k ()) Q) :
    checker.Triple (FieldsAre F) (setDbEnabled v >>= k) Q := by
  refine triple_set ?_ fun _ => hk
  rintro s a r t rfl hperf
  cases a <;> simp_all [syncPerform]
  rw [← hperf]

theorem triple_writeCacheEnabled {v : Bool} {k : Unit → SyncProg α}
    (hk : checker.Triple (FieldsAre { F with cacheEnabled := v }) (k ()) Q) :
    checker.Triple (FieldsAre F) (setCacheEnabled v >>= k) Q := by
  refine triple_set ?_ fun _ => hk
  rintro s a r t rfl hperf
  cases a <;> simp_all [syncPerform]
  rw [← hperf]

theorem triple_writeLastHealthCheck {now : Int} {k : Unit → SyncProg α}
    (hk : checker.Triple (FieldsAre { F with lastHealthCheck := now }) (k ()) Q) :
    checker.Triple (FieldsAre F) (setLastHealthCheck now >>= k) Q := by
  refine triple_set ?_ fun _ => hk
  rintro s a r t rfl hperf
  cases a <;> simp_all [syncPerform]
  rw [← hperf]

/-- Reading the fields. -/
theorem triple_readFields {k : SyncFields → SyncProg α}
    (hk : checker.Triple (FieldsAre F) (k F) Q) :
    checker.Triple (FieldsAre F) (getFields >>= k) Q := by
  apply World.Triple.op (World.stable_alone _) fun r s => FieldsAre F s ∧ r = F
  · intro s a r t hs _ hperf
    cases a with
    | silent =>
      obtain ⟨rfl, rfl⟩ := Prod.mk.inj (Option.some.inj hperf)
      exact ⟨hs, hs⟩
    | _ => simp [World.alone, syncPerform] at hperf
  · intro r
    apply World.Triple.of_fact
    rintro rfl
    exact hk

theorem triple_return {a : α} (h : ∀ s, s.fields = F → Q a s) :
    checker.Triple (FieldsAre F) (pure a) Q :=
  World.Triple.ret (World.stable_alone _) h

theorem triple_seq {M : α → SyncState → Prop} {S : β → SyncState → Prop} {p : SyncProg α}
    {f : α → SyncProg β} (hp : checker.Triple (FieldsAre F) p M)
    (hf : ∀ a, checker.Triple (M a) (f a) S) : checker.Triple (FieldsAre F) (p >>= f) S :=
  World.Triple.bind hp hf

end Rules

/-! ### The warm-up sets no field -/

variable {F : SyncFields}

/-- Programs that leave the fields as they find them. -/
def KeepsFields {α : Type} (p : SyncProg α) : Prop :=
  ∀ F, checker.Triple (FieldsAre F) p fun _ => FieldsAre F

section Keeps

variable {α β : Type}

theorem KeepsFields.pure (a : α) : KeepsFields (pure a : SyncProg α) := by
  intro F
  exact triple_return fun _ hs => hs

theorem KeepsFields.op {op : SyncOp} (hop : op.SetsNone) : KeepsFields (Prog.op op) := by
  intro F
  apply World.Triple.op (World.stable_alone _) fun _ => FieldsAre F
  · intro s a r t hs _ hperf
    exact (fields_syncPerform hop hperf).trans hs
  · exact fun _ => triple_return fun _ hs => hs

theorem KeepsFields.bind {p : SyncProg α} {f : α → SyncProg β} (hp : KeepsFields p)
    (hf : ∀ a, KeepsFields (f a)) : KeepsFields (p >>= f) := by
  intro F
  exact triple_seq (hp F) fun a => hf a F

theorem KeepsFields.ite {c : Prop} [Decidable c] {p p' : SyncProg α} (hp : KeepsFields p)
    (hp' : KeepsFields p') : KeepsFields (if c then p else p') := by
  split
  · exact hp
  · exact hp'

theorem KeepsFields.forM {xs : List α} {f : α → SyncProg PUnit}
    (hf : ∀ x, KeepsFields (f x)) : KeepsFields (xs.forM f) := by
  intro F
  apply World.Triple.forM (fun _ => FieldsAre F) (World.stable_alone _)
  intro _ x _ _
  exact hf x F

/-- What follows finds the fields as they were. -/
theorem KeepsFields.triple {p : SyncProg α} {f : α → SyncProg β} {Q : β → SyncState → Prop}
    (hp : KeepsFields p) (hf : ∀ a, checker.Triple (FieldsAre F) (f a) Q) :
    checker.Triple (FieldsAre F) (p >>= f) Q :=
  triple_seq (hp F) hf

end Keeps

theorem keepsFields_cacheDeptConfig (deptKey configJson : CStr) :
    KeepsFields (dbRedisCacheDeptConfig deptKey configJson) :=
  KeepsFields.op trivial

theorem keepsFields_cacheAgentOnline (extension : CStr) (isOnline : Int32) :
    KeepsFields (dbRedisCacheAgentOnline extension isOnline) :=
  KeepsFields.op trivial

theorem keepsFields_cacheAgentStatus (extension status : CStr) (concurrentCalls : Int32) :
    KeepsFields (dbRedisCacheAgentStatus extension status concurrentCalls) := by
  refine KeepsFields.bind (KeepsFields.op trivial) fun now => ?_
  exact KeepsFields.op trivial

theorem keepsFields_warmupDepts : KeepsFields dbSyncCacheWarmupDepts := by
  refine KeepsFields.bind (KeepsFields.op trivial) fun sync => ?_
  apply KeepsFields.ite (KeepsFields.pure _)
  refine KeepsFields.bind (KeepsFields.op trivial) fun res => ?_
  cases res with
  | none => exact KeepsFields.pure _
  | some rows =>
    apply KeepsFields.bind
    · apply KeepsFields.forM
      intro row
      exact (keepsFields_cacheDeptConfig _ _).bind fun _ => KeepsFields.pure _
    · exact fun _ => KeepsFields.pure _

theorem keepsFields_warmupAgent (row : AgentTexts) : KeepsFields (warmupAgent row) := by
  apply (keepsFields_cacheAgentStatus _ _ _).bind
  intro _
  exact (keepsFields_cacheAgentOnline _ _).bind fun _ => KeepsFields.pure _

theorem keepsFields_warmupAgents : KeepsFields dbSyncCacheWarmupAgents := by
  refine KeepsFields.bind (KeepsFields.op trivial) fun sync => ?_
  apply KeepsFields.ite (KeepsFields.pure _)
  refine KeepsFields.bind (KeepsFields.op trivial) fun res => ?_
  cases res with
  | none => exact KeepsFields.pure _
  | some rows => exact (KeepsFields.forM keepsFields_warmupAgent).bind fun _ => KeepsFields.pure _

theorem keepsFields_warmupAll : KeepsFields dbSyncCacheWarmupAll := by
  refine KeepsFields.bind (KeepsFields.op trivial) fun sync => ?_
  apply KeepsFields.ite (KeepsFields.pure _)
  apply keepsFields_warmupDepts.bind
  intro _
  exact keepsFields_warmupAgents.bind fun _ => KeepsFields.pure _

theorem triple_countedWarmup :
    checker.Triple (FieldsAre F) countedWarmup fun n s => s.fields = F ∧ n = 1 := by
  apply triple_seq (keepsFields_warmupAll F)
  intro _
  exact triple_return fun _ hs => ⟨hs, rfl⟩

/-! ## Section 3: One check -/

/-- `db_enabled` after the MySQL part: the result of `db_mysql_pool_health`
    decides, if it was called. -/
def SyncFields.dbAfter (F : SyncFields) : Option Int → Bool
  | some health => 0 < health
  | none => F.dbEnabled

theorem triple_mysqlReport :
    checker.Triple (FieldsAre F) mysqlReport fun health s =>
      s.fields = { F with dbEnabled := F.dbAfter health } := by
  apply triple_readFields
  -- `db_enabled` is as `db_mysql_pool_health` says, unless it is written
  have hset : ∀ (v : Bool) (health : Int), (0 < health ↔ v = true) →
      checker.Triple (FieldsAre F) (setDbEnabled v >>= fun _ => pure (some health))
        fun health s => s.fields = { F with dbEnabled := F.dbAfter health } := by
    intro v health hv
    apply triple_writeDbEnabled
    refine triple_return fun s hs => ?_
    rw [hs]
    simp [SyncFields.dbAfter, hv]
  have hsame : ∀ health : Option Int, F.dbAfter health = F.dbEnabled →
      checker.Triple (FieldsAre F) (pure health)
        fun health s => s.fields = { F with dbEnabled := F.dbAfter health } := by
    intro health hdb
    refine triple_return fun s hs => ?_
    rw [hs, hdb]
  split
  · next hcond =>
    refine KeepsFields.triple (KeepsFields.op trivial) fun health => ?_
    split
    · next hhealth => exact hset false health (by simp; omega)
    · next hhealth => exact hsame _ (by simp [SyncFields.dbAfter, hcond.2]; omega)
  · split
    · next hcond =>
      refine KeepsFields.triple (KeepsFields.op trivial) fun health => ?_
      split
      · next hhealth => exact hset true health (by simp; omega)
      · next hhealth =>
        have hoff : F.dbEnabled = false := by simpa using hcond.2
        exact hsame _ (by simp [SyncFields.dbAfter, hoff]; omega)
    · exact hsame none rfl

/-- What the Redis part does to the fields `F`. -/
inductive RedisOutcome (F : SyncFields) : Option Int × Nat → SyncFields → Prop where
  /-- The connection is back. -/
  | recovered (hredis : F.redis = true) (hoff : F.cacheEnabled = false) :
      RedisOutcome F (some 0, if F.dbEnabled then 1 else 0) { F with cacheEnabled := true }
  /-- It is not, or it was not asked for. -/
  | other {ensured : Option Int} {v : Bool} (hensured : ensured ≠ some 0)
      (hv : v = true → F.cacheEnabled = true) :
      RedisOutcome F (ensured, 0) { F with cacheEnabled := v }

theorem triple_redisReport :
    checker.Triple (FieldsAre F) (redisReport F) fun r s => RedisOutcome F r s.fields := by
  -- without a recovery the cache is as before
  have hsame : ∀ ensured : Option Int, ensured ≠ some 0 →
      checker.Triple (FieldsAre F) (pure (ensured, 0)) fun r s => RedisOutcome F r s.fields := by
    intro ensured hensured
    refine triple_return fun s hs => ?_
    rw [hs]
    exact RedisOutcome.other hensured id
  unfold redisReport
  split
  · refine KeepsFields.triple (KeepsFields.op trivial) fun ret => ?_
    split
    · apply triple_writeCacheEnabled
      refine triple_return fun s hs => ?_
      rw [hs]
      exact RedisOutcome.other (by simp) (by simp)
    · exact hsame none (by simp)
  · split
    · next hcond =>
      have hoff : F.cacheEnabled = false := by simpa using hcond.2
      refine KeepsFields.triple (KeepsFields.op trivial) fun ret => ?_
      split
      · next hret =>
        subst hret
        have hrec := RedisOutcome.recovered hcond.1 hoff
        apply triple_writeCacheEnabled
        split
        · next hdb =>
          apply triple_seq triple_countedWarmup
          rintro n s ⟨hs, rfl⟩
          refine triple_return (fun t ht => ?_) s hs
          rw [ht]
          simpa [hdb] using hrec
        · next hdb =>
          refine triple_return fun s hs => ?_
          rw [hs]
          simpa [hdb] using hrec
      · next hret => exact hsame _ (by simpa using hret)
    · exact hsame none (by simp)

theorem triple_recoveredReport (before : SyncFields) :
    checker.Triple (FieldsAre F) (recoveredReport before F) fun n s =>
      s.fields = F ∧
        n = if before.cacheEnabled = false ∧ F.cacheEnabled = true ∧ F.dbEnabled = true then 1
          else 0 := by
  unfold recoveredReport
  simp only [Bool.not_eq_true']
  split
  · exact triple_countedWarmup
  · exact triple_return fun _ hs => ⟨hs, rfl⟩

/-- A check between the fields it finds and those it leaves. -/
structure Check where
  before : SyncFields
  after : SyncFields
  report : CheckReport
  deriving DecidableEq, Repr

namespace Check

/-- `cache_enabled` goes from 0 to 1 while `db_enabled` is 1. -/
def TurnsOn (c : Check) : Prop :=
  c.before.cacheEnabled = false ∧ c.after.cacheEnabled = true ∧ c.after.dbEnabled = true

instance (c : Check) : Decidable c.TurnsOn := inferInstanceAs (Decidable (_ ∧ _ ∧ _))

/-- One warm-up if the cache comes back, and otherwise none. -/
def WarmedOnce (c : Check) : Prop := c.report.warmups = if c.TurnsOn then 1 else 0

/-- The check is due, and `db_redis_ensure_connected` returns 0 for a cache
    that was disabled, with MySQL enabled by then. -/
structure Recovers (c : Check) : Prop where
  due : c.before.healthCheckIntervalSec ≤ c.report.now - c.before.lastHealthCheck
  redis : c.before.redis = true
  off : c.before.cacheEnabled = false
  ensured : c.report.ensured = some 0
  mysql : c.before.dbAfter c.report.health = true

/-- What a check does: the cache comes back just by a recovery, and is then
    warmed up twice. -/
structure Outcome (c : Check) : Prop where
  turnsOn_iff : c.TurnsOn ↔ c.Recovers
  warmups_eq : c.report.warmups = if c.TurnsOn then 2 else 0

theorem Outcome.once_iff {c : Check} (h : c.Outcome) : c.WarmedOnce ↔ ¬ c.Recovers := by
  rw [WarmedOnce, h.warmups_eq, ← h.turnsOn_iff]
  split
  · next hon => simp [hon]
  · next hoff => simp [hoff]

end Check

/-- The Redis part and the comparison after it, in a check that is due. -/
theorem outcome_of_redisOutcome {F G : SyncFields} {ret now : Int} {health : Option Int}
    {redis : Option Int × Nat}
    (hdue : F.healthCheckIntervalSec ≤ now - F.lastHealthCheck)
    (hredis : RedisOutcome { F with lastHealthCheck := now, dbEnabled := F.dbAfter health }
      redis G) :
    Check.Outcome ⟨F, G, ⟨ret, now, health, redis.1, redis.2 +
      if F.cacheEnabled = false ∧ G.cacheEnabled = true ∧ G.dbEnabled = true then 1 else 0⟩⟩ := by
  cases hredis with
  | recovered hredis hoff =>
    have hoff' : F.cacheEnabled = false := hoff
    constructor
    · constructor
      · rintro ⟨-, -, hdb⟩
        exact ⟨hdue, hredis, hoff', rfl, hdb⟩
      · intro hrec
        exact ⟨hoff', rfl, hrec.mysql⟩
    · -- the Redis part and the comparison ask for the same `db_enabled`
      by_cases hdb : F.dbAfter health = true <;> simp [Check.TurnsOn, hoff', hdb]
  | @other ensured v hensured hv =>
    have hsame : ¬ (F.cacheEnabled = false ∧ v = true ∧ F.dbAfter health = true) := by
      rintro ⟨hoff, hon, -⟩
      have hbefore : F.cacheEnabled = true := hv hon
      simp [hoff] at hbefore
    constructor
    · constructor
      · exact fun hon => absurd hon hsame
      · exact fun hrec => absurd hrec.ensured hensured
    · dsimp only
      rw [if_neg hsame]
      exact (if_neg hsame).symm

/-- **One check**: a recovery is warmed up twice, and nothing else at all. -/
theorem triple_healthCheckReport :
    checker.Triple (FieldsAre F) healthCheckReport fun report s =>
      Check.Outcome ⟨F, s.fields, report⟩ := by
  refine KeepsFields.triple (KeepsFields.op trivial) fun now => ?_
  apply triple_readFields
  split
  · next hearly =>
    refine triple_return fun s hs => ?_
    rw [hs]
    have hsame : ¬ Check.TurnsOn ⟨F, F, ⟨healthResult F, now, none, none, 0⟩⟩ := by
      rintro ⟨hoff, hon, -⟩
      exact absurd hon (by simpa using hoff)
    constructor
    · constructor
      · exact fun hon => absurd hon hsame
      · rintro ⟨hdue, -⟩
        exact absurd hearly (by simpa using hdue)
    · rw [if_neg hsame]
  · next hdue =>
    apply triple_writeLastHealthCheck
    apply triple_seq triple_mysqlReport
    intro health
    apply triple_readFields
    apply triple_seq triple_redisReport
    intro redis s hredis
    refine triple_readFields ?_ s rfl
    apply triple_seq (triple_recoveredReport _)
    rintro n t ⟨ht, rfl⟩
    refine triple_return (fun u hu => ?_) t ht
    rw [hu]
    exact outcome_of_redisOutcome (by omega) hredis

/-! ## Section 4: Every sequence of checks -/

/-- A check, and whatever happens before the next one: other calls, the
    worker and the stores leave the fields alone. -/
def healthStep (s : SyncState) (c : Check) (t : SyncState) : Prop :=
  ∃ u, checker.Exec healthCheckReport s c.report u ∧ c.before = s.fields ∧
    c.after = u.fields ∧ t.fields = u.fields

theorem check_outcome {s t : SyncState} {c : Check} (h : healthStep s c t) : c.Outcome := by
  obtain ⟨u, hexec, hbefore, hafter, -⟩ := h
  obtain ⟨before, after, report⟩ := c
  obtain rfl : before = s.fields := hbefore
  obtain rfl : after = u.fields := hafter
  exact hexec.wp (triple_healthCheckReport s rfl)

theorem run_outcome {s₀ s : SyncState} {checks : List Check} (hrun : Run healthStep s₀ checks s) :
    ∀ c ∈ checks, c.Outcome := by
  induction hrun with
  | nil => simp
  | snoc _ hstep ih =>
    intro c hc
    rcases List.mem_append.mp hc with hold | hnew
    · exact ih c hold
    · obtain rfl := List.mem_singleton.mp hnew
      exact check_outcome hstep

/-- **Warm-ups of a run.**  Over every sequence of checks, under any clock and
    any answers of the pool and of Redis, each check warms the cache up once
    if `cache_enabled` goes from 0 to 1 with `db_enabled` 1, and otherwise
    not, just if no check is a recovery: a recovery is warmed up twice. -/
theorem warmedOnce_iff {s₀ s : SyncState} {checks : List Check}
    (hrun : Run healthStep s₀ checks s) :
    (∀ c ∈ checks, c.WarmedOnce) ↔ ∀ c ∈ checks, ¬ c.Recovers := by
  have houtcome := run_outcome hrun
  constructor
  · intro h c hc
    exact (houtcome c hc).once_iff.mp (h c hc)
  · intro h c hc
    exact (houtcome c hc).once_iff.mpr (h c hc)

/-- Both stores configured and reachable, and nothing in them. -/
def emptyStores (cacheEnabled : Bool) : SyncState where
  fields := ⟨true, true, true, true, cacheEnabled, 0, 15⟩
  redis := ⟨true, [], 0, true, 0, 0⟩
  keys := fun _ => none
  departments := []
  agents := ⟨[], by simp⟩
  worker := ⟨⟨[], false⟩, .popping⟩
  last := fun _ => none

/-- A computed check is a step. -/
theorem healthStep_of_exec (answers : List SyncAnswer) {s t : SyncState} {report : CheckReport}
    (h : exec syncPerform healthCheckReport answers s = some (report, t)) :
    healthStep s ⟨s.fields, t.fields, report⟩ t :=
  ⟨t, exec_sound (fun _ _ _ _ => trivial) h, rfl, rfl, rfl⟩

/-- The check after 20 seconds finds the connection lost, with no answer to
    its `PING`. -/
theorem warmedOnce_iff_lost :
    ∃ s checks, checks.map (fun c => c.after.cacheEnabled) = [false] ∧
      Run healthStep (emptyStores true) checks s ∧
      ((∀ c ∈ checks, c.WarmedOnce) ↔ ∀ c ∈ checks, ¬ c.Recovers) := by
  have hrun : Run healthStep (emptyStores true) [_] _ := Run.single <|
    healthStep_of_exec [.now 20, .silent, .silent, .silent, .health 1, .silent,
      .net [.outcome (.lost false)], .silent, .silent] rfl
  exact ⟨_, _, rfl, hrun, warmedOnce_iff hrun⟩

/-- Redis answers again, MySQL being up all the time: the check warms the
    cache up where it finds the connection, and once more at its end. -/
theorem warmup_repeated : ¬ ∀ (s₀ : SyncState) (checks : List Check) (s : SyncState),
    Run healthStep s₀ checks s → ∀ c ∈ checks, c.WarmedOnce := by
  intro h
  have hstep : healthStep (emptyStores false) _ _ :=
    healthStep_of_exec [.now 20, .silent, .silent, .silent, .health 1, .silent,
      .net [.outcome .answered], .silent, .silent, .silent, .ok true, .silent, .ok true, .silent,
      .silent, .silent, .ok true, .silent, .ok true] rfl
  have honce := h _ _ _ (Run.single hstep) _ List.mem_cons_self
  revert honce
  unfold Check.WarmedOnce
  decide

end DbSync
