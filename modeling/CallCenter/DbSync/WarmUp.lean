import CallCenter.DbSync.Agreement

/-! # The Online Flag and the Warm-Up

    `db_sync_agent_online` writes its flag to `agent:online:<extension>` and
    queues a task for MySQL; the task becomes an UPDATE of the status.  The
    warm-up reads the column `is_online` and writes it to the same keys.

    * `onlineColumn_run`: no step of a run writes the column.
    * `warmupAgents_writes`: what the warm-up leaves in the keys.
    * `warmup_online_iff`: the warm-up restores the flags of a run exactly
      when they were in the column before the run.
    * `warmup_loses_online`: an agent that came online is cached as offline. -/

namespace DbSync

open CFormat Interference Transition DbMysql DbRedis

/-! ## Section 1: Nobody writes the column -/

theorem onlineColumn_onAgents (call : MysqlCall) (t : AgentTable) :
    (call.onAgents t).onlineColumn = t.onlineColumn := by
  cases call with
  | updateAgentStatus ext status calls => exact AgentTable.onlineColumn_update t ext status calls
  | insertCallRecord => rfl
  | updateCallEnd => rfl

theorem agents_onRedis {α : Type} {s t : SyncState} {p : RedisProg (α × RedisContext)}
    {answers : List NetAnswer} {a : α} (h : onRedis s p answers = some (a, t)) :
    t.agents = s.agents := by
  obtain ⟨r, -, heq⟩ := Option.map_eq_some_iff.mp h
  rw [← (Prod.mk.inj heq).2]

/-- The main thread does not write to the table itself. -/
theorem agents_syncPerform {op : SyncOp} {a : SyncAnswer} {s t : SyncState} {r : SyncRet op}
    (h : syncPerform op a s = some (r, t)) : t.agents = s.agents := by
  cases op <;> cases a <;>
    simp only [syncPerform, Option.some.injEq, Prod.mk.injEq, reduceCtorEq] at h
  all_goals first
    | exact agents_onRedis h
    | rw [← h.2]

theorem onlineColumn_envStep {s t : SyncState} {e : EnvStep} (h : envStep s e = some t) :
    t.agents.onlineColumn = s.agents.onlineColumn := by
  cases e with
  | workerPop =>
    obtain ⟨w, -, rfl⟩ := Option.map_eq_some_iff.mp h
    rfl
  | workerFinish endTime executed =>
    simp only [envStep] at h
    split at h
    · next task hpc =>
      rw [← Option.some.inj h]
      dsimp only
      split
      · cases taskOperation endTime task with
        | none => rfl
        | some call => exact onlineColumn_onAgents call s.agents
      · rfl
    · cases h
  | loseKeys gone =>
    rw [← Option.some.inj h]

/-- **Step**: no step of the system writes the column `is_online`. -/
theorem onlineColumn_step {s t : SyncSystem} {l : SyncLabel} (h : syncStep s l = some t) :
    t.state.agents.onlineColumn = s.state.agents.onlineColumn := by
  obtain ⟨state, main⟩ := s
  cases l with
  | start call =>
    cases main with
    | none =>
      rw [← Option.some.inj h]
      unfold SyncCall.record
      split <;> rfl
    | some p => cases h
  | answer a =>
    cases main with
    | none => cases h
    | some p =>
      cases p with
      | ret u => cases h
      | call op k =>
        obtain ⟨r, hperf, rfl⟩ := Option.map_eq_some_iff.mp h
        rw [agents_syncPerform hperf]
  | leave =>
    cases main with
    | none => cases h
    | some p =>
      cases p with
      | ret u => rw [← Option.some.inj h]
      | call op k => cases h
  | env e =>
    obtain ⟨u, henv, rfl⟩ := Option.map_eq_some_iff.mp h
    exact onlineColumn_envStep henv

/-- **Run**: the column is that of the start. -/
theorem onlineColumn_run {s₀ s : SyncSystem} {ls : List SyncLabel}
    (h : Run (ofPartial syncStep) s₀ ls s) :
    s.state.agents.onlineColumn = s₀.state.agents.onlineColumn := by
  induction h with
  | nil => rfl
  | snoc _ hstep ih => rw [onlineColumn_step hstep, ih]

/-! ## Section 2: What the warm-up writes -/

section Reader

variable {K : Keyspace}

theorem reader_redisSet (key value : CStr) :
    reader.Triple (fun s => s.redis.Connected ∧ s.keys = K) (redisSet key value) fun _ s =>
      s.redis.Connected ∧ s.keys = Function.update K key (some (.string value)) := by
  apply World.Triple.call (World.stable_alone _) fun _ s =>
    s.redis.Connected ∧ s.keys = Function.update K key (some (.string value))
  · intro s a r t hs hup hperf
    cases a with
    | net answers =>
      obtain ⟨⟨⟨b, ctx⟩, keys⟩, hexec, heq⟩ := Option.map_eq_some_iff.mp hperf
      obtain ⟨rfl, rfl⟩ := Prod.mk.inj heq
      have hspec := exec_spec (w := networkUp) (up_dbRedisSet hs.1 key value) rfl
        (fun x hx _ _ => hup x hx) hexec
      rw [(Prod.mk.inj hspec.1).2, hspec.2, hs.2]
      exact ⟨hs.1, rfl⟩
    | _ => simp [World.alone, syncPerform] at hperf
  · intro r
    exact World.Triple.ret (World.stable_alone _) fun _ hs => hs

/-- An `HMSET` leaves the other keys alone. -/
theorem reader_redisHmset (key : CStr) (fields : List (CStr × CStr)) :
    reader.Triple (fun s => s.redis.Connected ∧ s.keys = K) (redisHmset key fields) fun _ s =>
      s.redis.Connected ∧ ∀ other, other ≠ key → s.keys other = K other := by
  apply World.Triple.call (World.stable_alone _) fun _ s =>
    s.redis.Connected ∧ ∀ other, other ≠ key → s.keys other = K other
  · intro s a r t hs hup hperf
    cases a with
    | net answers =>
      obtain ⟨⟨⟨b, ctx⟩, keys⟩, hexec, heq⟩ := Option.map_eq_some_iff.mp hperf
      obtain ⟨rfl, rfl⟩ := Prod.mk.inj heq
      have hspec := exec_spec (w := networkUp) (up_dbRedisHmset hs.1 key fields) rfl
        (fun x hx _ _ => hup x hx) hexec
      have hctx : ctx = s.redis := hspec.1
      refine ⟨hctx ▸ hs.1, ?_⟩
      intro other hne
      rw [← hs.2]
      rcases hspec.2 with hsame | hset
      · rw [hsame]
      · rw [hset]
        exact hmset_ne fields hne
    | _ => simp [World.alone, syncPerform] at hperf
  · intro r
    exact World.Triple.ret (World.stable_alone _) fun _ hs => hs

/-- The text that the warm-up writes for a row. -/
def onlineText (row : AgentTexts) : CStr :=
  snprintf 8 (intText ((row.isOnline.map atoi).getD 0))

/-- The rows already done have their flag in the cache. -/
def FlagsCached (done : List AgentTexts) (s : SyncState) : Prop :=
  s.redis.Connected ∧
    ∀ row ∈ done, s.keys (agentOnlineKey row.extension) = some (.string (onlineText row))

/-- One round of the loop; no row done so far has the key of this one. -/
theorem reader_warmupAgent {done : List AgentTexts} {row : AgentTexts}
    (hnew : ∀ other ∈ done, agentOnlineKey other.extension ≠ agentOnlineKey row.extension) :
    reader.Triple (FlagsCached done) (warmupAgent row) fun _ => FlagsCached (done ++ [row]) := by
  intro s hs
  apply World.Triple.bind (R := fun _ t => FlagsCached done t) _ _ s hs
  · -- the hash of the agent
    apply World.Triple.op (World.stable_alone _) fun _ => FlagsCached done
    · intro t a r u ht _ hperf
      cases a with
      | now n =>
        obtain ⟨-, rfl⟩ := Prod.mk.inj (Option.some.inj hperf)
        exact ht
      | _ => simp [World.alone, syncPerform] at hperf
    · intro now t ht
      refine World.wp_mono ?_ (reader_redisHmset _ _ t ⟨ht.1, rfl⟩)
      intro _ u hu
      refine ⟨hu.1, ?_⟩
      intro other hmem
      rw [hu.2 _ (agentStatusKey_ne_online _ _).symm]
      exact ht.2 other hmem
  · intro _ t ht
    apply World.wp_bind
    refine World.wp_mono ?_ (reader_redisSet _ _ t ⟨ht.1, rfl⟩)
    intro _ u hu
    refine World.Triple.ret (P := fun v => v = u) (World.stable_alone _) ?_ u rfl
    rintro _ rfl
    refine ⟨hu.1, ?_⟩
    intro other hmem
    rw [hu.2]
    rcases List.mem_append.mp hmem with hdone | hrow
    · rw [Function.update_of_ne (hnew other hdone)]
      exact ht.2 other hdone
    · obtain rfl := List.mem_singleton.mp hrow
      rw [Function.update_self]
      rfl

/-- The warm-up at work on rows with different keys. -/
theorem reader_warmupAgents {s : SyncState} (hup : s.fields.Up)
    (hcache : s.fields.cacheEnabled = true) (hconn : s.redis.Connected)
    (hkeys : (s.agents.rows.map fun row => agentOnlineKey row.extension).Nodup) :
    reader.Triple (fun t => t = s) dbSyncCacheWarmupAgents fun _ t =>
      FlagsCached (s.agents.rows.map agentTexts) t := by
  apply reader_getFields fun t ht => congrArg SyncState.fields ht
  rw [if_neg (by simp [hup.dbEnabled, hup.mysqlPool, hup.redis, hcache])]
  apply World.Triple.op (World.stable_alone _) fun r t =>
    t = s ∧ r = some (s.agents.rows.map agentTexts)
  · intro t a r u ht hans hperf
    cases a with
    | ok b =>
      obtain rfl : b = true := hans
      obtain ⟨rfl, rfl⟩ := Prod.mk.inj (Option.some.inj hperf)
      rw [ht]
      exact ⟨rfl, rfl⟩
    | _ => simp [World.alone, syncPerform] at hperf
  · intro res
    apply World.Triple.of_fact
    rintro rfl
    refine World.Triple.bind (R := fun _ => FlagsCached (s.agents.rows.map agentTexts)) ?_ ?_
    · apply World.Triple.conseq (World.Triple.forM FlagsCached (World.stable_alone _) ?_) ?_
        fun _ _ ht => ht
      · intro done row rest hsplit
        apply reader_warmupAgent
        intro other hother heq
        -- two rows with one key
        have hnd : ((done ++ row :: rest).map fun r => agentOnlineKey r.extension).Nodup := by
          rw [← hsplit, List.map_map]
          exact hkeys
        rw [List.map_append, List.nodup_append] at hnd
        exact hnd.2.2 _ (List.mem_map_of_mem hother) _ (List.mem_map_of_mem List.mem_cons_self) heq
      · rintro t rfl
        exact ⟨hconn, by simp⟩
    · intro _
      exact World.Triple.ret (World.stable_alone _) fun _ ht => ht

end Reader

/-! ## Section 3: The flags of a run -/

theorem agentOnlineKey_inj {e e' : CStr} (hlen : e.length ≤ 64)
    (h : agentOnlineKey e = agentOnlineKey e') : e = e' := by
  apply snprintf_append_inj _ h
  have hfront : (cstr "agent:online:").length = 13 := by decide
  rw [List.length_append, hfront, dbMaxRedisKeyLen]
  omega

/-- A flag of the column is not cut. -/
theorem onlineText_agentTexts {t : AgentTable} (hdecl : t.Declared) {row : AgentRow}
    (hrow : row ∈ t.rows) : onlineText (agentTexts row) = intText (row.isOnline.getD 0) := by
  have hbounds := (hdecl row.extension row.isOnline (List.mem_map_of_mem hrow)).2
  have hread : ((agentTexts row).isOnline.map atoi).getD 0 = row.isOnline.getD 0 := by
    cases hon : row.isOnline with
    | none => simp [agentTexts, hon]
    | some v => simp [agentTexts, hon, atoi_intText]
  unfold onlineText
  rw [hread]
  apply snprintf_fits
  have hsmall : (row.isOnline.getD 0).toInt.natAbs < 10 ^ 3 := by
    cases hon : row.isOnline with
    | none => simp
    | some v =>
      obtain ⟨hlo, hhi⟩ := hbounds v hon
      rw [Option.getD_some]
      omega
  have hlen := length_natText_le (by omega) hsmall
  unfold intText
  split
  · rw [List.length_cons]
    omega
  · omega

/-- **Warm-up**: every row's key holds the flag of the column. -/
theorem warmupAgents_writes {s t : SyncState} {r : Int} (hdecl : s.agents.Declared)
    (hup : s.fields.Up) (hcache : s.fields.cacheEnabled = true) (hconn : s.redis.Connected)
    (hexec : reader.Exec dbSyncCacheWarmupAgents s r t) {row : AgentRow}
    (hrow : row ∈ s.agents.rows) :
    t.keys (agentOnlineKey row.extension) = some (.string (intText (row.isOnline.getD 0))) := by
  have hkeys : (s.agents.rows.map fun row => agentOnlineKey row.extension).Nodup := by
    have hrows := List.Nodup.of_map _ s.agents.unique
    have hinj := (List.nodup_map_iff_inj_on hrows).mp s.agents.unique
    rw [List.nodup_map_iff_inj_on hrows]
    intro a ha b hb heq
    have hlen := (hdecl a.extension a.isOnline (List.mem_map_of_mem ha)).1
    exact hinj a ha b hb (agentOnlineKey_inj hlen heq)
  have hcached := hexec.wp (reader_warmupAgents hup hcache hconn hkeys s rfl)
  rw [← onlineText_agentTexts hdecl hrow]
  exact hcached.2 (agentTexts row) (List.mem_map_of_mem hrow)

/-- After a run, every row's key holds the flag that the column had at the
    start of the run. -/
theorem warmupAgents_writes_start {s₀ : SyncState} {ls : List SyncLabel} {s : SyncSystem}
    {t : SyncState} {r : Int} (hdecl : s₀.agents.Declared)
    (hrun : Run (ofPartial syncStep) ⟨s₀, none⟩ ls s) (hup : s.state.fields.Up)
    (hcache : s.state.fields.cacheEnabled = true) (hconn : s.state.redis.Connected)
    (hexec : reader.Exec dbSyncCacheWarmupAgents s.state r t) {row : AgentRow}
    (hrow : row ∈ s₀.agents.rows) :
    t.keys (agentOnlineKey row.extension) = some (.string (intText (row.isOnline.getD 0))) := by
  have hcolumn := onlineColumn_run hrun
  have hdecl' : s.state.agents.Declared := by
    unfold AgentTable.Declared
    rw [hcolumn]
    exact hdecl
  have hmem : (row.extension, row.isOnline) ∈ s.state.agents.onlineColumn := by
    rw [hcolumn]
    exact List.mem_map_of_mem hrow
  obtain ⟨row', hrow', heq⟩ := List.mem_map.mp hmem
  have hkey := warmupAgents_writes hdecl' hup hcache hconn hexec hrow'
  rw [(Prod.mk.inj heq).1, (Prod.mk.inj heq).2] at hkey
  exact hkey

/-- The flag most recently passed to `db_sync_agent_online` for the extension. -/
def lastOnline (extension : CStr) (ls : List SyncLabel) : Option Int32 :=
  ls.foldl (fun last l =>
    match l with
    | .start (.agentOnline (some e) isOnline) => if e = extension then some isOnline else last
    | _ => last) none

/-- Every row that was the subject of a `db_sync_agent_online` has its last
    flag in the cache. -/
def OnlineRestored (ls : List SyncLabel) (s t : SyncState) : Prop :=
  ∀ e v, s.agents.HasRow e → lastOnline e ls = some v →
    t.keys (agentOnlineKey e) = some (.string (intText v))

/-- **The flags after a warm-up.**  Whatever was called before, the warm-up
    ends, and it leaves the last flags of all rows in the cache if and only
    if they were in the column `is_online` from the start. -/
theorem warmup_online_iff {s₀ : SyncState} {ls : List SyncLabel} {s : SyncSystem}
    (hdecl : s₀.agents.Declared) (hrun : Run (ofPartial syncStep) ⟨s₀, none⟩ ls s)
    (hup : s.state.fields.Up) (hcache : s.state.fields.cacheEnabled = true)
    (hconn : s.state.redis.Connected) :
    (∃ r t, reader.Exec dbSyncCacheWarmupAgents s.state r t) ∧
      ∀ r t, reader.Exec dbSyncCacheWarmupAgents s.state r t →
        (OnlineRestored ls s.state t ↔
          ∀ row ∈ s₀.agents.rows, ∀ v, lastOnline row.extension ls = some v →
            row.isOnline.getD 0 = v) := by
  refine ⟨exists_reader _ _, ?_⟩
  intro r t hexec
  have hcolumn := onlineColumn_run hrun
  have hwritten : ∀ row ∈ s₀.agents.rows,
      t.keys (agentOnlineKey row.extension) = some (.string (intText (row.isOnline.getD 0))) :=
    fun row hrow => warmupAgents_writes_start hdecl hrun hup hcache hconn hexec hrow
  constructor
  · intro hrestored row hrow v hlast
    have hhas : s.state.agents.HasRow row.extension := by
      rw [AgentTable.hasRow_iff_onlineColumn, hcolumn]
      exact ⟨row.isOnline, List.mem_map_of_mem hrow⟩
    have hkey := hrestored row.extension v hhas hlast
    rw [hwritten row hrow] at hkey
    exact intText_inj (RedisValue.string.inj (Option.some.inj hkey))
  · intro hbefore e v hhas hlast
    rw [AgentTable.hasRow_iff_onlineColumn, hcolumn] at hhas
    obtain ⟨isOnline, hmem⟩ := hhas
    obtain ⟨row, hrow, heq⟩ := List.mem_map.mp hmem
    obtain ⟨rfl, rfl⟩ := Prod.mk.inj heq
    rw [hwritten row hrow, hbefore row hrow v hlast]

/-! ## Section 4: One agent -/

/-- An agent reports its flag, and the task is worked off. -/
def flagRun (isOnline : Int32) : List SyncLabel :=
  [.start (.agentOnline (some (cstr "2001")) isOnline), .answer .silent,
    .answer (.net [.outcome .answered, .outcome .answered]), .answer (.ok true), .answer .silent,
    .leave, .env .workerPop, .env (.workerFinish [] true)]

theorem declared_idleAgent : idleAgent.agents.Declared := by
  intro extension isOnline hmem
  obtain ⟨rfl, rfl⟩ : extension = cstr "2001" ∧ isOnline = some 1 := by
    simpa [idleAgent, AgentTable.onlineColumn] using hmem
  refine ⟨by decide, ?_⟩
  rintro v ⟨⟩
  decide

/-- The theorem at an agent whose flag is in the column already. -/
theorem warmup_online_same :
    ∃ s, Run (ofPartial syncStep) ⟨idleAgent, none⟩ (flagRun 1) s ∧
      ∀ r t, reader.Exec dbSyncCacheWarmupAgents s.state r t →
        OnlineRestored (flagRun 1) s.state t := by
  have hrun : Run (ofPartial syncStep) ⟨idleAgent, none⟩ (flagRun 1) _ :=
    .cons rfl <| .cons rfl <| .cons rfl <| .cons rfl <| .cons rfl <| .cons rfl <| .cons rfl <|
      .cons rfl <| .nil _
  refine ⟨_, hrun, ?_⟩
  intro r t hexec
  refine ((warmup_online_iff declared_idleAgent hrun ⟨rfl, rfl, rfl, rfl⟩ rfl ⟨rfl, rfl⟩).2 r t
    hexec).mpr ?_
  intro row hrow v hlast
  obtain rfl := List.mem_singleton.mp hrow
  have hflag : lastOnline (cstr "2001") (flagRun 1) = some 1 := by decide
  exact Option.some.inj (hflag.symm.trans hlast)

/-- The two update calls, both stores up and room in the queue. -/
def updatesGuard : SyncGuard where
  call _ call :=
    match call with
    | .agentStatusChange _ _ _ => True
    | .agentOnline _ _ => True
    | _ => False
  answer s op a :=
    match op with
    | .queuePush _ => s.worker.queue.tasks.length < dbQueueMaxSize
    | _ => StoresUp a
  env := EnvStep.Nominal

/-- Once the worker has nothing left to do, a warm-up restores the flags. -/
def WarmUpRestoresOnline : Prop :=
  ∀ (s₀ : SyncState) (ls : List SyncLabel) (s : SyncSystem), s₀.fields.Up →
    s₀.fields.cacheEnabled = true → s₀.redis.Connected → s₀.worker.pending = [] →
    s₀.agents.Declared → Run (restrict (ofPartial syncStep) updatesGuard.admits) ⟨s₀, none⟩ ls s →
    s.main = none → s.state.worker.pending = [] →
    ∀ r t, reader.Exec dbSyncCacheWarmupAgents s.state r t → OnlineRestored ls s.state t

/-- An agent goes offline; after the warm-up it is online again. -/
theorem warmup_loses_online : ¬ WarmUpRestoresOnline := by
  intro h
  have hrun : Run (restrict (ofPartial syncStep) updatesGuard.admits) ⟨idleAgent, none⟩
      (flagRun 0) _ :=
    .cons ⟨trivial, rfl⟩ <| .cons ⟨trivial, rfl⟩ <| .cons ⟨up_answeredTwice, rfl⟩ <|
      .cons ⟨rfl, rfl⟩ <| .cons ⟨pos_dbQueueMaxSize, rfl⟩ <| .cons ⟨trivial, rfl⟩ <|
      .cons ⟨trivial, rfl⟩ <| .cons ⟨rfl, rfl⟩ <| .nil _
  obtain ⟨r, t, hexec⟩ := exists_reader dbSyncCacheWarmupAgents _
  have hflag : lastOnline (cstr "2001") (flagRun 0) = some 0 := by decide
  have hkey := h idleAgent (flagRun 0) _ up_idleAgent rfl ⟨rfl, rfl⟩ rfl declared_idleAgent hrun
    rfl rfl r t hexec (cstr "2001") 0 (by decide) hflag
  have hwritten := warmupAgents_writes_start declared_idleAgent hrun.of_restrict
    ⟨rfl, rfl, rfl, rfl⟩ rfl ⟨rfl, rfl⟩ hexec List.mem_cons_self
  rw [hkey] at hwritten
  have hsame : (0 : Int32) = 1 := intText_inj (RedisValue.string.inj (Option.some.inj hwritten))
  exact absurd hsame (by decide)

end DbSync
