import CallCenter.DbSync.AgentCache

/-! # Both Stores Tell the Same

    `db_sync_agent_status_change` writes an agent's status to Redis at once
    and to MySQL through the queue; `db_sync_agent_online` sends a status to
    MySQL only.

    * `query_agrees`: in runs where every `db_sync_agent_online` finds the
      agent's hash absent or already as the worker will make the row, an
      empty queue means that a query answers from Redis what it would answer
      from MySQL.
    * `online_diverges`: without that condition it does not. -/

namespace DbSync

open CFormat Interference Transition DbMysql DbRedis

/-! ## Section 1: What a query returns -/

/-- Both stores answer. -/
def StoresUp : SyncAnswer → Prop
  | .ok b => b = true
  | .net answers => ∀ x ∈ answers, x.Up
  | _ => True

/-- A reader that nobody interferes with. -/
abbrev reader : World SyncOp SyncRet SyncAnswer SyncState := World.alone syncPerform StoresUp

/-- `status_out` and `concurrent_calls_out` for a pair. -/
def pairOut (room : Option Nat) (callsOut : Bool) (pair : CStr × Int32) :
    Option CStr × Option Int32 :=
  (room.map pair.1.take, if callsOut then some pair.2 else none)

/-- The part of the state that a query reads. -/
structure ReadFrom (K : Keyspace) (A : AgentTable) (ctx : RedisContext) (s : SyncState) :
    Prop where
  keys : s.keys = K
  agents : s.agents = A
  redis : s.redis = ctx

variable {α : Type} {Q : α → SyncState → Prop} {K : Keyspace} {A : AgentTable}

/-- One `HGET`. -/
theorem reader_redisHget {ctx : RedisContext} {key field : CStr} {outSize : Nat}
    {f : Option CStr → SyncProg α}
    (hf : ∀ r ctx', FoundIn K key field outSize ctx (r, ctx') →
      reader.Triple (ReadFrom K A ctx') (f r) Q) :
    reader.Triple (ReadFrom K A ctx) (redisHget key field outSize >>= f) Q := by
  apply World.Triple.op (World.stable_alone _) fun r s =>
    (s.keys = K ∧ s.agents = A) ∧ FoundIn K key field outSize ctx (r, s.redis)
  · intro s a r t hs hup hperf
    obtain ⟨hkeys, hagents, hctx⟩ := hs
    cases a with
    | net answers =>
      obtain ⟨⟨⟨b, ctx'⟩, keys⟩, hexec, heq⟩ := Option.map_eq_some_iff.mp hperf
      obtain ⟨rfl, rfl⟩ := Prod.mk.inj heq
      have hspec := exec_spec (w := networkUp) (up_dbRedisHget s.redis key field outSize) rfl
        (fun x hx _ _ => hup x hx) hexec
      rw [hkeys, hctx] at hspec
      exact ⟨⟨hspec.1, hagents⟩, hspec.2⟩
    | _ => simp [World.alone, syncPerform] at hperf
  · intro r s hs
    exact hf r s.redis hs.2 s ⟨hs.1.1, hs.1.2, rfl⟩

/-- A hit in Redis returns the pair of the hash. -/
theorem reader_getAgentStatus (ctx : RedisContext) (extension : CStr) (room : Option Nat)
    (callsOut : Bool) :
    reader.Triple (ReadFrom K A ctx) (dbRedisGetAgentStatus extension room callsOut)
      fun out s => s.agents = A ∧
        ∀ o, out = some o → ∃ h pair, K (agentStatusKey extension) = some (.hash h) ∧
          hashPair h = some pair ∧ o = pairOut room callsOut pair := by
  apply reader_redisHget
  intro status ctx' hfound
  cases status with
  | none =>
    refine World.Triple.ret (World.stable_alone _) fun s hs => ⟨hs.agents, fun o ho => ?_⟩
    simp at ho
  | some status =>
    obtain ⟨hstatus, hconn⟩ := hfound.1.resolve_left (by simp)
    obtain ⟨w, hstored, rfl⟩ := Option.map_eq_some_iff.mp hstatus.symm
    -- the status was found, so there is a hash and the context is connected
    obtain ⟨h, hkey, hfield⟩ : ∃ h, K (agentStatusKey extension) = some (.hash h) ∧
        h (cstr "status") = some w := by
      rcases hkey : K (agentStatusKey extension) with _ | _ | h
      · simp [storedField, hkey] at hstored
      · simp [storedField, hkey] at hstored
      · exact ⟨h, rfl, by simpa [storedField, hkey] using hstored⟩
    dsimp only
    split
    · next hcalls =>
      apply reader_redisHget
      intro calls ctx'' hfound'
      refine World.Triple.ret (World.stable_alone _) fun s hs => ⟨hs.agents, fun o ho => ?_⟩
      have hread : calls = (h (cstr "concurrent_calls")).map (List.take 15) := by
        have hread := hfound'.2 hconn
        simpa [storedField, hkey] using hread
      refine ⟨h, _, hkey, by rw [hashPair, hfield]; rfl, ?_⟩
      obtain rfl := Option.some.inj ho
      simp [pairOut, hcalls, hread, Option.map_map, Function.comp_def]
    · next hcalls =>
      refine World.Triple.ret (World.stable_alone _) fun s hs => ⟨hs.agents, fun o ho => ?_⟩
      refine ⟨h, _, hkey, by rw [hashPair, hfield]; rfl, ?_⟩
      obtain rfl := Option.some.inj ho
      simp [pairOut, hcalls]

/-- The MySQL path returns the pair of the row. -/
theorem reader_queryMysql {F : SyncFields} (hup : F.Up) (extension : CStr)
    (room : Option Nat) (callsOut : Bool) :
    reader.Triple (fun s => s.agents = A) (queryMysql F extension room callsOut) fun r _ =>
      (r.status, r.calls) = pairOut room callsOut (A.agentPair extension) := by
  unfold queryMysql
  rw [if_pos ⟨hup.dbEnabled, hup.mysqlPool⟩]
  apply World.Triple.op (World.stable_alone _) fun r _ =>
    r = some ((A.find extension).map statusRow)
  · intro s a r t hs hans hperf
    cases a with
    | ok b =>
      obtain rfl : b = true := hans
      obtain ⟨hr, -⟩ := Prod.mk.inj (Option.some.inj hperf)
      rw [← hr, hs]
      rfl
    | _ => simp [World.alone, syncPerform] at hperf
  · intro r s hr
    rw [hr]
    apply World.wp_bind
    refine World.wp_mono ?_ World.wp_true
    intro _ t _ u _
    rfl

/-- A program begins by looking at the fields. -/
theorem reader_getFields {F : SyncFields} {P : SyncState → Prop} {k : SyncFields → SyncProg α}
    (hP : ∀ s, P s → s.fields = F) (hk : reader.Triple P (k F) Q) :
    reader.Triple P (getFields >>= k) Q := by
  apply World.Triple.op (World.stable_alone _) fun r s => P s ∧ r = F
  · intro s a r t hs _ hperf
    cases a with
    | silent =>
      obtain ⟨rfl, rfl⟩ := Prod.mk.inj (Option.some.inj hperf)
      exact ⟨hs, hP _ hs⟩
    | _ => simp [World.alone, syncPerform] at hperf
  · intro sync
    apply World.Triple.of_fact
    rintro rfl
    exact hk

/-- The whole query, when the hashes present hold the pairs of the rows. -/
theorem reader_query {F : SyncFields} (hup : F.Up) (extension : CStr)
    (room : Option Nat) (callsOut : Bool)
    (hagree : F.cacheEnabled = true → HashHolds K extension (A.agentPair extension)) :
    reader.Triple (fun s => s.fields = F ∧ s.keys = K ∧ s.agents = A)
      (dbSyncAgentStatusQuery (some extension) room callsOut) fun r _ =>
        (r.status, r.calls) = pairOut room callsOut (A.agentPair extension) := by
  apply reader_getFields fun s hs => hs.1
  split
  · next hcond =>
    intro s hs
    apply World.wp_bind
    refine World.wp_mono ?_
      (reader_getAgentStatus s.redis extension room callsOut s ⟨hs.2.1, hs.2.2, rfl⟩)
    intro out t ht
    cases out with
    | none => exact reader_queryMysql hup extension room callsOut t ht.1
    | some o =>
      intro u _
      obtain ⟨h, pair, hkey, hpair, ho⟩ := ht.2 o rfl
      have hsame : pair = A.agentPair extension := by
        have hholds := hagree hcond.1 h hkey
        exact Option.some.inj (hpair.symm.trans hholds)
      rw [← hsame, ← ho]
  · refine World.Triple.conseq (reader_queryMysql hup extension room callsOut) ?_
      fun _ _ hs => hs
    intro s hs
    exact hs.2.2

/-- A server that answers can execute every program of the client. -/
theorem exists_onRedis (p : RedisProg (α × RedisContext)) (s : SyncState) :
    ∃ answers r t, (∀ x ∈ answers, x.Up) ∧ onRedis s p answers = some (r, t) := by
  have htotal : ∀ keys op, ∃ ans r keys', networkUp.admits keys op ans ∧
      networkUp.perform op ans keys = some (r, keys') := by
    intro keys op
    cases op with
    | time => exact ⟨.now 0, 0, keys, trivial, rfl⟩
    | connect => exact ⟨.connected true, true, keys, rfl, rfl⟩
    | command c => exact ⟨.outcome .answered, _, _, rfl, rfl⟩
  obtain ⟨r, keys, hexec⟩ := networkUp.exists_exec htotal p s.keys
  obtain ⟨answers, hup, hrun⟩ := exec_complete (fun _ _ _ h => h) hexec
  refine ⟨answers, r.1, { s with redis := r.2, keys := keys }, hup, ?_⟩
  have hrun' : exec netPerform p answers s.keys = some (r, keys) := hrun
  rw [onRedis, hrun']
  rfl

/-- With both stores up every call returns. -/
theorem exists_reader (p : SyncProg α) (s : SyncState) : ∃ r t, reader.Exec p s r t := by
  apply World.exists_exec
  intro s op
  cases op with
  | fields => exact ⟨.silent, _, _, trivial, rfl⟩
  | setDbEnabled v => exact ⟨.silent, _, _, trivial, rfl⟩
  | setCacheEnabled v => exact ⟨.silent, _, _, trivial, rfl⟩
  | setLastHealthCheck t => exact ⟨.silent, _, _, trivial, rfl⟩
  | time => exact ⟨.now 0, _, _, trivial, rfl⟩
  | alloc => exact ⟨.ok true, _, _, rfl, rfl⟩
  | queuePush task => exact ⟨.silent, _, _, trivial, rfl⟩
  | poolHealth => exact ⟨.health 1, _, _, trivial, rfl⟩
  | selectAgent extension => exact ⟨.ok true, _, _, rfl, rfl⟩
  | selectDepartments => exact ⟨.ok true, _, _, rfl, rfl⟩
  | selectAgents => exact ⟨.ok true, _, _, rfl, rfl⟩
  | redisPing =>
    obtain ⟨answers, r, t, hup, hrun⟩ := exists_onRedis (dbRedisPing s.redis) s
    exact ⟨.net answers, r, t, hup, hrun⟩
  | redisEnsureConnected =>
    obtain ⟨answers, r, t, hup, hrun⟩ := exists_onRedis (dbRedisEnsureConnected s.redis) s
    exact ⟨.net answers, r, t, hup, hrun⟩
  | redisSet key value =>
    obtain ⟨answers, r, t, hup, hrun⟩ := exists_onRedis (dbRedisSet s.redis key value) s
    exact ⟨.net answers, r, t, hup, hrun⟩
  | redisHget key field outSize =>
    obtain ⟨answers, r, t, hup, hrun⟩ := exists_onRedis (dbRedisHget s.redis key field outSize) s
    exact ⟨.net answers, r, t, hup, hrun⟩
  | redisHmset key fields =>
    obtain ⟨answers, r, t, hup, hrun⟩ := exists_onRedis (dbRedisHmset s.redis key fields) s
    exact ⟨.net answers, r, t, hup, hrun⟩

/-! ## Section 2: Runs of the two update calls -/

/-- The pair that the worker writes for `db_sync_agent_online`. -/
def onlinePair (isOnline : Int32) : CStr × Int32 :=
  (if isOnline ≠ 0 then cstr "idle" else cstr "offline", 0)

/-- The two update calls, for texts that the queue's format carries; a status
    change names a row of the table and a status of its ENUM. -/
def UpdateCall (s : SyncState) : SyncCall → Prop
  | .agentStatusChange (some extension) (some status) _ =>
    Required 31 extension ∧ Required 31 status ∧ s.agents.HasRow extension ∧
      status ∈ agentStatusNames
  | .agentOnline (some extension) _ => Required 31 extension
  | .agentStatusChange _ _ _ => True
  | .agentOnline _ _ => True
  | _ => False

/-- The agent's hash is absent or already as the worker will make the row. -/
def OnlineMatches (s : SyncState) : SyncCall → Prop
  | .agentOnline (some extension) isOnline =>
    s.agents.HasRow extension → HashHolds s.keys extension (onlinePair isOnline)
  | _ => True

def agreementGuard : SyncGuard where
  call s call := UpdateCall s call ∧ OnlineMatches s call
  answer := Nominal
  env := EnvStep.Nominal

theorem nominal_agreementGuard : agreementGuard.Nominal where
  answer _ _ _ h := h
  env _ h := h

/-- The hashes present hold the pairs of the drained rows. -/
structure Agree (F : SyncFields) (s : SyncState) : Prop where
  fields_eq : s.fields = F
  holds : ∀ e, HashHolds s.keys e ((drain s.agents s.worker).agentPair e)

variable {F : SyncFields} {L : CStr → Option (CStr × Int32)} {R : CStr → Prop} {T : Target}

/-- The target that the drained table itself is. -/
def drainedTarget (s : SyncState) : Target :=
  fun e => some ((drain s.agents s.worker).agentPair e)

theorem agree_of_holds {s : SyncState} (hcache : F.cacheEnabled = true)
    (htotal : ∀ e, (T e).isSome)
    (h : Holds F L R T (fun _ => True) (fun _ => F.cacheEnabled = true) s) : Agree F s where
  fields_eq := h.fields_eq
  holds e := by
    obtain ⟨pair, hT⟩ := Option.isSome_iff_exists.mp (htotal e)
    rw [h.drained e pair hT trivial]
    exact h.cached e pair hT hcache

theorem stable_agree (hup : F.Up) : agreementGuard.world.Stable (Agree F) := by
  intro s t hothers h
  obtain ⟨e, he, hstep⟩ := hothers
  have hdb : s.fields.dbEnabled = true := by rw [h.fields_eq, hup.dbEnabled]
  have hq := quiet_envStep hdb he hstep
  refine ⟨hq.fields.trans h.fields_eq, ?_⟩
  intro extension
  rw [hq.drained]
  exact (h.holds extension).mono hq.keys

/-- The pairs after a status change. -/
def statusTarget (s : SyncState) (extension status : CStr) (calls : Int32) : Target :=
  Function.update (drainedTarget s) extension (some (status, calls))

/-- The pairs after `db_sync_agent_online`: the row's pair becomes the one
    written for the status; without a row nothing changes. -/
def onlineTarget (s : SyncState) (extension : CStr) (isOnline : Int32) : Target := fun e =>
  if e = extension ∧ s.agents.HasRow extension then some (onlinePair isOnline)
  else drainedTarget s e

section Targets

variable {s : SyncState} {extension status e : CStr} {calls isOnline : Int32}
  {pair : CStr × Int32}

theorem statusTarget_self : statusTarget s extension status calls extension =
    some (status, calls) := Function.update_self _ _ _

theorem statusTarget_of_ne (he : e ≠ extension) :
    statusTarget s extension status calls e = drainedTarget s e := Function.update_of_ne he _ _

theorem statusTarget_isSome : (statusTarget s extension status calls e).isSome := by
  by_cases he : e = extension
  · rw [he, statusTarget_self]
    rfl
  · rw [statusTarget_of_ne he]
    rfl

theorem onlineTarget_of_changes (he : e = extension ∧ s.agents.HasRow extension) :
    onlineTarget s extension isOnline e = some (onlinePair isOnline) := if_pos he

theorem onlineTarget_of_not (he : ¬ (e = extension ∧ s.agents.HasRow extension)) :
    onlineTarget s extension isOnline e = drainedTarget s e := if_neg he

theorem onlineTarget_isSome : (onlineTarget s extension isOnline e).isSome := by
  by_cases he : e = extension ∧ s.agents.HasRow extension
  · rw [onlineTarget_of_changes he]
    rfl
  · rw [onlineTarget_of_not he]
    rfl

theorem drainedTarget_eq (h : drainedTarget s e = some pair) :
    (drain s.agents s.worker).agentPair e = pair := Option.some.inj h

end Targets

theorem agree_agentStatusChange (hup : F.Up) (hcache : F.cacheEnabled = true)
    (extension status : CStr) (calls : Int32) :
    agreementGuard.Call (Agree F) (.agentStatusChange (some extension) (some status) calls) := by
  intro s hs hcall
  obtain ⟨⟨hext, hstatus, hrow, hname⟩, -⟩ := hcall
  let call : SyncCall := .agentStatusChange (some extension) (some status) calls
  have hstart : Holds F (call.record s).last s.agents.HasRow
      (statusTarget s extension status calls) (fun e => e ≠ extension)
      (fun e => e ≠ extension ∧ F.cacheEnabled = true) (call.record s) := by
    refine ⟨hs.fields_eq, rfl, fun _ => Iff.rfl, ?_, ?_⟩
    · intro e pair hT he
      rw [statusTarget_of_ne he] at hT
      exact drainedTarget_eq hT
    · intro e pair hT he
      rw [statusTarget_of_ne he.1] at hT
      rw [← drainedTarget_eq hT]
      exact hs.holds e
  have hpair : ∀ pair, statusTarget s extension status calls extension = some pair →
      pair = (status, calls) ∧ s.agents.HasRow extension ∧ status ∈ agentStatusNames := by
    intro pair hT
    rw [statusTarget_self] at hT
    exact ⟨(Option.some.inj hT).symm, hrow, hname⟩
  have hprog := triple_discard nominal_agreementGuard hup
    (triple_agentStatusChange (L := (call.record s).last) nominal_agreementGuard hup hext hstatus
      hpair)
  exact World.wp_mono (fun _ _ h => agree_of_holds hcache (fun _ => statusTarget_isSome) h)
    (hprog _ hstart)

/-- The task of `db_sync_agent_online` makes the pairs the new ones. -/
theorem applyTask_onlineTarget {s : SyncState} {extension : CStr} {isOnline : Int32}
    (hext : Required 31 extension) {table : AgentTable}
    (hrows : ∀ e, table.HasRow e ↔ s.agents.HasRow e)
    (hdrained : ∀ e pair, onlineTarget s extension isOnline e = some pair →
      ¬ (e = extension ∧ s.agents.HasRow extension) → table.agentPair e = pair)
    {e : CStr} {pair : CStr × Int32} (hT : onlineTarget s extension isOnline e = some pair) :
    (applyTask table (packAgentOnline extension isOnline)).agentPair e = pair := by
  rw [applyTask_packAgentOnline hext]
  by_cases he : e = extension ∧ s.agents.HasRow extension
  · rw [onlineTarget_of_changes he] at hT
    obtain ⟨rfl, hrow⟩ := he
    rw [← Option.some.inj hT]
    refine AgentTable.agentPair_update_self ((hrows e).mpr hrow) ?_
    split <;> decide
  · have hkept : (dbMysqlUpdateAgentStatus table extension
        (if isOnline ≠ 0 then cstr "idle" else cstr "offline") 0).agentPair e =
        table.agentPair e := by
      by_cases hrow : s.agents.HasRow extension
      · exact AgentTable.agentPair_update_ne fun h => he ⟨h, hrow⟩
      · exact AgentTable.agentPair_update_of_not_hasRow fun h => hrow ((hrows _).mp h)
    rw [hkept]
    exact hdrained e pair hT he

/-- The call leads from the old pairs to the new ones. -/
theorem triple_onlineTarget (hup : F.Up) (s : SyncState) {extension : CStr}
    (hext : Required 31 extension) (isOnline : Int32) :
    agreementGuard.world.Triple
      (Holds F s.last s.agents.HasRow (onlineTarget s extension isOnline)
        (fun e => ¬ (e = extension ∧ s.agents.HasRow extension)) fun _ => F.cacheEnabled = true)
      (dbSyncAgentOnline (some extension) isOnline)
      fun _ => Holds F s.last s.agents.HasRow (onlineTarget s extension isOnline) (fun _ => True)
        fun _ => F.cacheEnabled = true := by
  apply triple_getFields nominal_agreementGuard hup
  apply triple_bind
  · apply triple_whenCached nominal_agreementGuard hup
    · intro _
      exact triple_cacheAgentOnline nominal_agreementGuard hup extension isOnline
    · exact fun _ _ h => h
  · intro _
    apply triple_bind (triple_whenPersisted nominal_agreementGuard hup
      fun table hrows hdrained e pair hT _ => applyTask_onlineTarget hext hrows hdrained hT)
    intro _
    exact triple_pure nominal_agreementGuard hup _

theorem agree_agentOnline (hup : F.Up) (hcache : F.cacheEnabled = true) (extension : CStr)
    (isOnline : Int32) :
    agreementGuard.Call (Agree F) (.agentOnline (some extension) isOnline) := by
  intro s hs hcall
  obtain ⟨hext, hmatch⟩ := hcall
  have hstart : Holds F s.last s.agents.HasRow (onlineTarget s extension isOnline)
      (fun e => ¬ (e = extension ∧ s.agents.HasRow extension))
      (fun _ => F.cacheEnabled = true) s := by
    refine ⟨hs.fields_eq, rfl, fun _ => Iff.rfl, ?_, ?_⟩
    · intro e pair hT he
      rw [onlineTarget_of_not he] at hT
      exact drainedTarget_eq hT
    · intro e pair hT _
      by_cases he : e = extension ∧ s.agents.HasRow extension
      · rw [onlineTarget_of_changes he] at hT
        rw [← Option.some.inj hT, he.1]
        exact hmatch he.2
      · rw [onlineTarget_of_not he] at hT
        rw [← drainedTarget_eq hT]
        exact hs.holds e
  have hprog := triple_discard nominal_agreementGuard hup
    (triple_onlineTarget hup s hext isOnline)
  exact World.wp_mono (fun _ _ h => agree_of_holds hcache (fun _ => onlineTarget_isSome) h)
    (hprog _ hstart)

/-- **Step**: each call that meets the condition keeps the agreement. -/
theorem agree_call (hup : F.Up) (hcache : F.cacheEnabled = true) (call : SyncCall) :
    agreementGuard.Call (Agree F) call := by
  cases call with
  | agentStatusChange extension newStatus calls =>
    cases extension with
    | none =>
      intro s hs _ t hst
      exact (stable_agree hup).later hst hs
    | some extension =>
      cases newStatus with
      | none =>
        intro s hs _ t hst
        exact (stable_agree hup).later hst hs
      | some status => exact agree_agentStatusChange hup hcache extension status calls
  | agentOnline extension isOnline =>
    cases extension with
    | none =>
      intro s hs _ t hst
      exact (stable_agree hup).later hst hs
    | some extension => exact agree_agentOnline hup hcache extension isOnline
  | agentStatusQuery extension room callsOut =>
    intro s _ hcall
    exact hcall.1.elim
  | healthCheck =>
    intro s _ hcall
    exact hcall.1.elim

/-! ## Section 3: Queries at an empty queue -/

/-- The worker has executed the task in its hand. -/
def settled (s : SyncState) : SyncState :=
  { s with agents := s.worker.pc.inHand.foldl applyTask s.agents }

/-- The state in which a query goes to MySQL. -/
def withoutCache (s : SyncState) : SyncState :=
  { s with fields := { s.fields with cacheEnabled := false } }

theorem drain_of_empty {s : SyncState} (hempty : s.worker.queue.tasks = []) :
    drain s.agents s.worker = (settled s).agents := by
  simp [drain, WorkerState.pending, hempty, settled]

/-- **Agreement of the stores.**  Both stores are up and agree at the start;
    then `db_sync_agent_status_change` and `db_sync_agent_online` are called
    in any order and interleaved with the worker, every
    `db_sync_agent_online` meeting `OnlineMatches`.  Whenever the queue is
    empty and no call is in progress, a query that hits in Redis returns
    what MySQL returns once the worker has finished the task in its hand;
    with no task in its hand, the whole query returns the same with the
    cache as without. -/
theorem query_agrees {s₀ : SyncState} {ls : List SyncLabel} {s : SyncSystem}
    (hup : s₀.fields.Up) (hcache : s₀.fields.cacheEnabled = true)
    (hidle : s₀.worker.pending = [])
    (hagree : ∀ e, HashHolds s₀.keys e (s₀.agents.agentPair e))
    (hrun : Run (restrict (ofPartial syncStep) agreementGuard.admits) ⟨s₀, none⟩ ls s)
    (hmain : s.main = none) (hempty : s.state.worker.queue.tasks = [])
    (extension : CStr) (room : Option Nat) (callsOut : Bool) :
    (∀ out t r t',
      reader.Exec (dbRedisGetAgentStatus extension room callsOut) s.state (some out) t →
      reader.Exec (dbSyncAgentStatusQuery (some extension) room callsOut)
        (withoutCache (settled s.state)) r t' →
      out = (r.status, r.calls)) ∧
    (s.state.worker.pc.inHand = [] → ∀ r t r' t',
      reader.Exec (dbSyncAgentStatusQuery (some extension) room callsOut) s.state r t →
      reader.Exec (dbSyncAgentStatusQuery (some extension) room callsOut)
        (withoutCache s.state) r' t' →
      r.status = r'.status ∧ r.calls = r'.calls) := by
  have hstart : Agree s₀.fields s₀ := by
    refine ⟨rfl, ?_⟩
    intro e
    have hdrain : drain s₀.agents s₀.worker = s₀.agents := by rw [drain, hidle]; rfl
    rw [hdrain]
    exact hagree e
  have hend := idle_run (stable_agree hup) (agree_call hup hcache) hstart hrun hmain
  have hholds := hend.holds extension
  rw [drain_of_empty hempty] at hholds
  have hup' : s.state.fields.Up := hend.fields_eq ▸ hup
  -- what the MySQL path returns in a state with these rows
  have hmysql : ∀ u r t, u.fields = s.state.fields →
      reader.Exec (dbSyncAgentStatusQuery (some extension) room callsOut) (withoutCache u) r t →
      (r.status, r.calls) = pairOut room callsOut (u.agents.agentPair extension) := by
    intro u r t hfields hexec
    have hupU : (withoutCache u).fields.Up := by
      rw [← hfields] at hup'
      exact ⟨hup'.mysqlPool, hup'.redis, hup'.workerRunning, hup'.dbEnabled⟩
    have htriple := reader_query (K := u.keys) (A := u.agents) hupU extension room callsOut
      fun hon => by simp [withoutCache] at hon
    exact hexec.wp (htriple (withoutCache u) ⟨rfl, rfl, rfl⟩)
  constructor
  · intro out t r t' hhit hquery
    have hget := hhit.wp (reader_getAgentStatus s.state.redis extension room callsOut s.state
      ⟨rfl, rfl, rfl⟩)
    obtain ⟨h, pair, hkey, hpair, hout⟩ := hget.2 out rfl
    obtain rfl : pair = (settled s.state).agents.agentPair extension :=
      Option.some.inj (hpair.symm.trans (hholds h hkey))
    rw [hout]
    exact (hmysql (settled s.state) r t' rfl hquery).symm
  · intro hhand r t r' t' hquery hquery'
    have hsettled : (settled s.state).agents = s.state.agents := by simp [settled, hhand]
    rw [hsettled] at hholds
    have htriple := reader_query (K := s.state.keys) (A := s.state.agents) hup' extension room
      callsOut fun _ => hholds
    have hr := hquery.wp (htriple s.state ⟨rfl, rfl, rfl⟩)
    have hr' := hmysql s.state r' t' rfl hquery'
    have heq := hr.trans hr'.symm
    exact ⟨(Prod.mk.inj heq).1, (Prod.mk.inj heq).2⟩

/-! ## Section 4: One agent -/

/-- An idle agent, the same in both stores. -/
def idleAgent : SyncState where
  fields := ⟨true, true, true, true, true, 0, 15⟩
  redis := ⟨true, [], 0, true, 0, 0⟩
  keys := fun key =>
    if key = agentStatusKey (cstr "2001") then
      some (.hash (setFields (fun _ => none) (agentStatusFields (cstr "2001") (cstr "idle") 0 0)))
    else none
  departments := []
  agents := ⟨[⟨cstr "2001", some 1, some (cstr "idle"), some 0⟩], by simp⟩
  worker := ⟨⟨[], false⟩, .popping⟩
  last := fun _ => none

theorem up_idleAgent : idleAgent.fields.Up := ⟨rfl, rfl, rfl, rfl⟩

theorem hashHolds_idleAgent (e : CStr) :
    HashHolds idleAgent.keys e (idleAgent.agents.agentPair e) := by
  intro h hkey
  simp only [idleAgent] at hkey
  split at hkey
  · next heq =>
    obtain rfl := agentStatusKey_inj (by decide) heq.symm
    obtain rfl : _ = h := by simpa using hkey
    rw [hashPair_setFields]
    decide
  · simp at hkey

/-- A status change and its way to MySQL; `o` is the fate of the `HMSET`. -/
def statusRun (status : CStr) (calls : Int32) (o : Outcome) : List SyncLabel :=
  [.start (.agentStatusChange (some (cstr "2001")) (some status) calls), .answer .silent,
    .answer (.now 0), .answer (.net [.outcome .answered, .outcome o]), .answer (.ok true),
    .answer .silent, .leave, .env .workerPop, .env (.workerFinish [] true)]

/-- The agent signs on or off, and that is on its way to MySQL too. -/
def onlineRun (isOnline : Int32) : List SyncLabel :=
  [.start (.agentOnline (some (cstr "2001")) isOnline), .answer .silent,
    .answer (.net [.outcome .answered, .outcome .answered]), .answer (.ok true), .answer .silent,
    .leave, .env .workerPop, .env (.workerFinish [] true)]

def busyRun (o : Outcome) : List SyncLabel := statusRun (cstr "busy") 1 o

def offlineRun : List SyncLabel := onlineRun 0

theorem required_2001 : Required 31 (cstr "2001") := by
  refine ⟨?_, ?_, ?_, ?_⟩ <;> decide

theorem required_busy : Required 31 (cstr "busy") := by
  refine ⟨?_, ?_, ?_, ?_⟩ <;> decide

theorem required_idle : Required 31 (cstr "idle") := by
  refine ⟨?_, ?_, ?_, ?_⟩ <;> decide

theorem updateCall_busy : UpdateCall idleAgent
    (.agentStatusChange (some (cstr "2001")) (some (cstr "busy")) 1) :=
  ⟨required_2001, required_busy, by decide, by decide⟩

/-- The theorem at an agent who was busy, is idle again and signs on: the
    hash is there and holds what the worker writes for the sign-on. -/
theorem query_agrees_online :
    ∃ s, Run (restrict (ofPartial syncStep) agreementGuard.admits) ⟨idleAgent, none⟩
        (busyRun .answered ++ statusRun (cstr "idle") 0 .answered ++ onlineRun 1) s ∧
      (s.state.keys (agentStatusKey (cstr "2001"))).isSome ∧
      ∀ r t r' t',
        reader.Exec (dbSyncAgentStatusQuery (some (cstr "2001")) (some 31) true) s.state r t →
        reader.Exec (dbSyncAgentStatusQuery (some (cstr "2001")) (some 31) true)
          (withoutCache s.state) r' t' →
        r.status = r'.status ∧ r.calls = r'.calls := by
  have hrun : Run (restrict (ofPartial syncStep) agreementGuard.admits) ⟨idleAgent, none⟩
      (busyRun .answered ++ statusRun (cstr "idle") 0 .answered ++ onlineRun 1) _ :=
    .cons ⟨⟨updateCall_busy, trivial⟩, rfl⟩ <| .cons ⟨trivial, rfl⟩ <| .cons ⟨trivial, rfl⟩ <|
      .cons ⟨writeLands_of_exec ⟨_, rfl⟩, rfl⟩ <| .cons ⟨rfl, rfl⟩ <|
      .cons ⟨pos_dbQueueMaxSize, rfl⟩ <| .cons ⟨trivial, rfl⟩ <| .cons ⟨trivial, rfl⟩ <|
      .cons ⟨rfl, rfl⟩ <|
      -- idle again
      .cons ⟨⟨⟨required_2001, required_idle, by decide, by decide⟩, trivial⟩, rfl⟩ <|
      .cons ⟨trivial, rfl⟩ <| .cons ⟨trivial, rfl⟩ <|
      .cons ⟨writeLands_of_exec ⟨_, rfl⟩, rfl⟩ <|
      .cons ⟨rfl, rfl⟩ <| .cons ⟨pos_dbQueueMaxSize, rfl⟩ <| .cons ⟨trivial, rfl⟩ <|
      .cons ⟨trivial, rfl⟩ <| .cons ⟨rfl, rfl⟩ <|
      -- the sign-on finds the hash as the worker will make the row
      .cons ⟨⟨required_2001, fun _ => hashHolds_of_key rfl (by decide)⟩, rfl⟩ <|
      .cons ⟨trivial, rfl⟩ <| .cons ⟨trivial, rfl⟩ <| .cons ⟨rfl, rfl⟩ <|
      .cons ⟨pos_dbQueueMaxSize, rfl⟩ <| .cons ⟨trivial, rfl⟩ <| .cons ⟨trivial, rfl⟩ <|
      .cons ⟨rfl, rfl⟩ <| .nil _
  exact ⟨_, hrun, rfl, (query_agrees up_idleAgent rfl rfl hashHolds_idleAgent hrun rfl rfl
    (cstr "2001") (some 31) true).2 rfl⟩

/-- Runs of the two update calls with both stores up and room in the queue.
    The last outcome of an `HMSET` is `o`: the server executes the vector of
    `db_redis_hmset`, or rejects it for the entry that is not assigned. -/
def upGuard (o : Outcome) : SyncGuard where
  call := UpdateCall
  answer s op a :=
    match op, a with
    | .queuePush _, _ => s.worker.queue.tasks.length < dbQueueMaxSize
    | .redisHmset _ _, .net answers => answers = [.outcome .answered, .outcome o]
    | _, a => StoresUp a
  env := EnvStep.Nominal

/-- Whenever nothing is left to do for the worker, a query returns the same
    with the cache as without, without any condition on
    `db_sync_agent_online`. -/
def StoresAgree (o : Outcome) : Prop :=
  ∀ (s₀ : SyncState) (ls : List SyncLabel) (s : SyncSystem), s₀.fields.Up →
    s₀.fields.cacheEnabled = true → s₀.redis.Connected → s₀.worker.pending = [] →
    (∀ e, HashHolds s₀.keys e (s₀.agents.agentPair e)) →
    Run (restrict (ofPartial syncStep) (upGuard o).admits) ⟨s₀, none⟩ ls s →
    s.main = none → s.state.worker.pending = [] →
    ∀ extension room callsOut r t r' t',
      reader.Exec (dbSyncAgentStatusQuery (some extension) room callsOut) s.state r t →
      reader.Exec (dbSyncAgentStatusQuery (some extension) room callsOut)
        (withoutCache s.state) r' t' →
      r.status = r'.status ∧ r.calls = r'.calls

/-- Two connected `HGET`s, or a connected `SET`. -/
def answeredTwice : List NetAnswer := [.outcome .answered, .outcome .answered]

theorem up_answeredTwice : ∀ x ∈ answeredTwice, x.Up := by
  intro x hx
  simp only [answeredTwice, List.mem_cons, List.not_mem_nil, or_false, or_self] at hx
  rw [hx]
  rfl

/-- What it takes to refute the agreement at the end of a run. -/
theorem not_storesAgree {o : Outcome} {ls : List SyncLabel} {s : SyncSystem}
    {r r' : QueryResult} {t t' : SyncState}
    (hrun : Run (restrict (ofPartial syncStep) (upGuard o).admits) ⟨idleAgent, none⟩ ls s)
    (hmain : s.main = none) (hpending : s.state.worker.pending = [])
    (hcached : exec syncPerform (dbSyncAgentStatusQuery (some (cstr "2001")) (some 31) true)
      [.silent, .net answeredTwice, .net answeredTwice] s.state = some (r, t))
    (hmysql : exec syncPerform (dbSyncAgentStatusQuery (some (cstr "2001")) (some 31) true)
      [.silent, .ok true] (withoutCache s.state) = some (r', t'))
    (hne : r.status ≠ r'.status) : ¬ StoresAgree o := by
  intro hagree
  have hexec : reader.Exec (dbSyncAgentStatusQuery (some (cstr "2001")) (some 31) true) s.state
      r t := by
    refine exec_sound ?_ hcached
    intro ans hans _ _
    simp only [List.mem_cons, List.not_mem_nil, or_false, or_self] at hans
    rcases hans with rfl | rfl
    · trivial
    · exact up_answeredTwice
  have hexec' : reader.Exec (dbSyncAgentStatusQuery (some (cstr "2001")) (some 31) true)
      (withoutCache s.state) r' t' := by
    refine exec_sound ?_ hmysql
    intro ans hans _ _
    simp only [List.mem_cons, List.not_mem_nil, or_false] at hans
    rcases hans with rfl | rfl
    · trivial
    · rfl
  have hsame := hagree idleAgent ls s up_idleAgent rfl ⟨rfl, rfl⟩ rfl hashHolds_idleAgent hrun
    hmain hpending (cstr "2001") (some 31) true r t r' t' hexec hexec'
  exact hne hsame.1

/-- `db_sync_agent_online` sends `offline` to MySQL and leaves the hash as it
    is: `busy` when the server has executed the `HMSET` of the status change,
    still `idle` when it has not. -/
theorem online_diverges : ¬ StoresAgree .answered ∧ ¬ StoresAgree .refused := by
  suffices hrefute : ∀ o, o = .answered ∨ o = .refused → ¬ StoresAgree o from
    ⟨hrefute _ (Or.inl rfl), hrefute _ (Or.inr rfl)⟩
  intro o ho
  rcases ho with rfl | rfl <;>
    exact not_storesAgree
      (.cons ⟨updateCall_busy, rfl⟩ <| .cons ⟨trivial, rfl⟩ <| .cons ⟨trivial, rfl⟩ <|
        .cons ⟨rfl, rfl⟩ <| .cons ⟨rfl, rfl⟩ <| .cons ⟨pos_dbQueueMaxSize, rfl⟩ <|
        .cons ⟨trivial, rfl⟩ <| .cons ⟨trivial, rfl⟩ <| .cons ⟨rfl, rfl⟩ <|
        .cons ⟨required_2001, rfl⟩ <| .cons ⟨trivial, rfl⟩ <| .cons ⟨up_answeredTwice, rfl⟩ <|
        .cons ⟨rfl, rfl⟩ <| .cons ⟨pos_dbQueueMaxSize, rfl⟩ <| .cons ⟨trivial, rfl⟩ <|
        .cons ⟨trivial, rfl⟩ <| .cons ⟨rfl, rfl⟩ <| .nil _ :
        Run _ _ (busyRun _ ++ offlineRun) _)
      rfl rfl rfl rfl (by decide)

end DbSync
