import CallCenter.DbSync.Agreement

/-! # No Stale Agent Hashes

    Redis may go down, lose keys and come back, and the hashes are then
    rebuilt from MySQL, by the warm-up after a recovery and by the write-back
    of a query that missed.  MySQL, though, is behind Redis by what waits in
    the queue.

    * `cache_fresh`: in runs where no read of MySQL for the cache overtakes a
      waiting update, and no write of a hash fails while another pair stands
      there, a hash present holds the pair most recently passed.
    * `warmup_stale`: a recovery before the worker's turn brings the old pair
      back for good. -/

namespace DbSync

open CFormat Interference Transition DbMysql DbRedis

/-! ## Section 1: The condition -/

/-- No waiting update changes what a read of the row returns, for an
    extension with a status change. -/
def Settled (s : SyncState) (extension : CStr) : Prop :=
  (s.last extension).isSome → s.agents.HasRow extension →
    s.agents.agentPair extension = (drain s.agents s.worker).agentPair extension

/-- Status changes that the queue's format carries, queries and health checks. -/
def StatusCall (s : SyncState) : SyncCall → Prop
  | .agentStatusChange (some extension) (some status) _ =>
    Required 31 extension ∧ Required 31 status ∧
      (s.agents.HasRow extension → status ∈ agentStatusNames)
  | .agentOnline _ _ => False
  | _ => True

def freshnessGuard : SyncGuard where
  call := StatusCall
  answer s op a :=
    Nominal s op a ∧
      match op with
      | .selectAgent extension => s.fields.cacheEnabled = true → Settled s extension
      | .selectAgents => ∀ extension, Settled s extension
      | _ => True
  env := EnvStep.Nominal

theorem nominal_freshnessGuard : freshnessGuard.Nominal where
  answer _ _ _ h := h.1
  env _ h := h

/-- What holds between calls. -/
structure Fresh (s : SyncState) : Prop where
  up : s.fields.Up
  recorded : ∀ e pair, s.last e = some pair → Required 31 e ∧ Required 31 pair.1
  drained : ∀ e pair, s.last e = some pair → s.agents.HasRow e →
    (drain s.agents s.worker).agentPair e = pair
  cached : s.fields.cacheEnabled = true → ∀ e pair, s.last e = some pair →
    s.agents.HasRow e → HashHolds s.keys e pair

/-- The pairs most recently passed, for the rows of the table. -/
def lastTarget (s : SyncState) : Target :=
  fun e => if s.agents.HasRow e then s.last e else none

/-- The data that stay the same during a call. -/
structure Recorded (L : CStr → Option (CStr × Int32)) (R : CStr → Prop) (T : Target) :
    Prop where
  target_iff : ∀ e pair, T e = some pair ↔ L e = some pair ∧ R e
  recorded : ∀ e pair, L e = some pair → Required 31 e ∧ Required 31 pair.1

theorem target_iff_lastTarget (s : SyncState) (e : CStr) (pair : CStr × Int32) :
    lastTarget s e = some pair ↔ s.last e = some pair ∧ s.agents.HasRow e := by
  unfold lastTarget
  split
  · next hrow => simp [hrow]
  · next hrow => simp [hrow]

variable {F : SyncFields} {L : CStr → Option (CStr × Int32)} {R : CStr → Prop} {T : Target}
  {D C : CStr → Prop} {s : SyncState}

/-- Between calls, with whatever fields the call has left. -/
def Rest (L : CStr → Option (CStr × Int32)) (R : CStr → Prop) (T : Target) (s : SyncState) :
    Prop :=
  ∃ F : SyncFields, F.Up ∧ Holds F L R T (fun _ => True) (fun _ => F.cacheEnabled = true) s

theorem fresh_of_rest (hrec : Recorded L R T) (h : Rest L R T s) : Fresh s := by
  obtain ⟨F, hup, h⟩ := h
  obtain rfl := h.fields_eq
  obtain rfl := h.last_eq
  refine ⟨hup, hrec.recorded, ?_, ?_⟩
  · intro e pair hlast hrow
    exact h.drained e pair ((hrec.target_iff e pair).mpr ⟨hlast, (h.rows_iff e).mp hrow⟩) trivial
  · intro hcache e pair hlast hrow
    exact h.cached e pair ((hrec.target_iff e pair).mpr ⟨hlast, (h.rows_iff e).mp hrow⟩) hcache

theorem Fresh.recordedTarget (h : Fresh s) : Recorded s.last s.agents.HasRow (lastTarget s) where
  target_iff := target_iff_lastTarget s
  recorded := h.recorded

theorem Fresh.holds (h : Fresh s) :
    Holds s.fields s.last s.agents.HasRow (lastTarget s) (fun _ => True)
      (fun _ => s.fields.cacheEnabled = true) s where
  fields_eq := rfl
  last_eq := rfl
  rows_iff _ := Iff.rfl
  drained e pair hT _ := by
    obtain ⟨hlast, hrow⟩ := (target_iff_lastTarget s e pair).mp hT
    exact h.drained e pair hlast hrow
  cached e pair hT hcache := by
    obtain ⟨hlast, hrow⟩ := (target_iff_lastTarget s e pair).mp hT
    exact h.cached hcache e pair hlast hrow

/-- Worker steps and lost keys. -/
theorem stable_fresh : freshnessGuard.world.Stable Fresh := by
  intro s t hothers h
  have hkept := stable_holds nominal_freshnessGuard h.up s t hothers h.holds
  exact fresh_of_rest h.recordedTarget ⟨_, h.up, hkept⟩

theorem stable_rest : freshnessGuard.world.Stable (Rest L R T) := by
  intro s t hothers h
  obtain ⟨F, hup, h⟩ := h
  exact ⟨F, hup, stable_holds nominal_freshnessGuard hup s t hothers h⟩

/-- Only the extension itself has its key, among those with a target. -/
theorem Recorded.key (hrec : Recorded L R T) {e e' : CStr} {pair : CStr × Int32}
    (hT : T e = some pair) (hkey : agentStatusKey e = agentStatusKey e') : e = e' := by
  have hlen := (hrec.recorded e pair ((hrec.target_iff e pair).mp hT).1).1.2.length_le
  exact agentStatusKey_inj hlen hkey

/-! ## Section 2: Operations of the health check and of the query -/

/-- An operation that changes nothing but the client's context. -/
theorem triple_client {α β : Type} (hup : F.Up) {op : SyncOp} {k : SyncRet op → SyncProg α}
    {Q : α → SyncState → Prop} {p : RedisContext → RedisProg (β × RedisContext)}
    (hperf : ∀ s a r t, syncPerform op a s = some (r, t) →
      ∃ answers b, onRedis s (p s.redis) answers = some (b, t))
    (hkeeps : ∀ keys ctx, Keeps keys (p ctx))
    (hk : ∀ r, freshnessGuard.world.Triple (Holds F L R T D C) (k r) Q) :
    freshnessGuard.world.Triple (Holds F L R T D C) (Prog.op op >>= k) Q := by
  apply World.Triple.op (stable_holds nominal_freshnessGuard hup) fun _ => Holds F L R T D C
  · intro s a r t hs _ hstep
    obtain ⟨answers, b, hrun⟩ := hperf s a r t hstep
    obtain ⟨ctx, rfl⟩ := onRedis_keeps (hkeeps s.keys s.redis) hrun
    exact hs.redis ctx hs.cached
  · exact hk

theorem triple_redisPing {α : Type} (hup : F.Up) {k : Int → SyncProg α}
    {Q : α → SyncState → Prop}
    (hk : ∀ r, freshnessGuard.world.Triple (Holds F L R T D C) (k r) Q) :
    freshnessGuard.world.Triple (Holds F L R T D C) (redisPing >>= k) Q := by
  refine triple_client hup (p := dbRedisPing) ?_ (fun _ ctx => keeps_dbRedisPing ctx) hk
  intro s a r t h
  cases a with
  | net answers => exact ⟨answers, r, h⟩
  | _ => simp [syncPerform] at h

theorem triple_redisEnsureConnected {α : Type} (hup : F.Up) {k : Int → SyncProg α}
    {Q : α → SyncState → Prop}
    (hk : ∀ r, freshnessGuard.world.Triple (Holds F L R T D C) (k r) Q) :
    freshnessGuard.world.Triple (Holds F L R T D C) (redisEnsureConnected >>= k) Q := by
  refine triple_client hup (p := dbRedisEnsureConnected) ?_
    (fun _ ctx => keeps_dbRedisEnsureConnected ctx) hk
  intro s a r t h
  cases a with
  | net answers => exact ⟨answers, r, h⟩
  | _ => simp [syncPerform] at h

theorem triple_redisHget {α : Type} (hup : F.Up) {key field : CStr} {outSize : Nat}
    {k : Option CStr → SyncProg α} {Q : α → SyncState → Prop}
    (hk : ∀ r, freshnessGuard.world.Triple (Holds F L R T D C) (k r) Q) :
    freshnessGuard.world.Triple (Holds F L R T D C) (redisHget key field outSize >>= k) Q := by
  refine triple_client hup (p := fun ctx => dbRedisHget ctx key field outSize) ?_
    (fun _ ctx => keeps_dbRedisHget ctx key field outSize) hk
  intro s a r t h
  cases a with
  | net answers => exact ⟨answers, r, h⟩
  | _ => simp [syncPerform] at h

/-- Other fields, and the hashes vouched for under them. -/
theorem Holds.setFields {F' : SyncFields} {C' : CStr → Prop} (h : Holds F L R T D C s)
    (hC : ∀ e, C' e → C e) : Holds F' L R T D C' { s with fields := F' } where
  fields_eq := rfl
  last_eq := h.last_eq
  rows_iff := h.rows_iff
  drained := h.drained
  cached e pair hT he := h.cached e pair hT (hC e he)

theorem triple_setLastHealthCheck {α : Type} (hup : F.Up) {now : Int} {k : Unit → SyncProg α}
    {Q : α → SyncState → Prop}
    (hk : freshnessGuard.world.Triple
      (Holds { F with lastHealthCheck := now } L R T D C) (k ()) Q) :
    freshnessGuard.world.Triple (Holds F L R T D C) (setLastHealthCheck now >>= k) Q := by
  apply World.Triple.op (stable_holds nominal_freshnessGuard hup) fun _ =>
    Holds { F with lastHealthCheck := now } L R T D C
  · intro s a r t hs _ hstep
    cases a with
    | silent =>
      obtain ⟨-, rfl⟩ := Prod.mk.inj (Option.some.inj hstep)
      rw [hs.fields_eq]
      exact hs.setFields fun _ he => he
    | _ => simp [SyncGuard.world, syncPerform] at hstep
  · intro _
    exact hk

theorem triple_setCacheEnabled {α : Type} (hup : F.Up) {v : Bool} {k : Unit → SyncProg α}
    {Q : α → SyncState → Prop} {E : CStr → Prop} (hC : ∀ e, E e → C e)
    (hk : freshnessGuard.world.Triple
      (Holds { F with cacheEnabled := v } L R T D E) (k ()) Q) :
    freshnessGuard.world.Triple (Holds F L R T D C) (setCacheEnabled v >>= k) Q := by
  apply World.Triple.op (stable_holds nominal_freshnessGuard hup) fun _ =>
    Holds { F with cacheEnabled := v } L R T D E
  · intro s a r t hs _ hstep
    cases a with
    | silent =>
      obtain ⟨-, rfl⟩ := Prod.mk.inj (Option.some.inj hstep)
      rw [hs.fields_eq]
      exact hs.setFields hC
    | _ => simp [SyncGuard.world, syncPerform] at hstep
  · intro _
    exact hk

/-! ## Section 3: A status change -/

theorem fresh_agentStatusChange (extension status : CStr) (calls : Int32) :
    freshnessGuard.Call Fresh (.agentStatusChange (some extension) (some status) calls) := by
  intro s hs hcall
  obtain ⟨hext, hstatus, hname⟩ := hcall
  let call : SyncCall := .agentStatusChange (some extension) (some status) calls
  have hself : (call.record s).last extension = some (status, calls) := Function.update_self ..
  have hother : ∀ e, e ≠ extension → (call.record s).last e = s.last e := by
    intro e he
    exact Function.update_of_ne he ..
  have hrec : Recorded (call.record s).last s.agents.HasRow (lastTarget (call.record s)) := by
    refine ⟨target_iff_lastTarget (call.record s), ?_⟩
    intro e pair hlast
    by_cases he : e = extension
    · subst he
      rw [hself] at hlast
      obtain rfl := Option.some.inj hlast
      exact ⟨hext, hstatus⟩
    · rw [hother e he] at hlast
      exact hs.recorded e pair hlast
  have hstart : Holds s.fields (call.record s).last s.agents.HasRow
      (lastTarget (call.record s)) (fun e => e ≠ extension)
      (fun e => e ≠ extension ∧ s.fields.cacheEnabled = true) (call.record s) := by
    refine ⟨rfl, rfl, fun _ => Iff.rfl, ?_, ?_⟩
    · intro e pair hT he
      obtain ⟨hlast, hrow⟩ := (hrec.target_iff e pair).mp hT
      exact hs.drained e pair (hother e he ▸ hlast) hrow
    · intro e pair hT he
      obtain ⟨hlast, hrow⟩ := (hrec.target_iff e pair).mp hT
      exact hs.cached he.2 e pair (hother e he.1 ▸ hlast) hrow
  have hpair : ∀ pair, lastTarget (call.record s) extension = some pair →
      pair = (status, calls) ∧ s.agents.HasRow extension ∧ status ∈ agentStatusNames := by
    intro pair hT
    obtain ⟨hlast, hrow⟩ := (hrec.target_iff extension pair).mp hT
    rw [hself] at hlast
    exact ⟨(Option.some.inj hlast).symm, hrow, hname hrow⟩
  have hprog := triple_discard nominal_freshnessGuard hs.up
    (triple_agentStatusChange (L := (call.record s).last) nominal_freshnessGuard hs.up hext
      hstatus hpair)
  exact World.wp_mono (fun _ _ h => fresh_of_rest hrec ⟨_, hs.up, h⟩) (hprog _ hstart)

/-! ## Section 4: A query -/

/-- What a query that found the row may write back. -/
def Current (T : Target) (extension : CStr) (found : Int × CStr × Int32) : Prop :=
  found.1 = 0 → ∀ pair, T extension = some pair → found.2 = pair

theorem triple_writeBack (hup : F.Up) (hrec : Recorded L R T) {extension : CStr}
    {found : Int × CStr × Int32}
    (hfound : F.cacheEnabled = true → Current T extension found) :
    freshnessGuard.world.Triple (Holds F L R T D C) (writeBack F extension found)
      fun _ => Holds F L R T D C := by
  unfold writeBack
  split
  · next hok =>
    apply triple_whenCached nominal_freshnessGuard hup
    · intro hcache
      apply triple_cacheAgentStatus nominal_freshnessGuard hup
      · intro e pair hT hkey
        exact hrec.key hT hkey
      · intro pair hT
        obtain rfl := hfound hcache hok pair hT
        have hlen := (hrec.recorded _ _ ((hrec.target_iff _ _).mp hT).1).2.2.length_le
        rw [List.take_of_length_le hlen]
      · intro e he
        exact Or.inl he
    · intro _ e he
      exact he
  · exact triple_pure nominal_freshnessGuard hup _

/-- No waiting update stands between the row that was read and the target. -/
theorem current_of_settled {extension : CStr} {res : Option (Option (Option CStr × Option CStr))}
    {a : SyncAnswer} (hrec : Recorded L R T) (hs : Holds F L R T (fun _ => True) C s)
    (hsettled : Settled s extension)
    (hperf : syncPerform (.selectAgent extension) a s = some (res, s)) :
    Current T extension (dbMysqlQueryAgentSingle res) := by
  intro hok pair hT
  obtain ⟨hlast, hrow⟩ := (hrec.target_iff extension pair).mp hT
  have hread : s.agents.agentPair extension = pair := by
    rw [← hs.last_eq] at hlast
    rw [hsettled (by rw [hlast]; rfl) ((hs.rows_iff extension).mpr hrow)]
    exact hs.drained extension pair hT trivial
  cases a with
  | ok b =>
    obtain ⟨hres, -⟩ := Prod.mk.inj (Option.some.inj hperf)
    cases b with
    | true =>
      obtain rfl : some ((s.agents.find extension).map statusRow) = res := hres
      exact hread
    | false =>
      obtain rfl : none = res := hres
      simp [dbMysqlQueryAgentSingle] at hok
  | _ => simp [syncPerform] at hperf

theorem triple_queryMysql (hup : F.Up) (hrec : Recorded L R T) (extension : CStr)
    (room : Option Nat) (callsOut : Bool) :
    freshnessGuard.world.Triple (Holds F L R T (fun _ => True) C)
      (queryMysql F extension room callsOut) fun _ => Holds F L R T (fun _ => True) C := by
  unfold queryMysql
  rw [if_pos ⟨hup.dbEnabled, hup.mysqlPool⟩]
  refine triple_read (stable_holds nominal_freshnessGuard hup) ?_
    (fun res => F.cacheEnabled = true → Current T extension (dbMysqlQueryAgentSingle res)) ?_ ?_
  · intro s a r t h
    cases a <;> simp_all [syncPerform]
  · intro s a res hs hadm hperf hcache
    have hsettled : s.fields.cacheEnabled = true → Settled s extension := hadm.2
    rw [hs.fields_eq] at hsettled
    exact current_of_settled hrec hs (hsettled hcache) hperf
  · intro res hcurrent
    apply triple_bind (triple_writeBack hup hrec hcurrent)
    intro _
    exact triple_pure nominal_freshnessGuard hup _

/-- A read of the cache writes nothing. -/
theorem triple_getAgentStatus (hup : F.Up) (extension : CStr) (room : Option Nat)
    (callsOut : Bool) :
    freshnessGuard.world.Triple (Holds F L R T D C)
      (dbRedisGetAgentStatus extension room callsOut) fun _ => Holds F L R T D C := by
  apply triple_redisHget hup
  intro status
  cases status with
  | none => exact triple_pure nominal_freshnessGuard hup _
  | some status =>
    dsimp only
    split
    · apply triple_redisHget hup
      intro calls
      exact triple_pure nominal_freshnessGuard hup _
    · exact triple_pure nominal_freshnessGuard hup _

theorem triple_agentStatusQuery (hup : F.Up) (hrec : Recorded L R T) (extension : CStr)
    (room : Option Nat) (callsOut : Bool) :
    freshnessGuard.world.Triple (Holds F L R T (fun _ => True) C)
      (dbSyncAgentStatusQuery (some extension) room callsOut)
      fun _ => Holds F L R T (fun _ => True) C := by
  apply triple_getFields nominal_freshnessGuard hup
  split
  · apply triple_bind (triple_getAgentStatus hup extension room callsOut)
    intro hit
    cases hit with
    | none => exact triple_queryMysql hup hrec extension room callsOut
    | some out => exact triple_pure nominal_freshnessGuard hup _
  · exact triple_queryMysql hup hrec extension room callsOut

/-- Of a call that records nothing it is enough to show where it leads. -/
theorem fresh_of_triple {call : SyncCall} (hrecord : ∀ s, call.record s = s)
    (hcall : ∀ (F : SyncFields) (L : CStr → Option (CStr × Int32)) (R : CStr → Prop) (T : Target),
      F.Up → Recorded L R T →
      freshnessGuard.world.Triple
        (Holds F L R T (fun _ => True) fun _ => F.cacheEnabled = true) call.program
        fun _ => Rest L R T) : freshnessGuard.Call Fresh call := by
  intro s hs _
  rw [hrecord]
  have hprog := hcall _ _ _ _ hs.up hs.recordedTarget
  exact World.wp_mono (fun _ _ h => fresh_of_rest hs.recordedTarget h) (hprog s hs.holds)

theorem fresh_agentStatusQuery (extension : CStr) (room : Option Nat) (callsOut : Bool) :
    freshnessGuard.Call Fresh (.agentStatusQuery (some extension) room callsOut) := by
  apply fresh_of_triple fun _ => rfl
  intro F L R T hup hrec
  have hquery := triple_discard nominal_freshnessGuard hup
    (triple_agentStatusQuery (C := fun _ => F.cacheEnabled = true) hup hrec extension room
      callsOut)
  exact World.Triple.conseq hquery (fun _ hs => hs) fun _ _ hs => ⟨F, hup, hs⟩

/-! ## Section 5: The warm-up -/

/-- The departments have keys of their own. -/
theorem triple_warmupDepts (hup : F.Up) (hcache : F.cacheEnabled = true) :
    freshnessGuard.world.Triple (Holds F L R T D C) dbSyncCacheWarmupDepts
      fun _ => Holds F L R T D C := by
  apply triple_getFields nominal_freshnessGuard hup
  rw [if_neg (by simp [hup.dbEnabled, hup.mysqlPool, hup.redis, hcache])]
  refine triple_read (stable_holds nominal_freshnessGuard hup) ?_ (fun _ => True) ?_ ?_
  · intro s a r t h
    cases a <;> simp_all [syncPerform]
  · intros
    trivial
  · intro res _
    cases res with
    | none => exact triple_pure nominal_freshnessGuard hup _
    | some rows =>
      apply triple_bind (M := fun _ => Holds F L R T D C)
      · apply World.Triple.forM fun _ => Holds F L R T D C
        · exact stable_holds nominal_freshnessGuard hup
        · intro done row rest _
          apply triple_discard nominal_freshnessGuard hup
          apply triple_redisSet nominal_freshnessGuard hup
          intro e
          exact agentStatusKey_ne_dept e row.deptKey
      · intro _
        exact triple_pure nominal_freshnessGuard hup _

/-- The pair that the warm-up writes for a row. -/
def warmupPair (row : AgentTexts) : CStr × Int32 :=
  ((row.status.getD (cstr "offline")).take 31, (row.concurrentCalls.map atoi).getD 0)

/-- The rows read for the warm-up: every row of the table, with the target's
    pairs. -/
structure WarmupRows (R : CStr → Prop) (T : Target) (rows : List AgentTexts) : Prop where
  all : ∀ e, R e → ∃ row ∈ rows, row.extension = e
  current : ∀ row ∈ rows, ∀ pair, T row.extension = some pair → pair = warmupPair row

theorem warmupRows_of_settled (hrec : Recorded L R T) (hs : Holds F L R T (fun _ => True) C s)
    (hsettled : ∀ e, Settled s e) : WarmupRows R T (s.agents.rows.map agentTexts) := by
  constructor
  · intro e hrow
    obtain ⟨row, hmem, hext⟩ := List.mem_map.mp ((hs.rows_iff e).mpr hrow)
    exact ⟨agentTexts row, List.mem_map_of_mem hmem, hext⟩
  · intro texts hmem pair hT
    obtain ⟨row, hrow, rfl⟩ := List.mem_map.mp hmem
    obtain ⟨hlast, hR⟩ := (hrec.target_iff row.extension pair).mp hT
    have hread : s.agents.agentPair row.extension = pair := by
      rw [← hs.last_eq] at hlast
      rw [hsettled _ (by rw [hlast]; rfl) ((hs.rows_iff _).mpr hR)]
      exact hs.drained row.extension pair hT trivial
    rw [AgentTable.agentPair_of_mem hrow] at hread
    -- a row whose pair was passed in a call has a status, so both defaults are idle
    have hstatus : row.status ≠ none := by
      intro hnone
      have hne := (hrec.recorded _ _ hlast).2.1
      rw [← hread, hnone] at hne
      exact hne rfl
    obtain ⟨status, hsome⟩ := Option.ne_none_iff_exists'.mp hstatus
    rw [← hread]
    simp [warmupPair, agentTexts, hsome]

/-- One row of the warm-up. -/
theorem triple_warmupAgent (hup : F.Up) (hrec : Recorded L R T) {row : AgentTexts}
    (hrow : ∀ pair, T row.extension = some pair → pair = warmupPair row) {C' : CStr → Prop}
    (hC : ∀ e, C' e → C e ∨ e = row.extension) :
    freshnessGuard.world.Triple (Holds F L R T D C) (warmupAgent row)
      fun _ => Holds F L R T D C' := by
  apply triple_bind (M := fun _ => Holds F L R T D C')
  · apply triple_cacheAgentStatus nominal_freshnessGuard hup
    · intro e pair hT hkey
      exact hrec.key hT hkey
    · exact hrow
    · exact hC
  · intro _
    apply triple_discard nominal_freshnessGuard hup
    exact triple_cacheAgentOnline nominal_freshnessGuard hup _ _

/-- The loop invariant: the hashes of the rows done hold their targets. -/
def WarmedUp (F : SyncFields) (L : CStr → Option (CStr × Int32)) (R : CStr → Prop) (T : Target)
    (done : List AgentTexts) : SyncState → Prop :=
  Holds F L R T (fun _ => True) fun e => ∃ row ∈ done, row.extension = e

theorem warmedUp_nil (h : Holds F L R T (fun _ => True) C s) : WarmedUp F L R T [] s := by
  apply h.mono fun _ he => he
  rintro e ⟨row, hmem, -⟩
  cases hmem

/-- When all rows are done, so are all hashes. -/
theorem WarmedUp.all {rows : List AgentTexts} (hrec : Recorded L R T) (hrows : WarmupRows R T rows)
    (h : WarmedUp F L R T rows s) : Holds F L R T (fun _ => True) (fun _ => True) s := by
  refine ⟨h.fields_eq, h.last_eq, h.rows_iff, h.drained, ?_⟩
  intro e pair hT _
  have hR := ((hrec.target_iff e pair).mp hT).2
  exact h.cached e pair hT (hrows.all e hR)

theorem triple_warmupRows (hup : F.Up) (hrec : Recorded L R T) {rows : List AgentTexts}
    (hrows : WarmupRows R T rows) :
    freshnessGuard.world.Triple (WarmedUp F L R T []) (rows.forM warmupAgent)
      fun _ => WarmedUp F L R T rows := by
  apply World.Triple.forM (WarmedUp F L R T) (stable_holds nominal_freshnessGuard hup)
  intro done row rest hsplit
  apply triple_warmupAgent hup hrec
  · exact hrows.current row (by simp [hsplit])
  · rintro e ⟨row', hmem, hext⟩
    rcases List.mem_append.mp hmem with hdone | hlast
    · exact Or.inl ⟨row', hdone, hext⟩
    · obtain rfl := List.mem_singleton.mp hlast
      exact Or.inr hext.symm

/-- After the warm-up every hash present holds its target. -/
theorem triple_warmupAgents (hup : F.Up) (hrec : Recorded L R T) (hcache : F.cacheEnabled = true) :
    freshnessGuard.world.Triple (Holds F L R T (fun _ => True) C) dbSyncCacheWarmupAgents
      fun _ => Holds F L R T (fun _ => True) fun _ => True := by
  apply triple_getFields nominal_freshnessGuard hup
  rw [if_neg (by simp [hup.dbEnabled, hup.mysqlPool, hup.redis, hcache])]
  refine triple_read (stable_holds nominal_freshnessGuard hup) ?_
    (fun res => ∃ rows, res = some rows ∧ WarmupRows R T rows) ?_ ?_
  · intro s a r t h
    cases a <;> simp_all [syncPerform]
  · intro s a res hs hadm hperf
    obtain ⟨hnom, hsettled⟩ := hadm
    cases a with
    | ok b =>
      obtain rfl : b = true := hnom
      obtain ⟨hres, -⟩ := Prod.mk.inj (Option.some.inj hperf)
      exact ⟨_, hres.symm, warmupRows_of_settled hrec hs hsettled⟩
    | _ => simp [syncPerform] at hperf
  · rintro res ⟨rows, rfl, hrows⟩
    apply triple_bind (World.Triple.conseq (triple_warmupRows hup hrec hrows)
      (fun _ hs => warmedUp_nil hs) fun _ _ hs => hs.all hrec hrows)
    intro _
    exact triple_pure nominal_freshnessGuard hup _

theorem triple_warmupAll (hup : F.Up) (hrec : Recorded L R T) (hcache : F.cacheEnabled = true) :
    freshnessGuard.world.Triple (Holds F L R T (fun _ => True) C) dbSyncCacheWarmupAll
      fun _ => Holds F L R T (fun _ => True) fun _ => True := by
  apply triple_getFields nominal_freshnessGuard hup
  rw [if_neg (by simp [hup.dbEnabled, hcache])]
  apply triple_bind (triple_warmupDepts hup hcache)
  intro _
  apply triple_bind (triple_warmupAgents hup hrec hcache)
  intro _
  exact triple_pure nominal_freshnessGuard hup _

/-- The same as a statement of its own, where a call of the main thread ends. -/
theorem rest_warmupAll (hup : F.Up) (hrec : Recorded L R T) (hcache : F.cacheEnabled = true) :
    freshnessGuard.world.Triple (Holds F L R T (fun _ => True) C)
      (dbSyncCacheWarmupAll >>= fun _ => pure PUnit.unit) fun _ => Rest L R T := by
  have hwarm := triple_discard nominal_freshnessGuard hup (triple_warmupAll (C := C) hup hrec
    hcache)
  refine World.Triple.conseq hwarm (fun _ hs => hs) ?_
  intro _ s hs
  exact ⟨F, hup, hs.mono (fun _ he => he) fun _ _ => trivial⟩

/-! ## Section 6: The health check -/

theorem rest_pure {α : Type} (a : α) :
    freshnessGuard.world.Triple (Rest L R T) (pure a) fun _ => Rest L R T :=
  World.Triple.ret stable_rest fun _ hs => hs

/-- What was shown for given fields holds for whatever fields there are. -/
theorem triple_getFields_rest {α : Type} {k : SyncFields → SyncProg α}
    {Q : α → SyncState → Prop}
    (hk : ∀ F : SyncFields, F.Up → freshnessGuard.world.Triple
      (Holds F L R T (fun _ => True) fun _ => F.cacheEnabled = true) (k F) Q) :
    freshnessGuard.world.Triple (Rest L R T) (getFields >>= k) Q := by
  intro s hs
  obtain ⟨F, hup, hs⟩ := hs
  exact triple_getFields nominal_freshnessGuard hup (hk F hup) s hs

theorem triple_poolHealth {α : Type} (hup : F.Up) {k : Int → SyncProg α}
    {Q : α → SyncState → Prop}
    (hk : ∀ n, 0 < n → freshnessGuard.world.Triple (Holds F L R T D C) (k n) Q) :
    freshnessGuard.world.Triple (Holds F L R T D C) (poolHealth >>= k) Q := by
  refine triple_read (stable_holds nominal_freshnessGuard hup) ?_ (fun n => 0 < n) ?_ hk
  · intro s a r t h
    cases a <;> simp_all [syncPerform]
  · intro s a n _ hadm h
    have hnom := hadm.1
    cases a <;> simp_all [syncPerform, Nominal]

/-- With MySQL up its part of the health check changes nothing. -/
theorem triple_checkMysql (hup : F.Up) :
    freshnessGuard.world.Triple (Holds F L R T D C) checkMysql fun _ => Holds F L R T D C := by
  apply triple_getFields nominal_freshnessGuard hup
  rw [if_pos ⟨hup.mysqlPool, hup.dbEnabled⟩]
  apply triple_poolHealth hup
  intro n hn
  rw [if_neg (by omega)]
  exact triple_pure nominal_freshnessGuard hup _

/-- A cache that is lost vouches for nothing; one that is back is warmed up. -/
theorem rest_checkRedis (hup : F.Up) (hrec : Recorded L R T) :
    freshnessGuard.world.Triple (Holds F L R T (fun _ => True) fun _ => F.cacheEnabled = true)
      (checkRedis F) fun _ => Rest L R T := by
  have hsame : freshnessGuard.world.Triple
      (Holds F L R T (fun _ => True) fun _ => F.cacheEnabled = true) (pure PUnit.unit)
      fun _ => Rest L R T :=
    World.Triple.ret stable_rest fun s hs => ⟨F, hup, hs⟩
  have hup' : ∀ v, SyncFields.Up { F with cacheEnabled := v } := by
    intro v
    exact ⟨hup.mysqlPool, hup.redis, hup.workerRunning, hup.dbEnabled⟩
  unfold checkRedis
  by_cases hcache : F.cacheEnabled = true
  · rw [if_pos ⟨hup.redis, hcache⟩]
    apply triple_redisPing hup
    intro ret
    split
    · show freshnessGuard.world.Triple _ (setCacheEnabled false >>= pure) _
      apply triple_setCacheEnabled (E := fun _ => False) hup fun _ he => he.elim
      refine World.Triple.ret stable_rest fun s hs => ⟨_, hup' false, hs.mono (fun _ he => he) ?_⟩
      intro e hoff
      simp at hoff
    · exact hsame
  · rw [if_neg fun h => hcache h.2, if_pos ⟨hup.redis, by simpa using hcache⟩]
    apply triple_redisEnsureConnected hup
    intro ret
    split
    · apply triple_setCacheEnabled (E := fun _ => False) hup fun _ he => he.elim
      rw [if_pos hup.dbEnabled]
      exact rest_warmupAll (hup' true) hrec rfl
    · exact hsame

theorem rest_warmupRecovered (hup : F.Up) (hrec : Recorded L R T) (before : SyncFields) :
    freshnessGuard.world.Triple (Holds F L R T (fun _ => True) fun _ => F.cacheEnabled = true)
      (warmupRecovered before F) fun _ => Rest L R T := by
  unfold warmupRecovered
  split
  · next hcond => exact rest_warmupAll hup hrec hcond.2.1
  · exact World.Triple.ret stable_rest fun s hs => ⟨F, hup, hs⟩

/-- **The health check** keeps the rest state, whatever Redis answers. -/
theorem rest_healthCheck (hup : F.Up) (hrec : Recorded L R T) :
    freshnessGuard.world.Triple (Holds F L R T (fun _ => True) fun _ => F.cacheEnabled = true)
      dbSyncHealthCheck fun _ => Rest L R T := by
  apply triple_timeNow nominal_freshnessGuard hup
  intro now
  apply triple_getFields nominal_freshnessGuard hup
  split
  · exact World.Triple.ret stable_rest fun s hs => ⟨F, hup, hs⟩
  · apply triple_setLastHealthCheck hup
    have hup' : SyncFields.Up { F with lastHealthCheck := now } :=
      ⟨hup.mysqlPool, hup.redis, hup.workerRunning, hup.dbEnabled⟩
    apply triple_bind (triple_checkMysql hup')
    intro _
    apply triple_getFields nominal_freshnessGuard hup'
    apply triple_bind (rest_checkRedis hup' hrec)
    intro _
    apply triple_getFields_rest
    intro F' hup''
    apply triple_bind (rest_warmupRecovered hup'' hrec _)
    intro _
    exact rest_pure _

theorem fresh_healthCheck : freshnessGuard.Call Fresh .healthCheck := by
  apply fresh_of_triple fun _ => rfl
  intro F L R T hup hrec
  apply triple_bind (rest_healthCheck hup hrec)
  intro _
  exact rest_pure _

/-! ## Section 7: Runs -/

/-- A call with a NULL argument returns at once. -/
theorem fresh_ret {call : SyncCall} (hrecord : ∀ s, call.record s = s)
    (hcall : call.program = .ret ()) : freshnessGuard.Call Fresh call := by
  intro s hs _
  rw [hrecord, hcall]
  exact World.Triple.ret stable_fresh (fun _ hs => hs) s hs

theorem fresh_call (call : SyncCall) : freshnessGuard.Call Fresh call := by
  cases call with
  | agentStatusChange extension status calls =>
    cases extension with
    | none => exact fresh_ret (fun _ => rfl) rfl
    | some extension =>
      cases status with
      | none => exact fresh_ret (fun _ => rfl) rfl
      | some status => exact fresh_agentStatusChange extension status calls
  | agentOnline extension isOnline =>
    intro s _ hcall
    exact hcall.elim
  | agentStatusQuery extension room callsOut =>
    cases extension with
    | none => exact fresh_ret (fun _ => rfl) rfl
    | some extension => exact fresh_agentStatusQuery extension room callsOut
  | healthCheck => exact fresh_healthCheck

/-- **Freshness**: between the calls of a run of status changes, queries and
    health checks, with Redis going down, losing keys and coming back and the
    worker stepping at any moment, every agent hash present holds the pair
    most recently passed for its row. -/
theorem cache_fresh {s₀ : SyncState} {ls : List SyncLabel} {s : SyncSystem}
    (hup : s₀.fields.Up) (hlast : ∀ e, s₀.last e = none)
    (hrun : Run (restrict (ofPartial syncStep) freshnessGuard.admits) ⟨s₀, none⟩ ls s)
    (hmain : s.main = none) (hcache : s.state.fields.cacheEnabled = true) (extension : CStr)
    (pair : CStr × Int32) (hrow : s.state.agents.HasRow extension)
    (hpassed : s.state.last extension = some pair) :
    HashHolds s.state.keys extension pair := by
  have hinit : Fresh s₀ := by
    refine ⟨hup, ?_, ?_, ?_⟩
    · intro e pair h
      simp [hlast] at h
    · intro e pair h
      simp [hlast] at h
    · intro _ e pair h
      simp [hlast] at h
  have hfresh := idle_run stable_fresh fresh_call hinit hrun hmain
  exact hfresh.cached hcache extension pair hpassed hrow

theorem statusCall_busy : StatusCall idleAgent
    (.agentStatusChange (some (cstr "2001")) (some (cstr "busy")) 1) :=
  ⟨required_2001, required_busy, fun _ => by decide⟩

/-- A query that finds the hash lost and writes the row back. -/
def writeBackRun : List SyncLabel :=
  [.env (.loseKeys [agentStatusKey (cstr "2001")]),
    .start (.agentStatusQuery (some (cstr "2001")) (some 31) true), .answer .silent,
    .answer (.net answeredTwice), .answer (.ok true), .answer (.now 50),
    .answer (.net answeredTwice), .leave]

/-- A health check whose ping gets no reply. -/
def outageRun : List SyncLabel :=
  [.start .healthCheck, .answer (.now 100), .answer .silent, .answer .silent, .answer .silent,
    .answer (.health 1), .answer .silent, .answer (.net [.outcome (.lost false)]),
    .answer .silent, .answer .silent, .leave]

/-- One warm-up; `o` is the outcome of its `HMSET`. -/
def warmupRun (o : Outcome) : List SyncLabel :=
  [.answer .silent, .answer .silent, .answer (.ok true), .answer .silent, .answer (.ok true),
    .answer (.now 200), .answer (.net [.outcome .answered, .outcome o]),
    .answer (.net answeredTwice)]

/-- The health check that finds Redis back. -/
def recoveryRun (o : Outcome) : List SyncLabel :=
  [.start .healthCheck, .answer (.now 200), .answer .silent, .answer .silent, .answer .silent,
    .answer (.health 1), .answer .silent, .answer (.net [.now 200, .connected true]),
    .answer .silent] ++ warmupRun o ++ [.answer .silent] ++ warmupRun o ++ [.leave]

/-- A status change that has reached MySQL, a lost hash that a query brings
    back, and an outage that ends in two warm-ups. -/
theorem cache_fresh_recovered :
    ∃ s, Run (restrict (ofPartial syncStep) freshnessGuard.admits) ⟨idleAgent, none⟩
        (busyRun .answered ++ writeBackRun ++ outageRun ++ recoveryRun .answered) s ∧
      (s.state.keys (agentStatusKey (cstr "2001"))).isSome ∧
      HashHolds s.state.keys (cstr "2001") (cstr "busy", 1) := by
  have hrun : Run (restrict (ofPartial syncStep) freshnessGuard.admits) ⟨idleAgent, none⟩
      (busyRun .answered ++ writeBackRun ++ outageRun ++ recoveryRun .answered) _ :=
    .cons ⟨statusCall_busy, rfl⟩ <| .cons ⟨⟨trivial, trivial⟩, rfl⟩ <|
      .cons ⟨⟨trivial, trivial⟩, rfl⟩ <| .cons ⟨⟨writeLands_of_exec ⟨_, rfl⟩, trivial⟩, rfl⟩ <|
      .cons ⟨⟨rfl, trivial⟩, rfl⟩ <| .cons ⟨⟨pos_dbQueueMaxSize, trivial⟩, rfl⟩ <|
      .cons ⟨trivial, rfl⟩ <| .cons ⟨trivial, rfl⟩ <| .cons ⟨rfl, rfl⟩ <|
      -- the row that the query reads is settled
      .cons ⟨trivial, rfl⟩ <| .cons ⟨trivial, rfl⟩ <| .cons ⟨⟨trivial, trivial⟩, rfl⟩ <|
      .cons ⟨⟨trivial, trivial⟩, rfl⟩ <| .cons ⟨⟨trivial, fun _ _ _ => rfl⟩, rfl⟩ <|
      .cons ⟨⟨trivial, trivial⟩, rfl⟩ <| .cons ⟨⟨writeLands_of_exec ⟨_, rfl⟩, trivial⟩, rfl⟩ <|
      .cons ⟨trivial, rfl⟩ <|
      -- the outage
      .cons ⟨trivial, rfl⟩ <| .cons ⟨⟨trivial, trivial⟩, rfl⟩ <|
      .cons ⟨⟨trivial, trivial⟩, rfl⟩ <| .cons ⟨⟨trivial, trivial⟩, rfl⟩ <|
      .cons ⟨⟨trivial, trivial⟩, rfl⟩ <| .cons ⟨⟨Int.one_pos, trivial⟩, rfl⟩ <|
      .cons ⟨⟨trivial, trivial⟩, rfl⟩ <| .cons ⟨⟨trivial, trivial⟩, rfl⟩ <|
      .cons ⟨⟨trivial, trivial⟩, rfl⟩ <| .cons ⟨⟨trivial, trivial⟩, rfl⟩ <|
      .cons ⟨trivial, rfl⟩ <|
      -- Redis is back
      .cons ⟨trivial, rfl⟩ <| .cons ⟨⟨trivial, trivial⟩, rfl⟩ <|
      .cons ⟨⟨trivial, trivial⟩, rfl⟩ <| .cons ⟨⟨trivial, trivial⟩, rfl⟩ <|
      .cons ⟨⟨trivial, trivial⟩, rfl⟩ <| .cons ⟨⟨Int.one_pos, trivial⟩, rfl⟩ <|
      .cons ⟨⟨trivial, trivial⟩, rfl⟩ <| .cons ⟨⟨trivial, trivial⟩, rfl⟩ <|
      .cons ⟨⟨trivial, trivial⟩, rfl⟩ <|
      -- two warm-ups from settled rows
      .cons ⟨⟨trivial, trivial⟩, rfl⟩ <| .cons ⟨⟨trivial, trivial⟩, rfl⟩ <|
      .cons ⟨⟨trivial, trivial⟩, rfl⟩ <| .cons ⟨⟨trivial, trivial⟩, rfl⟩ <|
      .cons ⟨⟨rfl, fun _ _ _ => rfl⟩, rfl⟩ <| .cons ⟨⟨trivial, trivial⟩, rfl⟩ <|
      .cons ⟨⟨writeLands_of_exec ⟨_, rfl⟩, trivial⟩, rfl⟩ <| .cons ⟨⟨trivial, trivial⟩, rfl⟩ <|
      .cons ⟨⟨trivial, trivial⟩, rfl⟩ <|
      .cons ⟨⟨trivial, trivial⟩, rfl⟩ <| .cons ⟨⟨trivial, trivial⟩, rfl⟩ <|
      .cons ⟨⟨trivial, trivial⟩, rfl⟩ <| .cons ⟨⟨trivial, trivial⟩, rfl⟩ <|
      .cons ⟨⟨rfl, fun _ _ _ => rfl⟩, rfl⟩ <| .cons ⟨⟨trivial, trivial⟩, rfl⟩ <|
      .cons ⟨⟨writeLands_of_exec ⟨_, rfl⟩, trivial⟩, rfl⟩ <| .cons ⟨⟨trivial, trivial⟩, rfl⟩ <|
      .cons ⟨trivial, rfl⟩ <| .nil _
  exact ⟨_, hrun, rfl, cache_fresh up_idleAgent (fun _ => rfl) hrun rfl rfl (cstr "2001")
    (cstr "busy", 1) (by decide) (by decide)⟩

/-! ## Section 8: A recovery before the worker's turn -/

/-- MySQL is up, the queue has room, and the outcome of every `HMSET` is `o`;
    the connection to Redis may be lost and come back. -/
def outageGuard (o : Outcome) : SyncGuard where
  call := StatusCall
  answer s op a :=
    match op, a with
    | .alloc, .ok b => b = true
    | .queuePush _, _ => s.worker.queue.tasks.length < dbQueueMaxSize
    | .poolHealth, .health n => 0 < n
    | .selectAgent _, .ok b => b = true
    | .selectDepartments, .ok b => b = true
    | .selectAgents, .ok b => b = true
    | .redisHmset _ _, .net answers => answers = [.outcome .answered, .outcome o]
    | _, _ => True
  env := EnvStep.Nominal

/-- Whenever nothing is left to do for the worker and the cache is enabled,
    an agent hash holds the pair most recently passed, without any condition
    on the reads of MySQL. -/
def CacheFresh (o : Outcome) : Prop :=
  ∀ (s₀ : SyncState) (ls : List SyncLabel) (s : SyncSystem), s₀.fields.Up →
    s₀.fields.cacheEnabled = true → s₀.redis.Connected → s₀.worker.pending = [] →
    (∀ e, HashHolds s₀.keys e (s₀.agents.agentPair e)) → (∀ e, s₀.last e = none) →
    Run (restrict (ofPartial syncStep) (outageGuard o).admits) ⟨s₀, none⟩ ls s →
    s.main = none → s.state.worker.pending = [] → s.state.fields.cacheEnabled = true →
    ∀ extension pair, s.state.agents.HasRow extension → s.state.last extension = some pair →
      HashHolds s.state.keys extension pair

/-- A status change while the cache is disabled. -/
def queuedRun : List SyncLabel :=
  [.start (.agentStatusChange (some (cstr "2001")) (some (cstr "busy")) 1), .answer .silent,
    .answer (.ok true), .answer .silent, .leave]

/-- The worker's turn. -/
def workerRun : List SyncLabel := [.env .workerPop, .env (.workerFinish [] true)]

/-- What it takes to refute freshness at the end of a run. -/
theorem not_cacheFresh {o : Outcome} {ls : List SyncLabel} {s : SyncSystem} {h : RedisHash}
    {pair : CStr × Int32}
    (hrun : Run (restrict (ofPartial syncStep) (outageGuard o).admits) ⟨idleAgent, none⟩ ls s)
    (hmain : s.main = none) (hpending : s.state.worker.pending = [])
    (hcache : s.state.fields.cacheEnabled = true) (hrow : s.state.agents.HasRow (cstr "2001"))
    (hlast : s.state.last (cstr "2001") = some pair)
    (hkey : s.state.keys (agentStatusKey (cstr "2001")) = some (.hash h))
    (hne : hashPair h ≠ some pair) : ¬ CacheFresh o := by
  intro hfresh
  have hholds := hfresh idleAgent ls s up_idleAgent rfl ⟨rfl, rfl⟩ rfl hashHolds_idleAgent
    (fun _ => rfl) hrun hmain hpending hcache (cstr "2001") pair hrow hlast
  exact hne (hholds h hkey)

/-- The status change made while Redis is away waits in the queue; the
    warm-up of the recovery reads the row before the worker's turn and leaves
    `idle` in the hash, whatever becomes of its `HMSET`. -/
theorem warmup_stale : ¬ CacheFresh .answered ∧ ¬ CacheFresh .refused := by
  suffices hrefute : ∀ o, o = .answered ∨ o = .refused → ¬ CacheFresh o from
    ⟨hrefute _ (Or.inl rfl), hrefute _ (Or.inr rfl)⟩
  intro o ho
  rcases ho with rfl | rfl <;>
    exact not_cacheFresh
        -- the ping gets no reply
        (.cons ⟨trivial, rfl⟩ <| .cons ⟨trivial, rfl⟩ <| .cons ⟨trivial, rfl⟩ <|
        .cons ⟨trivial, rfl⟩ <| .cons ⟨trivial, rfl⟩ <| .cons ⟨Int.one_pos, rfl⟩ <|
        .cons ⟨trivial, rfl⟩ <| .cons ⟨trivial, rfl⟩ <| .cons ⟨trivial, rfl⟩ <|
        .cons ⟨trivial, rfl⟩ <| .cons ⟨trivial, rfl⟩ <|
        -- the update is queued only
        .cons ⟨statusCall_busy, rfl⟩ <| .cons ⟨trivial, rfl⟩ <| .cons ⟨rfl, rfl⟩ <|
        .cons ⟨pos_dbQueueMaxSize, rfl⟩ <| .cons ⟨trivial, rfl⟩ <|
        -- Redis is back
        .cons ⟨trivial, rfl⟩ <| .cons ⟨trivial, rfl⟩ <| .cons ⟨trivial, rfl⟩ <|
        .cons ⟨trivial, rfl⟩ <| .cons ⟨trivial, rfl⟩ <| .cons ⟨Int.one_pos, rfl⟩ <|
        .cons ⟨trivial, rfl⟩ <| .cons ⟨trivial, rfl⟩ <| .cons ⟨trivial, rfl⟩ <|
        -- two warm-ups from the old row
        .cons ⟨trivial, rfl⟩ <| .cons ⟨trivial, rfl⟩ <| .cons ⟨rfl, rfl⟩ <|
        .cons ⟨trivial, rfl⟩ <| .cons ⟨rfl, rfl⟩ <| .cons ⟨trivial, rfl⟩ <| .cons ⟨rfl, rfl⟩ <|
        .cons ⟨trivial, rfl⟩ <| .cons ⟨trivial, rfl⟩ <| .cons ⟨trivial, rfl⟩ <|
        .cons ⟨trivial, rfl⟩ <| .cons ⟨rfl, rfl⟩ <| .cons ⟨trivial, rfl⟩ <| .cons ⟨rfl, rfl⟩ <|
        .cons ⟨trivial, rfl⟩ <| .cons ⟨rfl, rfl⟩ <| .cons ⟨trivial, rfl⟩ <|
        .cons ⟨trivial, rfl⟩ <|
        -- the worker's turn
        .cons ⟨trivial, rfl⟩ <| .cons ⟨rfl, rfl⟩ <| .nil _ :
        Run _ _ (outageRun ++ queuedRun ++ recoveryRun _ ++ workerRun) _)
      rfl rfl rfl (by decide) rfl rfl (by decide)

end DbSync
