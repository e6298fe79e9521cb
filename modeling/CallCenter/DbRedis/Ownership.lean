import CallCenter.DbRedis.Hiredis
import CallCenter.Framework.Transition

/-! # Connections and Replies

    `db_redis.c` has one pointer for the connection, which every function
    checks, replaces and frees on its own, and frees every reply where it is
    read.  Whatever the server answers and whatever is called, no object is
    touched after it is freed and no reply is left behind.  A connection is
    left behind only by a `db_redis_connect` on a client that has one
    (`redis_ledger`).

    `reconnects_le` is the protection against reconnect storms: attempts are a
    second apart. -/

namespace Hiredis

open CFormat Interference Ownership DbRedis Transition

/-! ## Section 1: The objects of a client -/

/-- The objects `others` and the connection `ctx`. -/
def withContext (others : Finset Object) (ctx : Option Addr) : Finset Object :=
  ctx.elim others fun a => insert (.context a) others

/-- The log is sound; held are the connection `ctx` and, apart from it, `others`. -/
def Owns (others : Finset Object) (ctx : Option Addr) (s : HiState) : Prop :=
  Holds s.log (withContext others ctx) ∧ ∀ a, ctx = some a → Object.context a ∉ others

/-- The log is sound, and these objects are held. -/
def Held (held : Finset Object) (s : HiState) : Prop := Holds s.log held

theorem owns_none {others : Finset Object} {s : HiState} (h : Held others s) :
    Owns others none s :=
  ⟨h, nofun⟩

theorem stable_hiWorld (P : HiState → Prop) : hiWorld.Stable P :=
  fun _ _ h _ => h.elim

variable {α : Type} {held others : Finset Object}

theorem triple_pure {P : HiState → Prop} {Q : α → HiState → Prop} {a : α}
    (h : ∀ s, P s → Q a s) : hiWorld.Triple P (pure a) Q :=
  World.Triple.ret (stable_hiWorld _) h

/-! ### Operations -/

/-- An operation that is answered with nothing and adds one event. -/
theorem held_access {op : HiOp} {e : Event Object} {next : Finset Object}
    {k : HiRet op → HiProg α} {Q : α → HiState → Prop}
    (hop : ∀ ans s r t, hiPerform op ans s = some (r, t) → t.log = s.log ++ [e])
    (he : step held e = some next) (hk : ∀ r, hiWorld.Triple (Held next) (k r) Q) :
    hiWorld.Triple (Held held) (Prog.op op >>= k) Q := by
  apply World.Triple.op (stable_hiWorld _) fun _ => Held next
  · intro s ans r t hs _ hperf
    unfold Held
    rw [hop ans s r t hperf]
    exact Holds.snoc hs he
  · exact hk

variable {Q : α → HiState → Prop} {k : Unit → HiProg α}

theorem held_useContext {a : Addr} (ha : .context a ∈ held)
    (hk : hiWorld.Triple (Held held) (k ()) Q) :
    hiWorld.Triple (Held held) (useContext a >>= k) Q := by
  apply held_access (e := .use (.context a)) ?_ (if_pos ha) fun _ => hk
  intro ans s r t hperf
  cases ans <;> cases hperf
  rfl

theorem held_useReply {r : Addr} (hr : .reply r ∈ held)
    (hk : hiWorld.Triple (Held held) (k ()) Q) :
    hiWorld.Triple (Held held) (useReply r >>= k) Q := by
  apply held_access (e := .use (.reply r)) ?_ (if_pos hr) fun _ => hk
  intro ans s r t hperf
  cases ans <;> cases hperf
  rfl

theorem held_redisFree {a : Addr} (ha : .context a ∈ held)
    (hk : hiWorld.Triple (Held (held.erase (.context a))) (k ()) Q) :
    hiWorld.Triple (Held held) (redisFree a >>= k) Q := by
  apply held_access (e := .release (.context a)) ?_ (if_pos ha) fun _ => hk
  intro ans s r t hperf
  cases ans <;> cases hperf
  rfl

theorem held_freeReplyObject {r : Addr} (hr : .reply r ∈ held)
    (hk : hiWorld.Triple (Held (held.erase (.reply r))) (k ()) Q) :
    hiWorld.Triple (Held held) (freeReplyObject r >>= k) Q := by
  apply held_access (e := .release (.reply r)) ?_ (if_pos hr) fun _ => hk
  intro ans s r t hperf
  cases ans <;> cases hperf
  rfl

theorem held_timeNow {k : Int → HiProg α} (hk : ∀ t, hiWorld.Triple (Held held) (k t) Q) :
    hiWorld.Triple (Held held) (timeNow >>= k) Q := by
  apply World.Triple.op (stable_hiWorld _) fun _ => Held held
  · intro s ans r t hs _ hperf
    cases ans <;> cases hperf
    exact hs
  · exact hk

/-- The objects after `redisConnectWithTimeout`. -/
def AfterConnect (held : Finset Object) (result : Option (Addr × Bool)) (s : HiState) : Prop :=
  match result with
  | none => Held held s
  | some (a, _) => Held (insert (.context a) held) s ∧ .context a ∉ held

/-- The objects after `redisCommand`. -/
def AfterCommand (held : Finset Object) (result : Option (Addr × RedisReply)) (s : HiState) :
    Prop :=
  match result with
  | none => Held held s
  | some (r, _) => Held (insert (.reply r) held) s ∧ .reply r ∉ held

/-- A connection that is made is one more object. -/
theorem held_redisConnect {k : Option (Addr × Bool) → HiProg α}
    (hnone : hiWorld.Triple (Held held) (k none) Q)
    (hsome : ∀ a err, .context a ∉ held →
      hiWorld.Triple (Held (insert (.context a) held)) (k (some (a, err))) Q) :
    hiWorld.Triple (Held held) (redisConnect >>= k) Q := by
  apply World.Triple.op (stable_hiWorld _) (AfterConnect held)
  · intro s ans result t hs hadm hperf
    cases ans with
    | connected answer =>
      cases answer with
      | none =>
        cases hperf
        exact hs
      | some c =>
        cases hperf
        have hfresh : .context c.1 ∉ held := hadm held hs
        exact ⟨Holds.acquire hs hfresh, hfresh⟩
    | _ => cases hperf
  · intro result
    cases result with
    | none => exact hnone
    | some c =>
      apply World.Triple.of_fact
      exact hsome c.1 c.2

/-- The reply to a command is one more object; the command uses its connection. -/
theorem held_redisCommand {ctx : Option Addr} {c : RedisCommand}
    {k : Option (Addr × RedisReply) → HiProg α} (hctx : contextAt ctx ∈ held)
    (hnone : hiWorld.Triple (Held held) (k none) Q)
    (hsome : ∀ r reply, .reply r ∉ held →
      hiWorld.Triple (Held (insert (.reply r) held)) (k (some (r, reply))) Q) :
    hiWorld.Triple (Held held) (redisCommand ctx c >>= k) Q := by
  apply World.Triple.op (stable_hiWorld _) (AfterCommand held)
  · intro s ans result t hs hadm hperf
    cases ans with
    | replied answer =>
      cases answer with
      | none =>
        cases hperf
        exact Holds.use hs hctx
      | some c =>
        cases hperf
        have hfresh : .reply c.1 ∉ held := hadm held hs
        have hlog := (Holds.use hs hctx).acquire hfresh
        rw [List.append_assoc] at hlog
        exact ⟨hlog, hfresh⟩
    | _ => cases hperf
  · intro result
    cases result with
    | none => exact hnone
    | some c =>
      apply World.Triple.of_fact
      exact hsome c.1 c.2

/-- A reply is freed after it is read. -/
theorem held_withReply {ctx : Option Addr} {c : RedisCommand} {noReply : α}
    {value : RedisReply → α} (hctx : contextAt ctx ∈ held) :
    hiWorld.Triple (Held held) (withReply ctx c noReply value) fun _ => Held held := by
  apply held_redisCommand hctx
  · exact triple_pure fun _ hs => hs
  · intro r reply hfresh
    apply held_useReply (Finset.mem_insert_self _ _)
    apply held_freeReplyObject (Finset.mem_insert_self _ _)
    rw [Finset.erase_insert hfresh]
    exact triple_pure fun _ hs => hs

/-! ## Section 2: The functions -/

/-- What `db_redis_connect` leaves behind, and that it has a connection if it
    returns 0. -/
def Connected (others : Finset Object) (r : Int × RedisClient) (s : HiState) : Prop :=
  Owns others r.2.ctx s ∧ (r.1 = 0 → r.2.ctx.isSome)

theorem connected_drop (client : RedisClient) :
    hiWorld.Triple (Held others) (pure ((-1 : Int), client.drop)) (Connected others) :=
  triple_pure fun _ hs => ⟨owns_none hs, nofun⟩

/-- Freeing the connection again leaves the other objects. -/
theorem connected_free {a : Addr} (hfresh : .context a ∉ others) (client : RedisClient) :
    hiWorld.Triple (Held (insert (.context a) others))
      (redisFree a >>= fun _ => pure ((-1 : Int), client.drop)) (Connected others) := by
  apply held_redisFree (Finset.mem_insert_self _ _)
  rw [Finset.erase_insert hfresh]
  exact connected_drop client

theorem connected_selectDatabase {a : Addr} (hfresh : .context a ∉ others)
    (client : RedisClient) :
    hiWorld.Triple (Held (insert (.context a) others)) (selectDatabase client a)
      (Connected others) := by
  have hend : hiWorld.Triple (Held (insert (.context a) others))
      (pure ((0 : Int), { client with ctx := some a, connected := true, retryCount := 0 }))
      (Connected others) := by
    apply triple_pure
    intro s hs
    refine ⟨⟨hs, fun b hb => ?_⟩, fun _ => rfl⟩
    obtain rfl : a = b := Option.some.inj hb
    exact hfresh
  have hmem : contextAt (some a) ∈ insert (.context a) others := Finset.mem_insert_self _ _
  unfold selectDatabase
  split
  · apply held_redisCommand hmem
    · exact hend
    · intro r reply hreply
      apply held_freeReplyObject (Finset.mem_insert_self _ _)
      rw [Finset.erase_insert hreply]
      exact hend
  · exact hend

theorem connected_dbRedisConnect (client : RedisClient) :
    hiWorld.Triple (Held others) (dbRedisConnect client) (Connected others) := by
  apply held_redisConnect
  · exact connected_drop client
  · intro a err hfresh
    have hmem : Object.context a ∈ insert (.context a) others := Finset.mem_insert_self _ _
    apply held_useContext hmem
    split
    · apply held_useContext hmem
      exact connected_free hfresh client
    · apply held_useContext hmem
      split
      · apply held_redisCommand hmem
        · exact connected_free hfresh client
        · intro r reply hreply
          apply held_useReply (Finset.mem_insert_self _ _)
          apply held_freeReplyObject (Finset.mem_insert_self _ _)
          rw [Finset.erase_insert hreply]
          -- a refused password costs the connection
          split
          · exact connected_free hfresh client
          · exact connected_selectDatabase hfresh client
      · exact connected_selectDatabase hfresh client

theorem owns_freeIfSet {ctx : Option Addr} {Q : α → HiState → Prop} {k : Unit → HiProg α}
    (hk : hiWorld.Triple (Held others) (k ()) Q) :
    hiWorld.Triple (Owns others ctx) (freeIfSet ctx >>= k) Q := by
  cases ctx with
  | none => exact World.Triple.conseq hk (fun _ hs => hs.1) fun _ _ h => h
  | some a =>
    intro s hs
    have hfresh : .context a ∉ others := hs.2 a rfl
    refine held_redisFree (Finset.mem_insert_self _ _) ?_ s hs.1
    rw [Finset.erase_insert hfresh]
    exact hk

theorem connected_dbRedisReconnect (client : RedisClient) :
    hiWorld.Triple (Owns others client.ctx) (dbRedisReconnect client) (Connected others) := by
  intro s hs
  refine held_timeNow (Q := Connected others) ?_ s hs.1
  intro now
  split
  · -- too early: the client is returned as it is
    refine triple_pure fun t ht => ⟨⟨ht, hs.2⟩, nofun⟩
  · intro t ht
    refine owns_freeIfSet ?_ t ⟨ht, hs.2⟩
    apply World.Triple.bind (connected_dbRedisConnect _)
    rintro ⟨ret, client'⟩
    dsimp only
    apply triple_pure
    intro u hu
    -- the pointer is that of `db_redis_connect`
    by_cases hzero : ret = 0
    · rw [if_pos hzero]
      exact hu
    · rw [if_neg hzero]
      exact hu

theorem connected_dbRedisPing (client : RedisClient) :
    hiWorld.Triple (Owns others client.ctx) (dbRedisPing client) fun r s =>
      Connected others r s ∧ r.2.ctx = client.ctx := by
  unfold dbRedisPing
  split
  · exact triple_pure fun s hs => ⟨⟨hs, nofun⟩, rfl⟩
  · next hup =>
    obtain ⟨a, hctx⟩ : ∃ a, client.ctx = some a := by
      cases hctx : client.ctx with
      | none => simp [hctx] at hup
      | some a => exact ⟨a, rfl⟩
    have hmem : contextAt client.ctx ∈ withContext others client.ctx := by
      rw [hctx]
      exact Finset.mem_insert_self _ _
    intro s hs
    refine World.Triple.bind (held_withReply hmem) (fun ret => ?_) s hs.1
    apply triple_pure
    intro t ht
    split
    · exact ⟨⟨⟨ht, hs.2⟩, nofun⟩, rfl⟩
    · exact ⟨⟨⟨ht, hs.2⟩, fun _ => by rw [hctx]; rfl⟩, rfl⟩

theorem connected_dbRedisEnsureConnected (client : RedisClient) :
    hiWorld.Triple (Owns others client.ctx) (dbRedisEnsureConnected client)
      (Connected others) := by
  apply World.Triple.bind (connected_dbRedisPing client)
  rintro ⟨ret, client'⟩
  dsimp only
  split
  · next hzero =>
    apply triple_pure
    intro s hs
    exact ⟨hs.1.1, fun _ => hs.1.2 hzero⟩
  · exact World.Triple.conseq (connected_dbRedisReconnect client') (fun _ hs => hs.1.1)
      fun _ _ h => h

theorem owns_dbRedisDisconnect (client : RedisClient) :
    hiWorld.Triple (Owns others client.ctx) (dbRedisDisconnect client) fun r s =>
      Owns others r.ctx s ∧ r.ctx = none := by
  apply owns_freeIfSet
  exact triple_pure fun _ hs => ⟨owns_none hs, rfl⟩

/-- What follows the check of the connection may use it. -/
theorem owns_ensured {ρ : Type} (client : RedisClient) {f : RedisClient → HiProg (ρ × RedisClient)}
    {failure : ρ}
    (hf : ∀ client' : RedisClient, contextAt client'.ctx ∈ withContext others client'.ctx →
      hiWorld.Triple (Held (withContext others client'.ctx)) (f client') fun r s =>
        r.2 = client' ∧ Held (withContext others client'.ctx) s) :
    hiWorld.Triple (Owns others client.ctx) (ensured client failure f)
      fun r => Owns others r.2.ctx := by
  apply World.Triple.bind (connected_dbRedisEnsureConnected client)
  rintro ⟨ret, client'⟩
  dsimp only
  split
  · exact triple_pure fun _ hs => hs.1
  · next hzero =>
    intro s hs
    obtain ⟨a, hctx⟩ := Option.isSome_iff_exists.mp (hs.2 (by simpa using hzero))
    have hmem : contextAt client'.ctx ∈ withContext others client'.ctx := by
      dsimp only at hctx
      rw [hctx]
      exact Finset.mem_insert_self _ _
    refine World.wp_mono ?_ (hf client' hmem s hs.1.1)
    rintro ⟨result, client''⟩ t ⟨hsame, ht⟩
    dsimp only at hsame
    subst hsame
    exact ⟨ht, hs.1.2⟩

theorem owns_command {ρ : Type} (client : RedisClient) (c : RedisCommand) (failure : ρ)
    (value : RedisReply → ρ) :
    hiWorld.Triple (Owns others client.ctx) (command client c failure value)
      fun r => Owns others r.2.ctx := by
  apply owns_ensured client
  intro client' hmem
  apply World.Triple.bind (held_withReply hmem)
  intro result
  exact triple_pure fun _ hs => ⟨rfl, hs⟩

theorem owns_dbRedisHmset (client : RedisClient) (key : CStr) (fields : List (CStr × CStr)) :
    hiWorld.Triple (Owns others client.ctx) (dbRedisHmset client key fields)
      fun r => Owns others r.2.ctx := by
  apply owns_ensured client
  intro client' hmem
  split
  · exact triple_pure fun _ hs => ⟨rfl, hs⟩
  · apply World.Triple.bind (held_withReply hmem)
    intro ret
    exact triple_pure fun _ hs => ⟨rfl, hs⟩

/-! ## Section 3: Runs of calls -/

/-- The calls, with the arguments after the context. -/
inductive RedisCall where
  | connect
  | disconnect
  | reconnect
  | ping
  | ensureConnected
  | set (key value : CStr)
  | get (key : CStr) (room : Option Nat)
  | del (key : CStr)
  | exists (key : CStr)
  | expire (key : CStr) (seconds : Int32)
  | incr (key : CStr)
  | decr (key : CStr)
  | hset (key field value : CStr)
  | hget (key field : CStr) (room : Option Nat)
  | hgetall (key : CStr) (resultSize : Int32)
  | hdel (key field : CStr)
  | hmset (key : CStr) (fields : List (CStr × CStr))
  | zadd (key : CStr) (score : Lua.LuaFloat) (member : CStr)
  | zrem (key member : CStr)
  | zcard (key : CStr)
  | zpopmin (key : CStr) (room : Option Nat)
  deriving DecidableEq

/-- The client after a call; its result is left out. -/
def afterCall {ρ : Type} (p : HiProg (ρ × RedisClient)) : HiProg RedisClient :=
  p >>= fun r => pure r.2

def RedisCall.program (client : RedisClient) : RedisCall → HiProg RedisClient
  | .connect => afterCall (dbRedisConnect client)
  | .disconnect => dbRedisDisconnect client
  | .reconnect => afterCall (dbRedisReconnect client)
  | .ping => afterCall (dbRedisPing client)
  | .ensureConnected => afterCall (dbRedisEnsureConnected client)
  | .set key value => afterCall (dbRedisSet client key value)
  | .get key room => afterCall (dbRedisGet client key room)
  | .del key => afterCall (dbRedisDel client key)
  | .exists key => afterCall (dbRedisExists client key)
  | .expire key seconds => afterCall (dbRedisExpire client key seconds)
  | .incr key => afterCall (dbRedisIncr client key)
  | .decr key => afterCall (dbRedisDecr client key)
  | .hset key field value => afterCall (dbRedisHset client key field value)
  | .hget key field room => afterCall (dbRedisHget client key field room)
  | .hgetall key resultSize => afterCall (dbRedisHgetall client key resultSize)
  | .hdel key field => afterCall (dbRedisHdel client key field)
  | .hmset key fields => afterCall (dbRedisHmset client key fields)
  | .zadd key score member => afterCall (dbRedisZadd client key score member)
  | .zrem key member => afterCall (dbRedisZrem client key member)
  | .zcard key => afterCall (dbRedisZcard client key)
  | .zpopmin key room => afterCall (dbRedisZpopmin client key room)

/-- `overwritten` records the connections that the pointer was taken from by
    a `db_redis_connect`. -/
structure ClientState where
  client : RedisClient
  hi : HiState
  overwritten : List Addr

/-- The connection that a call overwrites. -/
def overwrites (client : RedisClient) (call : RedisCall) : List Addr :=
  if call = .connect then client.ctx.toList else []

def clientStep (s : ClientState) (call : RedisCall) (t : ClientState) : Prop :=
  hiWorld.Exec (call.program s.client) s.hi t.client t.hi ∧
    t.overwritten = s.overwritten ++ overwrites s.client call

/-- After `db_redis_create`. -/
def clientInit (password : CStr) (dbIndex : Int32) : ClientState :=
  ⟨dbRedisCreate password dbIndex, ⟨[], 0⟩, []⟩

def contexts (as : List Addr) : Finset Object := (as.map Object.context).toFinset

theorem owns_afterCall {ρ : Type} {client : RedisClient} {p : HiProg (ρ × RedisClient)}
    (hp : hiWorld.Triple (Owns others client.ctx) p fun r => Owns others r.2.ctx) :
    hiWorld.Triple (Owns others client.ctx) (afterCall p) fun r => Owns others r.ctx := by
  apply World.Triple.bind hp
  intro r
  exact triple_pure fun _ hs => hs

/-- **Call**: every call but a `db_redis_connect` keeps the other objects. -/
theorem owns_program (client : RedisClient) {call : RedisCall} (hcall : call ≠ .connect) :
    hiWorld.Triple (Owns others client.ctx) (call.program client)
      fun r => Owns others r.ctx := by
  cases call with
  | connect => exact absurd rfl hcall
  | disconnect =>
    exact World.Triple.conseq (owns_dbRedisDisconnect client) (fun _ hs => hs)
      fun _ _ hs => hs.1
  | reconnect =>
    exact owns_afterCall (World.Triple.conseq (connected_dbRedisReconnect client)
      (fun _ hs => hs) fun _ _ hs => hs.1)
  | ping =>
    exact owns_afterCall (World.Triple.conseq (connected_dbRedisPing client)
      (fun _ hs => hs) fun _ _ hs => hs.1.1)
  | ensureConnected =>
    exact owns_afterCall (World.Triple.conseq (connected_dbRedisEnsureConnected client)
      (fun _ hs => hs) fun _ _ hs => hs.1)
  | hmset key fields => exact owns_afterCall (owns_dbRedisHmset client key fields)
  | _ => exact owns_afterCall (owns_command client _ _ _)

theorem withContext_contexts (as : List Addr) (ctx : Option Addr) :
    withContext (contexts as) ctx = contexts (as ++ ctx.toList) := by
  cases ctx with
  | none => simp [withContext]
  | some a =>
    ext x
    simp [withContext, contexts, eq_comm]

/-- Held are the connection of the client and those that were overwritten. -/
def Accounted (s : ClientState) : Prop := Owns (contexts s.overwritten) s.client.ctx s.hi

theorem accounted_step {s t : ClientState} {call : RedisCall} (hs : Accounted s)
    (hstep : clientStep s call t) : Accounted t := by
  unfold Accounted at hs ⊢
  obtain ⟨hexec, hover⟩ := hstep
  by_cases hcall : call = .connect
  · subst hcall
    rw [overwrites, if_pos rfl] at hover
    rw [hover, ← withContext_contexts]
    -- the connection of the client is now one of the others
    have hconnect : hiWorld.Triple (Held (withContext (contexts s.overwritten) s.client.ctx))
        (afterCall (dbRedisConnect s.client))
        fun r => Owns (withContext (contexts s.overwritten) s.client.ctx) r.ctx := by
      apply World.Triple.bind (connected_dbRedisConnect s.client)
      intro r
      exact triple_pure fun _ h => h.1
    exact hexec.wp (hconnect s.hi hs.1)
  · rw [overwrites, if_neg hcall, List.append_nil] at hover
    rw [hover]
    exact hexec.wp (owns_program s.client hcall s.hi hs)

theorem accounted_run {password : CStr} {dbIndex : Int32} {calls : List RedisCall}
    {t : ClientState} (h : Run clientStep (clientInit password dbIndex) calls t) :
    Accounted t := by
  have hinit : Accounted (clientInit password dbIndex) := ⟨holds_nil, nofun⟩
  exact Run.invariant hinit (fun _ _ _ => accounted_step) h

/-- **Ledger**: in every run no connection and no reply is used after it is
    freed or freed twice, and every reply is freed.  Of the connections, those
    that a `db_redis_connect` has overwritten are never freed, and all others
    are once the client is destroyed. -/
theorem redis_ledger {password : CStr} {dbIndex : Int32} {calls : List RedisCall}
    {t : ClientState} {u : HiState}
    (h : Run clientStep (clientInit password dbIndex) calls t)
    (hdestroy : hiWorld.Exec (dbRedisDestroy t.client) t.hi () u) :
    Holds u.log (contexts t.overwritten) ∧
      ∀ object, u.log.count (.acquire object) =
        u.log.count (.release object) + if object ∈ contexts t.overwritten then 1 else 0 := by
  have hend : hiWorld.Triple (Owns (contexts t.overwritten) t.client.ctx)
      (dbRedisDestroy t.client) fun _ => Held (contexts t.overwritten) := by
    apply World.Triple.bind (owns_dbRedisDisconnect t.client)
    intro client
    apply triple_pure
    intro s hs
    have hlog := hs.1.1
    rw [hs.2] at hlog
    exact hlog
  have hheld : Holds u.log (contexts t.overwritten) := hdestroy.wp (hend t.hi (accounted_run h))
  exact ⟨hheld, fun object => hheld.count object⟩

theorem exec_done {op : HiOp} {k : HiRet op → HiProg α} {s t u : HiState} {r : HiRet op} {a : α}
    (hperf : hiPerform op .done s = some (r, t)) (hk : hiWorld.Exec (k r) t a u) :
    hiWorld.Exec (.call op k) s a u := by
  have hadm : hiWorld.admits s op .done := trivial
  exact World.Exec.call hadm hperf hk

theorem exec_connected (c : Addr) {k : Option (Addr × Bool) → HiProg α} {s u : HiState} {a : α}
    (hlog : Holds s.log held) (hfresh : .context c ∉ held)
    (hk : hiWorld.Exec (k (some (c, false)))
      { s.note [.acquire (.context c)] with connects := s.connects + 1 } a u) :
    hiWorld.Exec (redisConnect >>= k) s a u := by
  have hadm : hiWorld.admits s .connect (.connected (some (c, false))) := by
    intro held' hheld'
    rw [← hlog.unique hheld']
    exact hfresh
  exact World.Exec.call hadm rfl hk

/-- A client that was connected twice. -/
def connectedTwice : ClientState :=
  ⟨{ dbRedisCreate [] 0 with ctx := some 8, connected := true },
    ⟨[.acquire (.context 7), .use (.context 7), .use (.context 7),
      .acquire (.context 8), .use (.context 8), .use (.context 8)], 2⟩, [7]⟩

theorem run_connectedTwice :
    Run clientStep (clientInit [] 0) [.connect, .connect] connectedTwice := by
  let once : ClientState :=
    ⟨{ dbRedisCreate [] 0 with ctx := some 7, connected := true },
      ⟨[.acquire (.context 7), .use (.context 7), .use (.context 7)], 1⟩, []⟩
  have hfirst : clientStep (clientInit [] 0) .connect once := by
    refine ⟨exec_connected 7 holds_nil (Finset.notMem_empty _) ?_, rfl⟩
    exact exec_done rfl (exec_done rfl (World.Exec.ret _ _))
  have hlog : Holds once.hi.log {Object.context 7} := rfl
  have hsecond : clientStep once .connect connectedTwice := by
    refine ⟨exec_connected 8 hlog (by decide) ?_, rfl⟩
    exact exec_done rfl (exec_done rfl (World.Exec.ret _ _))
  exact Run.cons hfirst (Run.single hsecond)

/-- The first of its connections is never freed. -/
theorem redis_ledger_connected_twice :
    ∃ u, hiWorld.Exec (dbRedisDestroy connectedTwice.client) connectedTwice.hi () u ∧
      Holds u.log {Object.context 7} := by
  have hdestroy : hiWorld.Exec (dbRedisDestroy connectedTwice.client) connectedTwice.hi ()
      (connectedTwice.hi.note [.release (.context 8)]) :=
    exec_done rfl (World.Exec.ret _ _)
  exact ⟨_, hdestroy, (redis_ledger run_connectedTwice hdestroy).1⟩

/-! ## Section 4: Attempts to connect -/

/-- A connection was asked for `n` times. -/
def Asked (n : Nat) (s : HiState) : Prop := s.connects = n

variable {n : Nat}

/-- Nothing but `redisConnectWithTimeout` asks for a connection. -/
theorem asked_op {op : HiOp} {k : HiRet op → HiProg α} {Q : α → HiState → Prop}
    (hop : op ≠ .connect) (hk : ∀ r, hiWorld.Triple (Asked n) (k r) Q) :
    hiWorld.Triple (Asked n) (.call op k) Q := by
  apply World.Triple.call (stable_hiWorld _) fun _ => Asked n
  · intro s ans r t hs _ hperf
    cases op with
    | connect => exact absurd rfl hop
    | command ctx c =>
      cases ans with
      | replied result =>
        cases result with
        | none =>
          cases hperf
          exact hs
        | some r =>
          cases hperf
          exact hs
      | _ => cases hperf
    | _ =>
      cases ans <;> cases hperf
      exact hs
  · exact hk

section Asked

variable {Q : α → HiState → Prop} {k : Unit → HiProg α}

theorem asked_timeNow {k : Int → HiProg α} (hk : ∀ t, hiWorld.Triple (Asked n) (k t) Q) :
    hiWorld.Triple (Asked n) (timeNow >>= k) Q :=
  @asked_op _ n .time k Q nofun hk

theorem asked_redisCommand {ctx : Option Addr} {c : RedisCommand}
    {k : Option (Addr × RedisReply) → HiProg α} (hk : ∀ r, hiWorld.Triple (Asked n) (k r) Q) :
    hiWorld.Triple (Asked n) (redisCommand ctx c >>= k) Q :=
  @asked_op _ n (.command ctx c) k Q nofun hk

theorem asked_useContext {a : Addr} (hk : hiWorld.Triple (Asked n) (k ()) Q) :
    hiWorld.Triple (Asked n) (useContext a >>= k) Q :=
  @asked_op _ n (.useContext a) k Q nofun fun _ => hk

theorem asked_useReply {r : Addr} (hk : hiWorld.Triple (Asked n) (k ()) Q) :
    hiWorld.Triple (Asked n) (useReply r >>= k) Q :=
  @asked_op _ n (.useReply r) k Q nofun fun _ => hk

theorem asked_redisFree {a : Addr} (hk : hiWorld.Triple (Asked n) (k ()) Q) :
    hiWorld.Triple (Asked n) (redisFree a >>= k) Q :=
  @asked_op _ n (.freeContext a) k Q nofun fun _ => hk

theorem asked_freeReplyObject {r : Addr} (hk : hiWorld.Triple (Asked n) (k ()) Q) :
    hiWorld.Triple (Asked n) (freeReplyObject r >>= k) Q :=
  @asked_op _ n (.freeReply r) k Q nofun fun _ => hk

theorem asked_freeIfSet {ctx : Option Addr} (hk : hiWorld.Triple (Asked n) (k ()) Q) :
    hiWorld.Triple (Asked n) (freeIfSet ctx >>= k) Q := by
  cases ctx with
  | none => exact hk
  | some a => exact asked_redisFree hk

end Asked

theorem asked_withReply {ctx : Option Addr} {c : RedisCommand} {noReply : α}
    {value : RedisReply → α} :
    hiWorld.Triple (Asked n) (withReply ctx c noReply value) fun _ => Asked n := by
  apply asked_redisCommand
  intro result
  cases result with
  | none => exact triple_pure fun _ hs => hs
  | some r => exact asked_useReply (asked_freeReplyObject (triple_pure fun _ hs => hs))

/-- The attempts, and the time of the last one as the client has it. -/
def AskedAt (n : Nat) (last : Int) (r : Int × RedisClient) (s : HiState) : Prop :=
  Asked n s ∧ r.2.lastReconnectAttempt = last

theorem asked_selectDatabase (client : RedisClient) (a : Addr) :
    hiWorld.Triple (Asked n) (selectDatabase client a)
      (AskedAt n client.lastReconnectAttempt) := by
  unfold selectDatabase
  split
  · apply asked_redisCommand
    intro result
    cases result with
    | none => exact triple_pure fun _ hs => ⟨hs, rfl⟩
    | some r => exact asked_freeReplyObject (triple_pure fun _ hs => ⟨hs, rfl⟩)
  · exact triple_pure fun _ hs => ⟨hs, rfl⟩

theorem asked_dbRedisConnect (client : RedisClient) :
    hiWorld.Triple (Asked n) (dbRedisConnect client)
      (AskedAt (n + 1) client.lastReconnectAttempt) := by
  have hdrop : hiWorld.Triple (Asked (n + 1)) (pure ((-1 : Int), client.drop))
      (AskedAt (n + 1) client.lastReconnectAttempt) := triple_pure fun _ hs => ⟨hs, rfl⟩
  apply World.Triple.op (stable_hiWorld _) fun _ => Asked (n + 1)
  · intro s ans r t hs _ hperf
    cases ans with
    | connected result => cases result <;> cases hperf <;> exact congrArg (· + 1) hs
    | _ => cases hperf
  · intro result
    cases result with
    | none => exact hdrop
    | some c =>
      apply asked_useContext
      split
      · exact asked_useContext (asked_redisFree hdrop)
      · apply asked_useContext
        split
        · apply asked_redisCommand
          intro reply
          cases reply with
          | none => exact asked_redisFree hdrop
          | some r =>
            apply asked_useReply
            apply asked_freeReplyObject
            split
            · exact asked_redisFree hdrop
            · exact asked_selectDatabase client c.1
        · exact asked_selectDatabase client c.1

/-- As many attempts as the last of them is late, and `k` more. -/
def Paced (k : Int) (client : RedisClient) (s : HiState) : Prop :=
  s.connects ≤ client.lastReconnectAttempt + k

/-- A spec about a number of attempts that is known. -/
theorem paced_of_asked {P : HiState → Prop} {p : HiProg α} {Q : α → HiState → Prop}
    (h : ∀ s, P s → hiWorld.Triple (Asked s.connects) p Q) : hiWorld.Triple P p Q :=
  fun s hs => h s hs s rfl

variable {k : Int}

theorem paced_dbRedisReconnect (client : RedisClient) :
    hiWorld.Triple (Paced k client) (dbRedisReconnect client) fun r => Paced k r.2 := by
  apply paced_of_asked
  intro s hs
  apply asked_timeNow
  intro now
  split
  · refine triple_pure fun t ht => ?_
    unfold Paced
    rw [ht]
    exact hs
  · next hlate =>
    apply asked_freeIfSet
    apply World.Triple.bind (asked_dbRedisConnect _)
    rintro ⟨ret, client'⟩
    dsimp only
    apply triple_pure
    intro t ht
    obtain ⟨hasked, hlast⟩ := ht
    -- the attempt is at least a second behind the last one
    have hpaced : Paced k client' t := by
      unfold Paced at hs ⊢
      unfold Asked at hasked
      dsimp only at hlast
      rw [hasked, hlast]
      unfold dbReconnectBaseSec at hlate
      push_cast
      omega
    by_cases hzero : ret = 0
    · rw [if_pos hzero]
      exact hpaced
    · rw [if_neg hzero]
      exact hpaced

theorem paced_dbRedisPing (client : RedisClient) :
    hiWorld.Triple (Paced k client) (dbRedisPing client) fun r => Paced k r.2 := by
  apply paced_of_asked
  intro s hs
  unfold dbRedisPing
  split
  · refine triple_pure fun t ht => ?_
    unfold Paced
    rw [ht]
    exact hs
  · apply World.Triple.bind asked_withReply
    intro ret
    apply triple_pure
    intro t ht
    unfold Paced
    rw [ht]
    split <;> exact hs

theorem paced_dbRedisEnsureConnected (client : RedisClient) :
    hiWorld.Triple (Paced k client) (dbRedisEnsureConnected client) fun r => Paced k r.2 := by
  apply World.Triple.bind (paced_dbRedisPing client)
  rintro ⟨ret, client'⟩
  dsimp only
  split
  · exact triple_pure fun _ hs => hs
  · exact paced_dbRedisReconnect client'

theorem paced_ensured {ρ : Type} (client : RedisClient) {f : RedisClient → HiProg (ρ × RedisClient)}
    {failure : ρ}
    (hf : ∀ (client' : RedisClient) (n : Nat),
      hiWorld.Triple (Asked n) (f client') fun r s => Asked n s ∧ r.2 = client') :
    hiWorld.Triple (Paced k client) (ensured client failure f) fun r => Paced k r.2 := by
  apply World.Triple.bind (paced_dbRedisEnsureConnected client)
  rintro ⟨ret, client'⟩
  dsimp only
  split
  · exact triple_pure fun _ hs => hs
  · apply paced_of_asked
    intro s hs
    apply World.Triple.conseq (hf client' s.connects) fun _ h => h
    rintro ⟨result, client''⟩ t ⟨hasked, hsame⟩
    dsimp only at hsame
    subst hsame
    unfold Paced
    rw [hasked]
    exact hs

theorem paced_command {ρ : Type} (client : RedisClient) (c : RedisCommand) (failure : ρ)
    (value : RedisReply → ρ) :
    hiWorld.Triple (Paced k client) (command client c failure value) fun r => Paced k r.2 := by
  apply paced_ensured client
  intro client' n
  apply World.Triple.bind asked_withReply
  intro result
  exact triple_pure fun _ hs => ⟨hs, rfl⟩

theorem paced_dbRedisHmset (client : RedisClient) (key : CStr) (fields : List (CStr × CStr)) :
    hiWorld.Triple (Paced k client) (dbRedisHmset client key fields) fun r => Paced k r.2 := by
  apply paced_ensured client
  intro client' n
  split
  · exact triple_pure fun _ hs => ⟨hs, rfl⟩
  · apply World.Triple.bind asked_withReply
    intro ret
    exact triple_pure fun _ hs => ⟨hs, rfl⟩

/-- A direct `db_redis_connect` is one attempt that is not paced. -/
theorem paced_program (client : RedisClient) (call : RedisCall) :
    hiWorld.Triple (Paced k client) (call.program client)
      fun r => Paced (k + if call = .connect then 1 else 0) r := by
  have hafter {ρ : Type} {p : HiProg (ρ × RedisClient)}
      (hp : hiWorld.Triple (Paced k client) p fun r => Paced k r.2) :
      hiWorld.Triple (Paced k client) (afterCall p) fun r => Paced (k + 0) r := by
    apply World.Triple.bind hp
    intro r
    exact triple_pure fun s hs => by rwa [add_zero]
  cases call with
  | connect =>
    apply paced_of_asked
    intro s hs
    apply World.Triple.bind (asked_dbRedisConnect client)
    intro r
    apply triple_pure
    intro t ht
    obtain ⟨hasked, hlast⟩ := ht
    unfold Paced at hs ⊢
    unfold Asked at hasked
    rw [if_pos rfl, hasked, hlast]
    push_cast
    omega
  | disconnect =>
    apply paced_of_asked
    intro s hs
    apply asked_freeIfSet
    apply triple_pure
    intro t ht
    unfold Paced at hs ⊢
    rw [if_neg nofun, ht, add_zero]
    exact hs
  | reconnect => exact hafter (paced_dbRedisReconnect client)
  | ping => exact hafter (paced_dbRedisPing client)
  | ensureConnected => exact hafter (paced_dbRedisEnsureConnected client)
  | hmset key fields => exact hafter (paced_dbRedisHmset client key fields)
  | _ => exact hafter (paced_command client _ _ _)

/-- `Paced`, counted from the state `s`. -/
def PacedSince (s : ClientState) (calls : List RedisCall) (t : ClientState) : Prop :=
  Paced (s.hi.connects - s.client.lastReconnectAttempt + calls.count .connect) t.client t.hi

theorem pacedSince_step {s t u : ClientState} {calls : List RedisCall} {call : RedisCall}
    (ht : PacedSince s calls t) (hstep : clientStep t call u) :
    PacedSince s (calls ++ [call]) u := by
  have hu := hstep.1.wp (paced_program t.client call t.hi ht)
  unfold PacedSince Paced
  unfold Paced at hu
  rw [List.count_append, List.count_singleton]
  by_cases hcall : call = .connect
  · simp only [hcall, if_true, beq_self_eq_true] at hu ⊢
    push_cast at hu ⊢
    omega
  · have hbeq : (call == RedisCall.connect) = false := by simpa using hcall
    simp only [hcall, hbeq, if_false, Bool.false_eq_true] at hu ⊢
    push_cast at hu ⊢
    omega

/-- **Pace**: between two states of a run the client has asked for a
    connection at most once for each second that its last attempt has moved
    on, and once for each direct `db_redis_connect`. -/
theorem reconnects_le {calls : List RedisCall} {s t : ClientState}
    (h : Run clientStep s calls t) :
    (t.hi.connects : Int) - s.hi.connects ≤
      t.client.lastReconnectAttempt - s.client.lastReconnectAttempt +
        calls.count .connect := by
  have hinit : PacedSince s [] s := by simp [PacedSince, Paced]
  have hpaced : PacedSince s calls t :=
    Run.trace_invariant hinit (fun _ _ _ _ _ => pacedSince_step) h
  unfold PacedSince Paced at hpaced
  omega

/-- A call under answers of the clock and refused connections. -/
theorem clientStep_of_exec {s : ClientState} {call : RedisCall} {client : RedisClient}
    {hi : HiState} (answers : List HiAnswer)
    (hrefused : ∀ ans ∈ answers, ans = .connected none ∨ ∃ now, ans = .now now)
    (h : exec hiPerform (call.program s.client) answers s.hi = some (client, hi)) :
    clientStep s call ⟨client, hi, s.overwritten ++ overwrites s.client call⟩ := by
  have hadm : ∀ ans ∈ answers, ∀ s op, hiWorld.admits s op ans := by
    intro ans hans s op
    rcases hrefused ans hans with rfl | ⟨now, rfl⟩
    · trivial
    · trivial
  have hexec : exec hiWorld.perform (call.program s.client) answers s.hi = some (client, hi) := h
  exact ⟨exec_sound hadm hexec, rfl⟩

/-- The server is away: a direct attempt, one at second 5, two calls within
    that second that make none, and one at second 6. -/
theorem reconnects_le_outage :
    ∃ t, Run clientStep (clientInit [] 0)
        [.connect, .reconnect, .ping, .get (cstr "k") none, .reconnect, .incr (cstr "k")] t ∧
      t.hi.connects = 3 ∧ t.client.lastReconnectAttempt = 6 ∧
      (t.hi.connects : Int) - 0 ≤ t.client.lastReconnectAttempt - 0 + 1 := by
  have hrun : Run clientStep (clientInit [] 0)
      [.connect, .reconnect, .ping, .get (cstr "k") none, .reconnect, .incr (cstr "k")] _ :=
    .cons (clientStep_of_exec [.connected none] (by simp) rfl) <|
    .cons (clientStep_of_exec [.now 5, .connected none] (by simp) rfl) <|
    .cons (clientStep_of_exec [] (by simp) rfl) <|
    .cons (clientStep_of_exec [.now 5] (by simp) rfl) <|
    .cons (clientStep_of_exec [.now 6, .connected none] (by simp) rfl) <|
    .cons (clientStep_of_exec [.now 6] (by simp) rfl) <| .nil _
  exact ⟨_, hrun, rfl, rfl, reconnects_le hrun⟩

end Hiredis
