import CallCenter.DbRedis.Client
import CallCenter.DbRedis.Hgetall
import CallCenter.Framework.LuaNumber
import CallCenter.Framework.Ownership

/-! # `db_redis.c` over `hiredis`

    All functions of `db_redis.c` that talk to the server, down to the objects
    that the client library hands out: a `redisContext` for a connection and a
    `redisReply` for an answer.  Every access that the code makes to such an
    object is an operation of its own and is logged.

    `Erases` relates these programs to the ones of `DbRedis.Client`, which
    leave the objects out: `erases_dbRedisConnect` and its siblings. -/

namespace Hiredis

open CFormat BoundedPrint Interference Ownership DbRedis

/-! ## Section 1: The client library -/

abbrev Addr : Type := Nat

inductive Object where
  | context (a : Addr)
  | reply (a : Addr)
  /-- What a NULL pointer points to. -/
  | null
  deriving DecidableEq, Repr

def contextAt (ctx : Option Addr) : Object := ctx.elim .null .context

/-- `core` are the commands of the agent cache. -/
inductive RedisCommand where
  | core (c : Command)
  | get (key : CStr)
  | del (key : CStr)
  | exists (key : CStr)
  | expire (key : CStr) (seconds : Int32)
  | incr (key : CStr)
  | decr (key : CStr)
  | hset (key field value : CStr)
  | hgetall (key : CStr)
  | hdel (key field : CStr)
  | zadd (key score member : CStr)
  | zrem (key member : CStr)
  | zcard (key : CStr)
  | zpopmin (key : CStr)

/-- `reply->type`, with `integer` or the strings of the elements. -/
inductive RedisReply where
  | core (r : Reply)
  | integer (n : Int)
  | array (elements : List CStr)
  deriving DecidableEq, Repr

inductive HiOp where
  /-- `time(NULL)` -/
  | time
  /-- `redisConnectWithTimeout` -/
  | connect
  /-- `redisCommand`, `redisCommandArgv` -/
  | command (ctx : Option Addr) (c : RedisCommand)
  /-- The fields of a context are read, or its timeout is set. -/
  | useContext (a : Addr)
  /-- The fields of a reply are read. -/
  | useReply (a : Addr)
  /-- `redisFree` -/
  | freeContext (a : Addr)
  /-- `freeReplyObject` -/
  | freeReply (a : Addr)

/-- A context comes with its `err`. -/
abbrev HiRet : HiOp → Type
  | .time => Int
  | .connect => Option (Addr × Bool)
  | .command _ _ => Option (Addr × RedisReply)
  | .useContext _ => Unit
  | .useReply _ => Unit
  | .freeContext _ => Unit
  | .freeReply _ => Unit

inductive HiAnswer where
  | now (t : Int)
  | connected (result : Option (Addr × Bool))
  | replied (result : Option (Addr × RedisReply))
  | done
  deriving DecidableEq, Repr

/-- The log of accesses, and how often a connection was asked for. -/
structure HiState where
  log : List (Event Object)
  connects : Nat

def HiState.note (s : HiState) (events : List (Event Object)) : HiState :=
  { s with log := s.log ++ events }

def hiPerform : (op : HiOp) → HiAnswer → HiState → Option (HiRet op × HiState)
  | .time, .now t, s => some (t, s)
  | .connect, .connected none, s => some (none, { s with connects := s.connects + 1 })
  | .connect, .connected (some (a, err)), s =>
    some (some (a, err), { s.note [.acquire (.context a)] with connects := s.connects + 1 })
  | .command ctx _, .replied none, s => some (none, s.note [.use (contextAt ctx)])
  | .command ctx _, .replied (some (a, reply)), s =>
    some (some (a, reply), s.note [.use (contextAt ctx), .acquire (.reply a)])
  | .useContext a, .done, s => some ((), s.note [.use (.context a)])
  | .useReply a, .done, s => some ((), s.note [.use (.reply a)])
  | .freeContext a, .done, s => some ((), s.note [.release (.context a)])
  | .freeReply a, .done, s => some ((), s.note [.release (.reply a)])
  | _, _, _ => none

/-- The allocator hands out no object that is still held. -/
def HiAdmits (s : HiState) (_ : HiOp) : HiAnswer → Prop
  | .connected (some (a, _)) => ∀ held, Holds s.log held → Object.context a ∉ held
  | .replied (some (a, _)) => ∀ held, Holds s.log held → Object.reply a ∉ held
  | _ => True

/-- One thread uses the client. -/
def hiWorld : World HiOp HiRet HiAnswer HiState where
  perform := hiPerform
  admits := HiAdmits
  others _ _ := False

/-! ## Section 2: The connection -/

/-- `redis_context_t`; `ctx` is the pointer of that name. -/
structure RedisClient where
  ctx : Option Addr
  password : CStr
  dbIndex : Int32
  connected : Bool
  retryCount : Int32
  lastReconnectAttempt : Int
  deriving DecidableEq, Repr

/-- `db_redis_create`, with memory for the structure. -/
def dbRedisCreate (password : CStr) (dbIndex : Int32) : RedisClient :=
  ⟨none, password, dbIndex, false, 0, 0⟩

abbrev HiProg : Type → Type := Prog HiOp HiRet

def timeNow : HiProg Int := Prog.op HiOp.time

def redisConnect : HiProg (Option (Addr × Bool)) := Prog.op HiOp.connect

def redisCommand (ctx : Option Addr) (c : RedisCommand) : HiProg (Option (Addr × RedisReply)) :=
  Prog.op (HiOp.command ctx c)

def useContext (a : Addr) : HiProg Unit := Prog.op (HiOp.useContext a)

def useReply (a : Addr) : HiProg Unit := Prog.op (HiOp.useReply a)

def redisFree (a : Addr) : HiProg Unit := Prog.op (HiOp.freeContext a)

def freeReplyObject (a : Addr) : HiProg Unit := Prog.op (HiOp.freeReply a)

def RedisClient.drop (client : RedisClient) : RedisClient :=
  { client with ctx := none, connected := false }

/-- `if (ptr) redisFree(ptr);` -/
def freeIfSet (ctx : Option Addr) : HiProg Unit :=
  match ctx with
  | some a => redisFree a
  | none => return ()

/-- The end of `db_redis_connect`. -/
def selectDatabase (client : RedisClient) (a : Addr) : HiProg (Int × RedisClient) := do
  if 0 < client.dbIndex then
    let reply ← redisCommand (some a) (.core (.select client.dbIndex))
    match reply with
    | some (r, _) => freeReplyObject r
    | none => pure ()
  return (0, { client with ctx := some a, connected := true, retryCount := 0 })

def dbRedisConnect (client : RedisClient) : HiProg (Int × RedisClient) := do
  let result ← redisConnect
  match result with
  | none => return (-1, client.drop)
  | some (a, err) =>
    useContext a
    if err then
      -- the text of the error is logged first
      useContext a
      redisFree a
      return (-1, client.drop)
    else
      useContext a
      if 0 < client.password.length then
        let reply ← redisCommand (some a) (.core (.auth client.password))
        match reply with
        | none =>
          redisFree a
          return (-1, client.drop)
        | some (r, reply) =>
          useReply r
          freeReplyObject r
          if reply = .core .error then
            redisFree a
            return (-1, client.drop)
          else selectDatabase client a
      else selectDatabase client a

def dbRedisDisconnect (client : RedisClient) : HiProg RedisClient := do
  freeIfSet client.ctx
  return client.drop

/-- `db_redis_destroy`, without the structure itself. -/
def dbRedisDestroy (client : RedisClient) : HiProg Unit := do
  let _ ← dbRedisDisconnect client

def dbRedisReconnect (client : RedisClient) : HiProg (Int × RedisClient) := do
  let now ← timeNow
  if now - client.lastReconnectAttempt < dbReconnectBaseSec then
    return (-1, client)
  else
    freeIfSet client.ctx
    let client := { client with
      lastReconnectAttempt := now, ctx := none, retryCount := client.retryCount + 1 }
    let (ret, client) ← dbRedisConnect client
    return (ret, if ret = 0 then { client with retryCount := 0 } else client)

/-- Sends a command and takes a value out of the reply. -/
def withReply {α : Type} (ctx : Option Addr) (c : RedisCommand) (noReply : α)
    (value : RedisReply → α) : HiProg α := do
  let reply ← redisCommand ctx c
  match reply with
  | none => return noReply
  | some (r, reply) =>
    useReply r
    freeReplyObject r
    return value reply

/-- `(reply->type == REDIS_REPLY_ERROR) ? -1 : 0` -/
def statusOf (reply : RedisReply) : Int := if reply = .core .error then -1 else 0

/-- `db_redis_ping`; a context that fails is kept. -/
def dbRedisPing (client : RedisClient) : HiProg (Int × RedisClient) := do
  if client.ctx.isNone || !client.connected then
    return (-1, client)
  else
    let ret ← withReply client.ctx (.core .ping) (-1) statusOf
    return if ret ≠ 0 then (-1, { client with connected := false }) else (0, client)

def dbRedisEnsureConnected (client : RedisClient) : HiProg (Int × RedisClient) := do
  let (ret, client) ← dbRedisPing client
  if ret = 0 then return (0, client) else dbRedisReconnect client

/-! ## Section 3: Commands -/

/-- `if (db_redis_ensure_connected(ctx) != 0) return …;`, and what follows. -/
def ensured {α : Type} (client : RedisClient) (failure : α)
    (f : RedisClient → HiProg (α × RedisClient)) : HiProg (α × RedisClient) := do
  let (ret, client) ← dbRedisEnsureConnected client
  if ret ≠ 0 then return (failure, client) else f client

/-- What all functions below but `db_redis_hmset` do: send one command and take
    their result out of the reply. -/
def command {α : Type} (client : RedisClient) (c : RedisCommand) (failure : α)
    (value : RedisReply → α) : HiProg (α × RedisClient) :=
  ensured client failure fun client => do
    let result ← withReply client.ctx c failure value
    return (result, client)

/-- `(reply->type == REDIS_REPLY_INTEGER) ? (int)reply->integer : -1` -/
def integerOf : RedisReply → Int32
  | .integer n => Int32.ofInt n
  | _ => -1

/-- What `out` holds on return code 0.  It has room for `room` bytes and the
    NUL, or it is NULL or has no size. -/
def stringOf (room : Option Nat) : RedisReply → Option CStr
  | .core (.string s) => room.map s.take
  | _ => none

def dbRedisSet (client : RedisClient) (key value : CStr) : HiProg (Int × RedisClient) :=
  command client (.core (.set key value)) (-1) statusOf

def dbRedisGet (client : RedisClient) (key : CStr) (room : Option Nat) :
    HiProg (Option CStr × RedisClient) :=
  command client (.get key) none (stringOf room)

def dbRedisDel (client : RedisClient) (key : CStr) : HiProg (Int32 × RedisClient) :=
  command client (.del key) (-1) integerOf

def dbRedisExists (client : RedisClient) (key : CStr) : HiProg (Int32 × RedisClient) :=
  command client (.exists key) (-1) integerOf

def dbRedisExpire (client : RedisClient) (key : CStr) (seconds : Int32) :
    HiProg (Int32 × RedisClient) :=
  command client (.expire key seconds) (-1) integerOf

def dbRedisIncr (client : RedisClient) (key : CStr) : HiProg (Int32 × RedisClient) :=
  command client (.incr key) (-1) integerOf

def dbRedisDecr (client : RedisClient) (key : CStr) : HiProg (Int32 × RedisClient) :=
  command client (.decr key) (-1) integerOf

def dbRedisHset (client : RedisClient) (key field value : CStr) : HiProg (Int × RedisClient) :=
  command client (.hset key field value) (-1) statusOf

def dbRedisHget (client : RedisClient) (key field : CStr) (room : Option Nat) :
    HiProg (Option CStr × RedisClient) :=
  command client (.core (.hget key field)) none (stringOf room)

/-- The reply as the loop of `db_redis_hgetall` sees it. -/
def RedisReply.fields : RedisReply → HgetallReply
  | .array elements => .array elements
  | _ => .other

/-- The return code and the calls of `snprintf` on `result_json`. -/
def dbRedisHgetall (client : RedisClient) (key : CStr) (resultSize : Int32) :
    HiProg ((Int × List Call) × RedisClient) :=
  command client (.hgetall key) (DbRedis.dbRedisHgetall true none resultSize) fun reply =>
    DbRedis.dbRedisHgetall true (some reply.fields) resultSize

def dbRedisHdel (client : RedisClient) (key field : CStr) : HiProg (Int32 × RedisClient) :=
  command client (.hdel key field) (-1) integerOf

/-- `db_redis_hmset`, with memory for its vectors. -/
def dbRedisHmset (client : RedisClient) (key : CStr) (fields : List (CStr × CStr)) :
    HiProg (Int × RedisClient) :=
  ensured client (-1) fun client => do
    if fields.length = 0 then
      return (0, client)
    else
      let ret ← withReply client.ctx (.core (.argv (hmsetArgv key fields))) (-1) statusOf
      return (ret, client)

/-- What `%.6f` prints for a double. -/
def sixPlacesText : Lua.LuaFloat → CStr
  | .finite q =>
    let micros := (Lua.roundHalfEven (q * 10 ^ 6)).natAbs
    let places := natText (10 ^ 6 + micros % 10 ^ 6)
    (if q < 0 then cstr "-" else []) ++ natText (micros / 10 ^ 6) ++ cstr "." ++ places.tail
  | .infinity negative => if negative then cstr "-inf" else cstr "inf"
  | .nan => cstr "nan"

def dbRedisZadd (client : RedisClient) (key : CStr) (score : Lua.LuaFloat) (member : CStr) :
    HiProg (Int32 × RedisClient) :=
  command client (.zadd key (sixPlacesText score) member) (-1) integerOf

def dbRedisZrem (client : RedisClient) (key member : CStr) : HiProg (Int32 × RedisClient) :=
  command client (.zrem key member) (-1) integerOf

def dbRedisZcard (client : RedisClient) (key : CStr) : HiProg (Int32 × RedisClient) :=
  command client (.zcard key) (-1) integerOf

/-- The return code and what `member_out` holds after 0. -/
def poppedOf (room : Option Nat) : RedisReply → Int × Option CStr
  | .array (member :: _ :: _) => (0, room.map member.take)
  | _ => (-1, none)

def dbRedisZpopmin (client : RedisClient) (key : CStr) (room : Option Nat) :
    HiProg ((Int × Option CStr) × RedisClient) :=
  command client (.zpopmin key) (-1, none) (poppedOf room)

/-! ## Section 4: Without the objects -/

def RedisReply.erase : RedisReply → Reply
  | .core r => r
  | _ => .status

def RedisClient.erase (client : RedisClient) : RedisContext :=
  ⟨client.ctx.isSome, client.password, client.dbIndex, client.connected, client.retryCount,
    client.lastReconnectAttempt⟩

/-- An access to an object that is there already. -/
def HiOp.Access : HiOp → Prop
  | .useContext _ | .useReply _ | .freeContext _ | .freeReply _ => True
  | _ => False

/-- The programs ask the clock and the server for the same, and related
    answers lead to related results.  Accesses to objects do not count. -/
inductive Erases {α β : Type} (R : α → β → Prop) : HiProg α → RedisProg β → Prop where
  | ret {a : α} {b : β} (h : R a b) : Erases R (.ret a) (.ret b)
  | time {k : Int → HiProg α} {k' : Int → RedisProg β} (h : ∀ t, Erases R (k t) (k' t)) :
      Erases R (.call .time k) (.call .time k')
  | connect {k : Option (Addr × Bool) → HiProg α} {k' : Bool → RedisProg β}
      (hnone : Erases R (k none) (k' false))
      (hsome : ∀ a err, Erases R (k (some (a, err))) (k' !err)) :
      Erases R (.call .connect k) (.call .connect k')
  | command {ctx : Option Addr} {c : Command} {k : Option (Addr × RedisReply) → HiProg α}
      {k' : Option Reply → RedisProg β} (hlost : Erases R (k none) (k' none))
      (hreply : ∀ a reply, Erases R (k (some (a, reply))) (k' (some reply.erase))) :
      Erases R (.call (.command ctx (.core c)) k) (.call (.command c) k')
  | access {op : HiOp} {k : HiRet op → HiProg α} {q : RedisProg β} (hop : op.Access)
      (h : ∀ r, Erases R (k r) q) : Erases R (.call op k) q

variable {α β γ δ : Type} {R : α → β → Prop} {S : γ → δ → Prop}

theorem Erases.bind {p : HiProg α} {q : RedisProg β} {f : α → HiProg γ} {g : β → RedisProg δ}
    (h : Erases R p q) (hf : ∀ a b, R a b → Erases S (f a) (g b)) :
    Erases S (p >>= f) (q >>= g) := by
  induction h with
  | ret hR => exact hf _ _ hR
  | time _ ih => exact Erases.time ih
  | connect _ _ ihnone ihsome => exact Erases.connect ihnone ihsome
  | command _ _ ihlost ihreply => exact Erases.command ihlost ihreply
  | access hop _ ih => exact Erases.access hop ih

/-- The return codes agree, and the contexts but for the pointer. -/
def SameResult {ρ : Type} (r : ρ × RedisClient) (r' : ρ × RedisContext) : Prop :=
  r'.1 = r.1 ∧ r'.2 = r.2.erase

/-! ### Accesses -/

variable {f : Unit → HiProg γ} {q : RedisProg δ}

theorem erases_useContext {a : Addr} (hf : Erases S (f ()) q) :
    Erases S (useContext a >>= f) q :=
  @Erases.access _ _ S (.useContext a) f q trivial fun _ => hf

theorem erases_useReply {a : Addr} (hf : Erases S (f ()) q) : Erases S (useReply a >>= f) q :=
  @Erases.access _ _ S (.useReply a) f q trivial fun _ => hf

theorem erases_redisFree {a : Addr} (hf : Erases S (f ()) q) : Erases S (redisFree a >>= f) q :=
  @Erases.access _ _ S (.freeContext a) f q trivial fun _ => hf

theorem erases_freeReplyObject {a : Addr} (hf : Erases S (f ()) q) :
    Erases S (freeReplyObject a >>= f) q :=
  @Erases.access _ _ S (.freeReply a) f q trivial fun _ => hf

theorem erases_freeIfSet {ctx : Option Addr} (hf : Erases S (f ()) q) :
    Erases S (freeIfSet ctx >>= f) q := by
  cases ctx with
  | none => exact hf
  | some a => exact erases_redisFree hf

theorem erases_withReply {ctx : Option Addr} {c : Command} {noReply : α}
    {value : RedisReply → α} {f : α → HiProg γ} {g : Option Reply → RedisProg δ}
    (hlost : Erases S (f noReply) (g none))
    (hreply : ∀ reply, Erases S (f (value reply)) (g (some reply.erase))) :
    Erases S (withReply ctx (.core c) noReply value >>= f) (Prog.op (.command c) >>= g) := by
  apply Erases.command
  · exact hlost
  · intro a reply
    -- the reply is read and freed
    exact erases_useReply (erases_freeReplyObject (hreply reply))

theorem failed_erase (reply : RedisReply) :
    failed (some reply.erase) = decide (reply = .core .error) := by
  cases reply with
  | core r => cases r <;> rfl
  | integer n => rfl
  | array elements => rfl

/-! ### The connection -/

theorem erases_selectDatabase (client : RedisClient) (a : Addr) :
    Erases SameResult (selectDatabase client a) (DbRedis.selectDatabase client.erase) := by
  unfold selectDatabase DbRedis.selectDatabase
  show Erases SameResult (if 0 < client.dbIndex then _ else _)
    (if 0 < client.dbIndex then _ else _)
  split
  · apply Erases.command
    · exact Erases.ret ⟨rfl, rfl⟩
    · intro r reply
      exact erases_freeReplyObject (Erases.ret ⟨rfl, rfl⟩)
  · exact Erases.ret ⟨rfl, rfl⟩

theorem erases_dbRedisConnect (client : RedisClient) :
    Erases SameResult (dbRedisConnect client) (DbRedis.dbRedisConnect client.erase) := by
  have hdrop : SameResult ((-1, client.drop) : Int × RedisClient) (-1, client.erase.drop) :=
    ⟨rfl, rfl⟩
  unfold dbRedisConnect DbRedis.dbRedisConnect
  apply Erases.connect
  · exact Erases.ret hdrop
  · intro a err
    apply erases_useContext
    cases err with
    | true =>
      -- a context with an error is freed
      exact erases_useContext (erases_redisFree (Erases.ret hdrop))
    | false =>
      apply erases_useContext
      show Erases SameResult (if 0 < client.password.length then _ else _)
        (if 0 < client.password.length then _ else _)
      split
      · apply Erases.command
        · exact erases_redisFree (Erases.ret hdrop)
        · intro r reply
          apply erases_useReply
          apply erases_freeReplyObject
          show Erases SameResult _ (if failed (some reply.erase) then _ else _)
          rw [failed_erase]
          by_cases herror : reply = .core .error
          · rw [if_pos herror, if_pos (decide_eq_true herror)]
            exact erases_redisFree (Erases.ret hdrop)
          · rw [if_neg herror, if_neg (by simpa using herror)]
            exact erases_selectDatabase client a
      · exact erases_selectDatabase client a

theorem erases_dbRedisReconnect (client : RedisClient) :
    Erases SameResult (dbRedisReconnect client) (DbRedis.dbRedisReconnect client.erase) := by
  apply Erases.time
  intro now
  show Erases SameResult (if now - client.lastReconnectAttempt < dbReconnectBaseSec then _ else _)
    (if now - client.lastReconnectAttempt < dbReconnectBaseSec then _ else _)
  split
  · exact Erases.ret ⟨rfl, rfl⟩
  · apply erases_freeIfSet
    apply Erases.bind (erases_dbRedisConnect _)
    rintro ⟨ret, client'⟩ ⟨ret', context⟩ ⟨hret, hcontext⟩
    dsimp only at hret hcontext
    subst hret hcontext
    apply Erases.ret
    refine ⟨rfl, ?_⟩
    dsimp only
    split <;> rfl

theorem erases_dbRedisPing (client : RedisClient) :
    Erases SameResult (dbRedisPing client) (DbRedis.dbRedisPing client.erase) := by
  have hlink : (client.ctx.isNone || !client.connected) =
      (!client.erase.link || !client.erase.connected) := by
    cases hctx : client.ctx <;> simp [RedisClient.erase, hctx]
  unfold dbRedisPing DbRedis.dbRedisPing
  rw [hlink]
  split
  · exact Erases.ret ⟨rfl, rfl⟩
  · apply erases_withReply
    · exact Erases.ret ⟨rfl, rfl⟩
    · intro reply
      show Erases SameResult _ (pure (if failed (some reply.erase) then _ else _))
      rw [failed_erase]
      unfold statusOf
      by_cases herror : reply = .core .error <;> simp only [herror] <;>
        exact Erases.ret ⟨rfl, rfl⟩

theorem erases_dbRedisEnsureConnected (client : RedisClient) :
    Erases SameResult (dbRedisEnsureConnected client)
      (DbRedis.dbRedisEnsureConnected client.erase) := by
  apply Erases.bind (erases_dbRedisPing client)
  rintro ⟨ret, client'⟩ ⟨ret', context⟩ ⟨hret, hcontext⟩
  dsimp only at hret hcontext
  subst hret hcontext
  dsimp only
  split
  · exact Erases.ret ⟨rfl, rfl⟩
  · exact erases_dbRedisReconnect client'

/-! ### Commands -/

theorem erases_ensured (client : RedisClient) {f : Int × RedisClient → HiProg γ}
    {g : Int × RedisContext → RedisProg δ}
    (h : ∀ ret client', Erases S (f (ret, client')) (g (ret, client'.erase))) :
    Erases S (dbRedisEnsureConnected client >>= f)
      (DbRedis.dbRedisEnsureConnected client.erase >>= g) := by
  apply Erases.bind (erases_dbRedisEnsureConnected client)
  rintro ⟨ret, client'⟩ ⟨ret', context⟩ ⟨hret, hcontext⟩
  dsimp only at hret hcontext
  subst hret hcontext
  exact h _ client'

/-- The command itself, behind the check of the connection. -/
theorem erases_result {ρ : Type} (client : RedisClient) {ctx : Option Addr} {c : Command}
    {noReply : ρ} {value : RedisReply → ρ} {g : Option Reply → RedisProg (ρ × RedisContext)}
    (hlost : g none = pure (noReply, client.erase))
    (hreply : ∀ reply, g (some reply.erase) = pure (value reply, client.erase)) :
    Erases SameResult
      (withReply ctx (.core c) noReply value >>= fun result => pure (result, client))
      (Prog.op (.command c) >>= g) := by
  apply erases_withReply
  · rw [hlost]
    exact Erases.ret ⟨rfl, rfl⟩
  · intro reply
    rw [hreply]
    exact Erases.ret ⟨rfl, rfl⟩

theorem status_erase (reply : RedisReply) :
    (if failed (some reply.erase) then (-1 : Int) else 0) = statusOf reply := by
  rw [failed_erase]
  unfold statusOf
  simp only [decide_eq_true_eq]

theorem erases_dbRedisSet (client : RedisClient) (key value : CStr) :
    Erases SameResult (dbRedisSet client key value)
      (DbRedis.dbRedisSet client.erase key value) := by
  apply erases_ensured
  intro ret client'
  dsimp only
  split
  · exact Erases.ret ⟨rfl, rfl⟩
  · apply erases_result
    · rfl
    · intro reply
      rw [status_erase]

theorem erases_dbRedisHget (client : RedisClient) (key field : CStr) (outSize : Nat) :
    Erases SameResult (dbRedisHget client key field (some (outSize - 1)))
      (DbRedis.dbRedisHget client.erase key field outSize) := by
  apply erases_ensured
  intro ret client'
  dsimp only
  split
  · exact Erases.ret ⟨rfl, rfl⟩
  · apply erases_result
    · rfl
    · intro reply
      cases reply with
      | core r => cases r <;> rfl
      | integer n => rfl
      | array elements => rfl

theorem erases_dbRedisHmset (client : RedisClient) (key : CStr) (fields : List (CStr × CStr)) :
    Erases SameResult (dbRedisHmset client key fields)
      (DbRedis.dbRedisHmset client.erase key fields) := by
  apply erases_ensured
  intro ret client'
  dsimp only
  split
  · exact Erases.ret ⟨rfl, rfl⟩
  · split
    · exact Erases.ret ⟨rfl, rfl⟩
    · apply erases_result
      · rfl
      · intro reply
        rw [status_erase]

end Hiredis
