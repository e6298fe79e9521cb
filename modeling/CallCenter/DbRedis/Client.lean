import CallCenter.Framework.CFormat
import CallCenter.Framework.Interference

/-! # The Redis Client

    The functions of `db_redis.c` that the agent cache goes through, as
    programs over the network: the clock, the connection, and commands whose
    outcome is the environment's.  The keyspace is that of the configured
    database.

    What a call can do to the keyspace is bounded whatever the network
    answers: `dbRedisSet_keys`, `dbRedisHmset_keys`, `dbRedisHget_keys` and
    the functions that only handle the connection (`dbRedisPing_keys`,
    `dbRedisEnsureConnected_keys`). -/

namespace DbRedis

open CFormat Interference

/-! ## Section 1: The server -/

/-- The fields of a hash. -/
abbrev RedisHash : Type := CStr → Option CStr

inductive RedisValue where
  | string (s : CStr)
  | hash (fields : RedisHash)

abbrev Keyspace : Type := CStr → Option RedisValue

/-- The commands sent.  `argv` is an argument vector; an entry that the
    program has not assigned is `none`. -/
inductive Command where
  | ping
  | auth (password : CStr)
  | select (dbIndex : Int32)
  | set (key value : CStr)
  | hget (key field : CStr)
  | argv (args : List (Option CStr))

/-- `redisReply` -/
inductive Reply where
  | status
  | error
  | nil
  | string (s : CStr)
  deriving DecidableEq, Repr

/-- The field-value pairs of an argument vector. -/
def assignedPairs : List (Option CStr) → List (CStr × CStr)
  | some field :: some value :: rest => (field, value) :: assignedPairs rest
  | _ => []

def setFields (h : RedisHash) (pairs : List (CStr × CStr)) : RedisHash :=
  pairs.foldl (fun h p => Function.update h p.1 (some p.2)) h

/-- `HMSET` sets fields of a hash, creating it if the key is not there; on a
    key of another type it is an error without effect. -/
def hmset (keys : Keyspace) (key : CStr) (pairs : List (CStr × CStr)) : Keyspace :=
  match keys key with
  | none => Function.update keys key (some (.hash (setFields (fun _ => none) pairs)))
  | some (.hash h) => Function.update keys key (some (.hash (setFields h pairs)))
  | some (.string _) => keys

/-- The documented effect of a command on the keyspace. -/
def Command.effect : Command → Keyspace → Keyspace
  | .set key value, keys => Function.update keys key (some (.string value))
  | .argv (some _ :: some key :: rest), keys => hmset keys key (assignedPairs rest)
  | _, keys => keys

/-- The documented reply. -/
def Command.reply : Command → Keyspace → Reply
  | .hget key field, keys =>
    match keys key with
    | none => .nil
    | some (.hash h) => (h field).elim .nil .string
    | some (.string _) => .error
  | .argv (some _ :: some key :: _), keys =>
    match keys key with
    | some (.string _) => .error
    | _ => .status
  | _, _ => .status

/-! ## Section 2: The network -/

inductive NetOp where
  /-- `time(NULL)` -/
  | time
  /-- `redisConnectWithTimeout` -/
  | connect
  /-- `redisCommand`, `redisCommandArgv` -/
  | command (c : Command)

/-- A lost reply is a NULL pointer. -/
abbrev NetRet : NetOp → Type
  | .time => Int
  | .connect => Bool
  | .command _ => Option Reply

/-- How a command turns out. -/
inductive Outcome where
  /-- The server executes it and the reply arrives. -/
  | answered
  /-- The server replies with an error and does nothing. -/
  | refused
  /-- No reply arrives. -/
  | lost (executed : Bool)
  deriving DecidableEq, Repr

inductive NetAnswer where
  | now (t : Int)
  | connected (ok : Bool)
  | outcome (o : Outcome)
  deriving DecidableEq, Repr

def netPerform : (op : NetOp) → NetAnswer → Keyspace → Option (NetRet op × Keyspace)
  | .time, .now t, keys => some (t, keys)
  | .connect, .connected ok, keys => some (ok, keys)
  | .command c, .outcome .answered, keys => some (some (c.reply keys), c.effect keys)
  | .command _, .outcome .refused, keys => some (some .error, keys)
  | .command c, .outcome (.lost executed), keys =>
    some (none, if executed then c.effect keys else keys)
  | _, _, _ => none

/-! ## Section 3: The functions of `db_redis.c` -/

/-- `redis_context_t`; `link` says that `ctx->ctx` is not NULL. -/
structure RedisContext where
  link : Bool
  password : CStr
  dbIndex : Int32
  connected : Bool
  retryCount : Int32
  lastReconnectAttempt : Int
  deriving DecidableEq, Repr

/-- `DB_RECONNECT_BASE_SEC` -/
def dbReconnectBaseSec : Int := 1

abbrev RedisProg : Type → Type := Prog NetOp NetRet

/-- `!reply || reply->type == REDIS_REPLY_ERROR` -/
def failed (reply : Option Reply) : Bool := reply = none || reply = some .error

/-- The error paths of `db_redis_connect`. -/
def RedisContext.drop (ctx : RedisContext) : RedisContext :=
  { ctx with link := false, connected := false }

/-- The end of `db_redis_connect`; the reply to `SELECT` is not looked at. -/
def selectDatabase (ctx : RedisContext) : RedisProg (Int × RedisContext) := do
  if 0 < ctx.dbIndex then
    let _ ← Prog.op (.command (.select ctx.dbIndex))
  return (0, { ctx with link := true, connected := true, retryCount := 0 })

def dbRedisConnect (ctx : RedisContext) : RedisProg (Int × RedisContext) := do
  let connected ← Prog.op .connect
  if !connected then
    return (-1, ctx.drop)
  else if 0 < ctx.password.length then
    let reply ← Prog.op (.command (.auth ctx.password))
    if failed reply then return (-1, ctx.drop) else selectDatabase ctx
  else selectDatabase ctx

def dbRedisReconnect (ctx : RedisContext) : RedisProg (Int × RedisContext) := do
  let now ← Prog.op .time
  -- no second attempt within the same second
  if now - ctx.lastReconnectAttempt < dbReconnectBaseSec then
    return (-1, ctx)
  else
    let ctx := { ctx with
      lastReconnectAttempt := now, link := false, retryCount := ctx.retryCount + 1 }
    let (ret, ctx) ← dbRedisConnect ctx
    return (ret, if ret = 0 then { ctx with retryCount := 0 } else ctx)

def dbRedisPing (ctx : RedisContext) : RedisProg (Int × RedisContext) := do
  if !ctx.link || !ctx.connected then
    return (-1, ctx)
  else
    let reply ← Prog.op (.command .ping)
    -- `ctx->ctx` is kept; `db_redis_reconnect` frees it
    return if failed reply then (-1, { ctx with connected := false }) else (0, ctx)

def dbRedisEnsureConnected (ctx : RedisContext) : RedisProg (Int × RedisContext) := do
  let (ret, ctx) ← dbRedisPing ctx
  if ret = 0 then return (0, ctx) else dbRedisReconnect ctx

def dbRedisSet (ctx : RedisContext) (key value : CStr) : RedisProg (Int × RedisContext) := do
  let (ret, ctx) ← dbRedisEnsureConnected ctx
  if ret ≠ 0 then
    return (-1, ctx)
  else
    let reply ← Prog.op (.command (.set key value))
    return (if failed reply then -1 else 0, ctx)

/-- The result is what `out` holds on return code 0, and `none` on -1. -/
def dbRedisHget (ctx : RedisContext) (key field : CStr) (outSize : Nat) :
    RedisProg (Option CStr × RedisContext) := do
  let (ret, ctx) ← dbRedisEnsureConnected ctx
  if ret ≠ 0 then
    return (none, ctx)
  else
    let reply : Option Reply ← Prog.op (NetOp.command (.hget key field))
    match reply with
    | some (.string s) => return (some (s.take (outSize - 1)), ctx)
    -- a missing field, an error and a lost reply are not told apart
    | _ => return (none, ctx)

/-- The vector that `db_redis_hmset` passes on: `argc = 3 + count * 2`
    entries, of which the last is never assigned. -/
def hmsetArgv (key : CStr) (fields : List (CStr × CStr)) : List (Option CStr) :=
  some (cstr "HMSET") :: some key ::
    (fields.flatMap fun p => [some p.1, some p.2]) ++ [none]

/-- What the server receives for the entry that is not assigned is not
    determined: `answered` is the command with its assigned entries, `refused`
    the error for an odd number of arguments. -/
def dbRedisHmset (ctx : RedisContext) (key : CStr) (fields : List (CStr × CStr)) :
    RedisProg (Int × RedisContext) := do
  let (ret, ctx) ← dbRedisEnsureConnected ctx
  if ret ≠ 0 then
    return (-1, ctx)
  else if fields.length = 0 then
    return (0, ctx)
  else
    let reply ← Prog.op (.command (.argv (hmsetArgv key fields)))
    return (if failed reply then -1 else 0, ctx)

/-! ## Section 4: What a call does to the keyspace -/

theorem assignedPairs_hmsetArgv (fields : List (CStr × CStr)) :
    assignedPairs ((fields.flatMap fun p => [some p.1, some p.2]) ++ [none]) = fields := by
  induction fields with
  | nil => rfl
  | cons p fields ih => simp [assignedPairs, ih]

theorem effect_hmsetArgv (keys : Keyspace) (key : CStr) (fields : List (CStr × CStr)) :
    (Command.argv (hmsetArgv key fields)).effect keys = hmset keys key fields := by
  simp only [hmsetArgv, List.cons_append, Command.effect, assignedPairs_hmsetArgv]

/-- The client alone with a network that may answer anything. -/
abbrev network : World NetOp NetRet NetAnswer Keyspace := World.alone netPerform fun _ => True

/-- A command leaves the keyspace alone or has its documented effect. -/
theorem perform_command {c : Command} {ans : NetAnswer} {keys keys' : Keyspace}
    {reply : Option Reply} (h : netPerform (.command c) ans keys = some (reply, keys')) :
    keys' = keys ∨ keys' = c.effect keys := by
  cases ans with
  | now t => simp [netPerform] at h
  | connected ok => simp [netPerform] at h
  | outcome o =>
    cases o with
    | answered =>
      simp only [netPerform, Option.some.injEq, Prod.mk.injEq] at h
      exact Or.inr h.2.symm
    | refused =>
      simp only [netPerform, Option.some.injEq, Prod.mk.injEq] at h
      exact Or.inl h.2.symm
    -- without a reply the server may or may not have executed it
    | lost executed =>
      simp only [netPerform, Option.some.injEq, Prod.mk.injEq] at h
      rw [← h.2]
      split
      · exact Or.inr rfl
      · exact Or.inl rfl

/-- An operation that does not touch the keyspace. -/
def NetOp.Silent : NetOp → Prop
  | .command c => ∀ keys, c.effect keys = keys
  | _ => True

theorem perform_silent {op : NetOp} {ans : NetAnswer} {keys keys' : Keyspace} {r : NetRet op}
    (hop : op.Silent) (h : netPerform op ans keys = some (r, keys')) : keys' = keys := by
  cases op with
  | time => cases ans <;> simp_all [netPerform]
  | connect => cases ans <;> simp_all [netPerform]
  | command c =>
    rcases perform_command h with hsame | heff
    · exact hsame
    · rw [heff]
      exact hop keys

/-- The program ends with the keyspace it started with. -/
abbrev Keeps {α : Type} (keys : Keyspace) (p : RedisProg α) : Prop :=
  network.Triple (fun s => s = keys) p fun _ s => s = keys

/-- The program ends with one of two keyspaces. -/
abbrev KeepsOr {α : Type} (keys keys' : Keyspace) (p : RedisProg α) : Prop :=
  network.Triple (fun s => s = keys) p fun _ s => s = keys ∨ s = keys'

variable {α β : Type} {keys keys' : Keyspace}

theorem keeps_pure (a : α) : Keeps keys (pure a) :=
  World.Triple.ret (World.stable_alone _) fun _ hs => hs

theorem keeps_op {op : NetOp} {f : NetRet op → RedisProg α} (hop : op.Silent)
    (hf : ∀ r, Keeps keys (f r)) : Keeps keys (Prog.op op >>= f) := by
  apply World.Triple.op (World.stable_alone _) (fun _ s => s = keys)
  · intro s ans r t hs _ hperf
    rw [perform_silent hop hperf, hs]
  · exact hf

theorem keeps_bind {p : RedisProg α} {f : α → RedisProg β} (hp : Keeps keys p)
    (hf : ∀ a, Keeps keys (f a)) : Keeps keys (p >>= f) :=
  World.Triple.bind hp hf

theorem keepsOr_bind {p : RedisProg α} {f : α → RedisProg β} (hp : Keeps keys p)
    (hf : ∀ a, KeepsOr keys keys' (f a)) : KeepsOr keys keys' (p >>= f) :=
  World.Triple.bind hp hf

theorem keepsOr_pure (a : α) : KeepsOr keys keys' (pure a) :=
  World.Triple.ret (World.stable_alone _) fun _ hs => Or.inl hs

/-- A command and a tail that does nothing more. -/
theorem keepsOr_command {c : Command} {f : Option Reply → α} (hc : c.effect keys = keys') :
    KeepsOr keys keys' (Prog.op (.command c) >>= fun reply => pure (f reply)) := by
  apply World.Triple.op (World.stable_alone _) (fun _ s => s = keys ∨ s = keys')
  · intro s ans r t hs _ hperf
    rw [← hc, ← hs]
    exact perform_command hperf
  · intro reply
    exact World.Triple.ret (World.stable_alone _) fun _ hs => hs

/-! ### The connection -/

theorem keeps_selectDatabase (ctx : RedisContext) : Keeps keys (selectDatabase ctx) := by
  unfold selectDatabase
  split
  · apply keeps_op
    · exact fun _ => rfl
    · intro reply
      exact keeps_pure _
  · exact keeps_pure _

theorem keeps_dbRedisConnect (ctx : RedisContext) : Keeps keys (dbRedisConnect ctx) := by
  apply keeps_op
  · exact trivial
  · intro connected
    split
    · exact keeps_pure _
    · split
      -- `AUTH` and `SELECT` change nothing
      · apply keeps_op
        · exact fun _ => rfl
        · intro reply
          split
          · exact keeps_pure _
          · exact keeps_selectDatabase ctx
      · exact keeps_selectDatabase ctx

theorem keeps_dbRedisReconnect (ctx : RedisContext) : Keeps keys (dbRedisReconnect ctx) := by
  apply keeps_op
  · exact trivial
  · intro now
    split
    · exact keeps_pure _
    · apply keeps_bind (keeps_dbRedisConnect _)
      intro r
      exact keeps_pure _

theorem keeps_dbRedisPing (ctx : RedisContext) : Keeps keys (dbRedisPing ctx) := by
  unfold dbRedisPing
  split
  · exact keeps_pure _
  · apply keeps_op
    · exact fun _ => rfl
    · intro reply
      exact keeps_pure _

theorem keeps_dbRedisEnsureConnected (ctx : RedisContext) :
    Keeps keys (dbRedisEnsureConnected ctx) := by
  apply keeps_bind (keeps_dbRedisPing ctx)
  intro r
  obtain ⟨ret, ctx⟩ := r
  dsimp only
  split
  · exact keeps_pure _
  · exact keeps_dbRedisReconnect ctx

/-! ### Keys -/

theorem keepsOr_dbRedisSet (ctx : RedisContext) (key value : CStr) :
    KeepsOr keys (Function.update keys key (some (.string value))) (dbRedisSet ctx key value) := by
  apply keepsOr_bind (keeps_dbRedisEnsureConnected ctx)
  intro r
  obtain ⟨ret, ctx⟩ := r
  dsimp only
  split
  · exact keepsOr_pure _
  · exact keepsOr_command rfl

theorem keeps_dbRedisHget (ctx : RedisContext) (key field : CStr) (outSize : Nat) :
    Keeps keys (dbRedisHget ctx key field outSize) := by
  apply keeps_bind (keeps_dbRedisEnsureConnected ctx)
  intro r
  obtain ⟨ret, ctx⟩ := r
  dsimp only
  split
  · exact keeps_pure _
  · apply keeps_op
    · exact fun _ => rfl
    · intro reply
      split <;> exact keeps_pure _

theorem keepsOr_dbRedisHmset (ctx : RedisContext) (key : CStr) (fields : List (CStr × CStr)) :
    KeepsOr keys (hmset keys key fields) (dbRedisHmset ctx key fields) := by
  apply keepsOr_bind (keeps_dbRedisEnsureConnected ctx)
  intro r
  obtain ⟨ret, ctx⟩ := r
  dsimp only
  split
  · exact keepsOr_pure _
  · split
    · exact keepsOr_pure _
    · exact keepsOr_command (effect_hmsetArgv keys key fields)

/-! ## Section 5: A server that answers -/

/-- The connection can be made, and commands are executed and replied to. -/
def NetAnswer.Up : NetAnswer → Prop
  | .now _ => True
  | .connected ok => ok = true
  | .outcome o => o = .answered

abbrev networkUp : World NetOp NetRet NetAnswer Keyspace := World.alone netPerform NetAnswer.Up

/-- `ctx` is connected. -/
def RedisContext.Connected (ctx : RedisContext) : Prop := ctx.link = true ∧ ctx.connected = true

/-- The field of the hash at `key`. -/
def storedField (keys : Keyspace) (key field : CStr) : Option CStr :=
  match keys key with
  | some (.hash h) => h field
  | _ => none

/-- Return code 0 leaves a connected context behind. -/
abbrev Connects (keys : Keyspace) (p : RedisProg (Int × RedisContext)) : Prop :=
  networkUp.Triple (fun s => s = keys) p fun r s => s = keys ∧ (r.1 = 0 → r.2.Connected)

theorem connects_pure {r : Int × RedisContext} (h : r.1 = 0 → r.2.Connected) :
    Connects keys (pure r) :=
  World.Triple.ret (World.stable_alone _) fun _ hs => ⟨hs, h⟩

theorem connects_op {op : NetOp} {f : NetRet op → RedisProg (Int × RedisContext)}
    (hop : op.Silent) (hf : ∀ r, Connects keys (f r)) : Connects keys (Prog.op op >>= f) := by
  apply World.Triple.op (World.stable_alone _) (fun _ s => s = keys)
  · intro s ans r t hs _ hperf
    rw [perform_silent hop hperf, hs]
  · exact hf

theorem connects_selectDatabase (ctx : RedisContext) : Connects keys (selectDatabase ctx) := by
  unfold selectDatabase
  split
  · apply connects_op
    · exact fun _ => rfl
    · intro reply
      exact connects_pure fun _ => ⟨rfl, rfl⟩
  · exact connects_pure fun _ => ⟨rfl, rfl⟩

theorem connects_dbRedisConnect (ctx : RedisContext) : Connects keys (dbRedisConnect ctx) := by
  apply connects_op
  · exact trivial
  · intro connected
    split
    · exact connects_pure (by simp)
    · split
      · apply connects_op
        · exact fun _ => rfl
        · intro reply
          split
          · exact connects_pure (by simp)
          · exact connects_selectDatabase ctx
      · exact connects_selectDatabase ctx

theorem connects_dbRedisReconnect (ctx : RedisContext) :
    Connects keys (dbRedisReconnect ctx) := by
  apply connects_op
  · exact trivial
  · intro now
    split
    · exact connects_pure (by simp)
    · apply World.Triple.bind (connects_dbRedisConnect _)
      intro r
      apply World.Triple.of_fact
      intro hconn
      apply connects_pure
      intro hret
      -- the context is that of `db_redis_connect` but for `retry_count`
      have hok : r.1 = 0 := hret
      rw [if_pos hok]
      exact hconn hok

/-- What the server replies when it answers. -/
theorem perform_up {c : Command} {ans : NetAnswer} {keys keys' : Keyspace} {reply : Option Reply}
    (hans : ans.Up) (h : netPerform (.command c) ans keys = some (reply, keys')) :
    reply = some (c.reply keys) ∧ keys' = c.effect keys := by
  cases ans with
  | outcome o =>
    obtain rfl : o = .answered := hans
    simp only [netPerform, Option.some.injEq, Prod.mk.injEq] at h
    exact ⟨h.1.symm, h.2.symm⟩
  | now t => simp [netPerform] at h
  | connected ok => simp [netPerform] at h

/-- A command that reads, and what is done with its reply. -/
theorem up_command {c : Command} {f : Option Reply → RedisProg α} {Q : α → Keyspace → Prop}
    (hc : ∀ keys, c.effect keys = keys)
    (hf : networkUp.Triple (fun s => s = keys) (f (some (c.reply keys))) Q) :
    networkUp.Triple (fun s => s = keys) (Prog.op (.command c) >>= f) Q := by
  apply World.Triple.op (World.stable_alone _)
    (fun r s => s = keys ∧ r = some (c.reply keys))
  · intro s ans r t hs hans hperf
    obtain ⟨hreply, hkeys⟩ := perform_up hans hperf
    rw [hreply, hkeys, hc, hs]
    exact ⟨rfl, rfl⟩
  · intro r
    apply World.Triple.of_fact
    intro hr
    rw [hr]
    exact hf

/-- The context after a check of the connection, and what a connected one is told. -/
def CheckedFrom (ctx : RedisContext) (r : Int × RedisContext) : Prop :=
  (r.1 = 0 → r.2.Connected) ∧ (ctx.Connected → r = (0, ctx))

theorem up_dbRedisPing (ctx : RedisContext) :
    networkUp.Triple (fun s => s = keys) (dbRedisPing ctx) fun r s =>
      s = keys ∧ CheckedFrom ctx r := by
  unfold dbRedisPing
  split
  · next hdown =>
    refine World.Triple.ret (World.stable_alone _) fun s hs => ⟨hs, by simp, ?_⟩
    -- a connected context does not come here
    intro hctx
    simp [hctx.1, hctx.2] at hdown
  · next hup =>
    have hctx : ctx.Connected := by simpa [RedisContext.Connected] using hup
    apply up_command
    · exact fun _ => rfl
    · exact World.Triple.ret (World.stable_alone _) fun s hs => ⟨hs, fun _ => hctx, fun _ => rfl⟩

theorem up_dbRedisEnsureConnected (ctx : RedisContext) :
    networkUp.Triple (fun s => s = keys) (dbRedisEnsureConnected ctx) fun r s =>
      s = keys ∧ CheckedFrom ctx r := by
  apply World.Triple.bind (up_dbRedisPing ctx)
  intro r
  apply World.Triple.of_fact
  intro hping
  obtain ⟨ret, ctx'⟩ := r
  dsimp only
  split
  · next hzero =>
    refine World.Triple.ret (World.stable_alone _) fun s hs => ⟨hs, fun _ => hping.1 hzero, ?_⟩
    intro hctx
    rw [(Prod.mk.inj (hping.2 hctx)).2]
  · next hne =>
    -- the ping of a connected context is answered, so this is another one
    refine World.Triple.conseq (connects_dbRedisReconnect ctx') (fun _ hs => hs) ?_
    intro r s hs
    refine ⟨hs.1, hs.2, ?_⟩
    intro hctx
    exact absurd (Prod.mk.inj (hping.2 hctx)).1 hne

/-- A connected client goes straight to its command. -/
theorem up_ensured {ctx : RedisContext} (hctx : ctx.Connected)
    {f : Int × RedisContext → RedisProg α} {Q : α → Keyspace → Prop}
    (hf : networkUp.Triple (fun s => s = keys) (f (0, ctx)) Q) :
    networkUp.Triple (fun s => s = keys) (dbRedisEnsureConnected ctx >>= f) Q := by
  apply World.Triple.bind (up_dbRedisEnsureConnected ctx)
  intro r
  apply World.Triple.of_fact
  intro hens
  rw [hens.2 hctx]
  exact hf

/-- A command at the end of a program. -/
theorem up_lastCommand {c : Command} {f : Option Reply → α} :
    networkUp.Triple (fun s => s = keys) (Prog.op (.command c) >>= fun reply => pure (f reply))
      fun r s => r = f (some (c.reply keys)) ∧ s = c.effect keys := by
  apply World.Triple.op (World.stable_alone _)
    (fun r s => s = c.effect keys ∧ r = some (c.reply keys))
  · intro s ans r t hs hans hperf
    obtain ⟨hreply, hkeys⟩ := perform_up hans hperf
    rw [hreply, hkeys, hs]
    exact ⟨rfl, rfl⟩
  · intro reply
    apply World.Triple.of_fact
    intro hreply
    rw [hreply]
    exact World.Triple.ret (World.stable_alone _) fun _ hs => ⟨rfl, hs⟩

theorem up_dbRedisSet {ctx : RedisContext} (hctx : ctx.Connected) (key value : CStr) :
    networkUp.Triple (fun s => s = keys) (dbRedisSet ctx key value) fun r s =>
      r = (0, ctx) ∧ s = Function.update keys key (some (.string value)) :=
  up_ensured hctx up_lastCommand

/-- The reply may be an error, if the key is no hash. -/
theorem up_dbRedisHmset {ctx : RedisContext} (hctx : ctx.Connected) (key : CStr)
    (fields : List (CStr × CStr)) :
    networkUp.Triple (fun s => s = keys) (dbRedisHmset ctx key fields) fun r s =>
      r.2 = ctx ∧ (s = keys ∨ s = hmset keys key fields) := by
  apply up_ensured hctx
  dsimp only
  split
  · next hne => exact absurd rfl hne
  · split
    · exact World.Triple.ret (World.stable_alone _) fun _ hs => ⟨rfl, Or.inl hs⟩
    · refine World.Triple.conseq up_lastCommand (fun _ hs => hs) ?_
      intro r s hs
      rw [effect_hmsetArgv] at hs
      exact ⟨by rw [hs.1], Or.inr hs.2⟩

/-- What `HGET` finds when the server answers: the stored field, or nothing
    on a connection that could not be made. -/
def FoundIn (keys : Keyspace) (key field : CStr) (outSize : Nat) (ctx : RedisContext)
    (r : Option CStr × RedisContext) : Prop :=
  (r.1 = none ∨
    r.1 = (storedField keys key field).map (List.take (outSize - 1)) ∧ r.2.Connected) ∧
  (ctx.Connected → r.1 = (storedField keys key field).map (List.take (outSize - 1)))

theorem reply_hget (keys : Keyspace) (key field : CStr) :
    (storedField keys key field = none ∧
        ∀ s, (Command.hget key field).reply keys ≠ .string s) ∨
      ∃ s, storedField keys key field = some s ∧
        (Command.hget key field).reply keys = .string s := by
  rcases hkey : keys key with _ | _ | h
  · simp [storedField, Command.reply, hkey]
  · simp [storedField, Command.reply, hkey]
  · cases hfield : h field <;> simp [storedField, Command.reply, hkey, hfield]

theorem up_dbRedisHget (ctx : RedisContext) (key field : CStr) (outSize : Nat) :
    networkUp.Triple (fun s => s = keys) (dbRedisHget ctx key field outSize) fun r s =>
      s = keys ∧ FoundIn keys key field outSize ctx r := by
  apply World.Triple.bind (up_dbRedisEnsureConnected ctx)
  intro r
  apply World.Triple.of_fact
  intro hens
  obtain ⟨ret, ctx'⟩ := r
  dsimp only
  split
  · next hne =>
    refine World.Triple.ret (World.stable_alone _) fun s hs => ⟨hs, Or.inl rfl, ?_⟩
    intro hctx
    exact absurd (Prod.mk.inj (hens.2 hctx)).1 hne
  · next hzero =>
    have hconn : ctx'.Connected := hens.1 (by simpa using hzero)
    apply up_command
    · exact fun _ => rfl
    -- the field is there as a string, or the reply is of another type
    · rcases reply_hget keys key field with ⟨hnone, hreply⟩ | ⟨v, hsome, hreply⟩
      · split
        · next s heq => exact absurd (Option.some.inj heq) (hreply s)
        · refine World.Triple.ret (World.stable_alone _) fun s hs => ⟨hs, Or.inl rfl, ?_⟩
          intro _
          rw [hnone]
          rfl
      · rw [hreply]
        refine World.Triple.ret (World.stable_alone _) fun s hs => ⟨hs, Or.inr ⟨?_, hconn⟩, ?_⟩
        · rw [hsome]
          rfl
        · intro _
          rw [hsome]
          rfl

end DbRedis
