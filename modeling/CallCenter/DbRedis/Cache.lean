import CallCenter.DbRedis.Hiredis
import CallCenter.DbSync.AgentCache
import CallCenter.DbSync.CallSession
import CallCenter.Framework.Register

/-! # The Cache

    The functions at the end of `db_redis.c` by which the program uses Redis
    as a cache: the agents, the departments and the state of the system.  Each
    of them prints its key into a buffer and sends one or two commands.

    A call can fail at any command, before or after the server has executed
    it, and a key can disappear at any time.  A command whose reply is lost is
    executed at once or never, not after later commands.  `cache_reads`:
    whatever is found was put in by a call after which no other one was
    acknowledged for the same entry. -/

namespace Hiredis

open CFormat Interference DbRedis DbSync Transition Register

/-! ## Section 1: The functions -/

def dbRedisCacheAgentStatus (client : RedisClient) (extension status : CStr)
    (concurrentCalls : Int32) : HiProg (Int × RedisClient) := do
  let now ← timeNow
  dbRedisHmset client (agentStatusKey extension)
    (agentStatusFields extension status concurrentCalls now)

/-- `room` and `callsOut` say what there is to write to; the result is what
    is written on return code 0, and `none` on -1. -/
def dbRedisGetAgentStatus (client : RedisClient) (extension : CStr) (room : Option Nat)
    (callsOut : Bool) : HiProg (Option (Option CStr × Option Int32) × RedisClient) := do
  let (status, client) ← dbRedisHget client (agentStatusKey extension) (cstr "status") (some 31)
  match status with
  | none => return (none, client)
  | some status =>
    if callsOut then
      let (calls, client) ←
        dbRedisHget client (agentStatusKey extension) (cstr "concurrent_calls") (some 15)
      -- if this one fails there are no calls, and no error
      return (some (room.map status.take, some ((calls.map atoi).getD 0)), client)
    else
      return (some (room.map status.take, none), client)

def dbRedisCacheAgentOnline (client : RedisClient) (extension : CStr) (isOnline : Int32) :
    HiProg (Int × RedisClient) :=
  dbRedisSet client (agentOnlineKey extension) (snprintf 8 (intText isOnline))

def dbRedisUpdateDeptIdle (client : RedisClient) (deptKey : CStr) (idleCount : Int32) :
    HiProg (Int × RedisClient) :=
  dbRedisSet client (deptIdleKey deptKey) (snprintf 16 (intText idleCount))

def dbRedisGetDeptIdle (client : RedisClient) (deptKey : CStr) :
    HiProg (Int32 × RedisClient) := do
  let (value, client) ← dbRedisGet client (deptIdleKey deptKey) (some 15)
  return (value.elim (-1) atoi, client)

def dbRedisCacheDeptConfig (client : RedisClient) (deptKey configJson : CStr) :
    HiProg (Int × RedisClient) :=
  dbRedisSet client (deptConfigKey deptKey) configJson

def dbRedisGetDeptConfig (client : RedisClient) (deptKey : CStr) (room : Option Nat) :
    HiProg (Option CStr × RedisClient) :=
  dbRedisGet client (deptConfigKey deptKey) room

/-- `REDIS_KEY_SYSTEM_STATUS` -/
def systemStatusKey : CStr := cstr "system:status"

def dbRedisCacheSystemStatus (client : RedisClient) (statusJson : CStr) :
    HiProg (Int × RedisClient) :=
  dbRedisSet client systemStatusKey statusJson

def dbRedisGetSystemStatus (client : RedisClient) (room : Option Nat) :
    HiProg (Option CStr × RedisClient) :=
  dbRedisGet client systemStatusKey room

/-! ## Section 2: The server -/

/-- The documented effect of the commands that the cache is made of. -/
def RedisCommand.effect : RedisCommand → Keyspace → Keyspace
  | .core c, keys => c.effect keys
  | .del key, keys => Function.update keys key none
  -- `EXPIRE` lets the key disappear later
  | _, keys => keys

/-- The documented reply to them. -/
def RedisCommand.reply : RedisCommand → Keyspace → Option RedisReply
  | .core c, keys => some (.core (c.reply keys))
  | .get key, keys =>
    match keys key with
    | none => some (.core .nil)
    | some (.string s) => some (.core (.string s))
    | some (.hash _) => some (.core .error)
  | .del key, keys => some (.integer (if (keys key).isSome then 1 else 0))
  | .expire key _, keys => some (.integer (if (keys key).isSome then 1 else 0))
  | _, _ => none

/-- What happens to a call of the library, and the address of a reply. -/
inductive ServerAnswer where
  | now (t : Int)
  | connected (result : Option (Addr × Bool))
  | outcome (a : Addr) (o : Outcome)
  | done
  deriving DecidableEq, Repr

def serverPerform : (op : HiOp) → ServerAnswer → Keyspace → Option (HiRet op × Keyspace)
  | .time, .now t, keys => some (t, keys)
  | .connect, .connected result, keys => some (result, keys)
  | .command _ c, .outcome a .answered, keys =>
    (c.reply keys).map fun reply => (some (a, reply), c.effect keys)
  | .command _ _, .outcome a .refused, keys => some (some (a, .core .error), keys)
  | .command _ c, .outcome _ (.lost executed), keys =>
    some (none, if executed then c.effect keys else keys)
  | .useContext _, .done, keys => some ((), keys)
  | .useReply _, .done, keys => some ((), keys)
  | .freeContext _, .done, keys => some ((), keys)
  | .freeReply _, .done, keys => some ((), keys)
  | _, _, _ => none

/-- Keys expire or are evicted. -/
def serverWorld : World HiOp HiRet ServerAnswer Keyspace where
  perform := serverPerform
  admits _ _ _ := True
  others keys keys' := ∃ key, keys' = Function.update keys key none

/-! ## Section 3: Entries -/

/-- The keys that the program uses. -/
inductive Family where
  | agentStatus
  | agentOnline
  | deptConfig
  | deptIdle
  | callSession
  | systemStatus
  deriving DecidableEq, Repr

def Family.front : Family → CStr
  | .agentStatus => cstr "agent:status:"
  | .agentOnline => cstr "agent:online:"
  | .deptConfig => cstr "dept:config:"
  | .deptIdle => cstr "dept:idle:"
  | .callSession => cstr "call:session:"
  | .systemStatus => systemStatusKey

/-- The bytes of a name that the buffer takes. -/
def Family.room (f : Family) : Nat := dbMaxRedisKeyLen - 1 - f.front.length

/-- One entry of the cache.  Names that the buffer does not tell apart are one. -/
structure Entry where
  family : Family
  name : CStr
  fits : name.length ≤ family.room
  deriving DecidableEq, Repr

/-- The entry of a name. -/
def Family.entry (f : Family) (name : CStr) : Entry where
  family := f
  name := name.take f.room
  fits := List.length_take_le _ _

def Entry.key (e : Entry) : CStr := e.family.front ++ e.name

theorem Family.front_take (f : Family) : f.front.take 255 = f.front := by
  cases f <;> rfl

theorem key_entry (f : Family) (name : CStr) :
    (f.entry name).key = snprintf dbMaxRedisKeyLen (f.front ++ name) := by
  unfold Entry.key Family.entry snprintf
  rw [List.take_append, show dbMaxRedisKeyLen - 1 = 255 from rfl, f.front_take]
  rfl

/-- The families differ in the first ten bytes. -/
theorem Family.front_inj {f g : Family} (h : f.front.take 10 = g.front.take 10) : f = g := by
  cases f <;> cases g <;> first | rfl | exact absurd h (by decide)

theorem Family.length_front (f : Family) : 10 ≤ f.front.length := by
  cases f <;> decide

/-- Two entries have different keys. -/
theorem key_inj {e e' : Entry} (h : e.key = e'.key) : e = e' := by
  obtain ⟨f, name, hfits⟩ := e
  obtain ⟨g, name', hfits'⟩ := e'
  replace h : f.front ++ name = g.front ++ name' := h
  have hfamily : f = g := by
    apply Family.front_inj
    have htake := congrArg (List.take 10) h
    rwa [List.take_append_of_le_length f.length_front,
      List.take_append_of_le_length g.length_front] at htake
  subst hfamily
  obtain rfl := List.append_cancel_left h
  rfl

/-- What the program keeps in an entry. -/
inductive Content where
  | agent (status : CStr) (calls : Int32)
  | text (value : CStr)
  /-- What was there before. -/
  | initial (value : RedisValue)

/-- Redis holds the content. -/
def Content.StoredAs : Content → RedisValue → Prop
  | .agent status calls, .hash h =>
    h (cstr "status") = some status ∧ h (cstr "concurrent_calls") = some (intText calls)
  | .text value, .string s => s = value
  | .initial value, v => v = value
  | _, _ => False

abbrev Cache : Type := Entry → Option Content

/-- The server holds what the entries say, or nothing. -/
def Represents (cache : Cache) (keys : Keyspace) : Prop :=
  ∀ e v, keys e.key = some v → ∃ c, cache e = some c ∧ c.StoredAs v

/-! ## Section 4: Commands -/

theorem Represents.lose {cache : Cache} {keys : Keyspace} (h : Represents cache keys)
    (key : CStr) : Represents cache (Function.update keys key none) := by
  intro e v hv
  by_cases hkey : e.key = key
  · rw [hkey, Function.update_self] at hv
    cases hv
  · rw [Function.update_of_ne hkey] at hv
    exact h e v hv

theorem Represents.update {cache : Cache} {keys : Keyspace} (h : Represents cache keys) {e : Entry}
    {c : Content} {v : RedisValue} (hv : c.StoredAs v) :
    Represents (Function.update cache e (some c)) (Function.update keys e.key (some v)) := by
  intro e' v' hv'
  by_cases he : e' = e
  · subst he
    rw [Function.update_self] at hv'
    obtain rfl := Option.some.inj hv'
    exact ⟨c, Function.update_self _ _ _, hv⟩
  · rw [Function.update_of_ne fun hkey => he (key_inj hkey)] at hv'
    rw [Function.update_of_ne he]
    exact h e' v' hv'

theorem Represents.delete {cache : Cache} {keys : Keyspace} (h : Represents cache keys)
    (e : Entry) : Represents (Function.update cache e none) (Function.update keys e.key none) := by
  intro e' v hv
  by_cases he : e' = e
  · subst he
    rw [Function.update_self] at hv
    cases hv
  · rw [Function.update_of_ne fun hkey => he (key_inj hkey)] at hv
    rw [Function.update_of_ne he]
    exact h e' v hv

/-- The content of an entry is written, or possibly written. -/
def Written (cache : Cache) (e : Entry) (c : Option Content) (acknowledged : Prop)
    (keys : Keyspace) : Prop :=
  (acknowledged ∧ Represents (Function.update cache e c) keys) ∨
    (¬ acknowledged ∧
      (Represents cache keys ∨ Represents (Function.update cache e c) keys))

variable {cache : Cache} {α : Type}

theorem stable_represents (cache : Cache) : serverWorld.Stable (Represents cache) := by
  rintro s _ ⟨key, rfl⟩ h
  exact h.lose key

theorem stable_written (cache : Cache) (e : Entry) (c : Option Content) (acknowledged : Prop) :
    serverWorld.Stable (Written cache e c acknowledged) := by
  rintro s _ ⟨key, rfl⟩ (⟨hack, h⟩ | ⟨hack, h | h⟩)
  · exact Or.inl ⟨hack, h.lose key⟩
  · exact Or.inr ⟨hack, Or.inl (h.lose key)⟩
  · exact Or.inr ⟨hack, Or.inr (h.lose key)⟩

/-- An operation that leaves the keys as they are. -/
def HiOp.Harmless : HiOp → Prop
  | .command _ c => ∀ keys, c.effect keys = keys
  | _ => True

theorem serverPerform_harmless {op : HiOp} (hop : op.Harmless) {ans : ServerAnswer}
    {keys keys' : Keyspace} {r : HiRet op} (h : serverPerform op ans keys = some (r, keys')) :
    keys' = keys := by
  cases op with
  | command ctx c =>
    cases ans with
    | outcome a o =>
      cases o with
      | answered =>
        obtain ⟨reply, -, heq⟩ := Option.map_eq_some_iff.mp h
        rw [← (Prod.mk.inj heq).2]
        exact hop keys
      | refused =>
        rw [← (Prod.mk.inj (Option.some.inj h)).2]
      | lost executed =>
        rw [← (Prod.mk.inj (Option.some.inj h)).2]
        split
        · exact hop keys
        · rfl
    | _ => cases h
  | _ =>
    cases ans <;> first | cases h; done | exact (Prod.mk.inj (Option.some.inj h)).2.symm

/-- What others keep, harmless operations keep. -/
theorem triple_harmless {I : Keyspace → Prop} (hI : serverWorld.Stable I) {p : HiProg α}
    (hp : p.All HiOp.Harmless) : serverWorld.Triple I p fun _ => I := by
  refine World.Triple.of_all hI ?_ hp
  intro op hop keys ans r keys' hkeys _ hperf
  rw [serverPerform_harmless hop hperf]
  exact hkeys

/-- A harmless operation and what follows. -/
theorem triple_access {I : Keyspace → Prop} (hI : serverWorld.Stable I) {op : HiOp}
    (hop : op.Harmless) {k : HiRet op → HiProg α} {Q : α → Keyspace → Prop}
    (hk : ∀ r, serverWorld.Triple I (k r) Q) : serverWorld.Triple I (Prog.op op >>= k) Q := by
  apply World.Triple.op hI (fun _ => I)
  · intro keys ans r keys' hkeys _ hperf
    rw [serverPerform_harmless hop hperf]
    exact hkeys
  · exact hk

theorem all_freeIfSet (ctx : Option Addr) : (freeIfSet ctx).All HiOp.Harmless := by
  cases ctx with
  | none => exact trivial
  | some a => exact ⟨trivial, fun _ => trivial⟩

theorem all_withReply {ctx : Option Addr} {c : RedisCommand} {noReply : α}
    {value : RedisReply → α} (hc : ∀ keys, c.effect keys = keys) :
    (withReply ctx c noReply value).All HiOp.Harmless := by
  refine ⟨hc, fun reply => ?_⟩
  cases reply with
  | none => exact trivial
  | some r => exact ⟨trivial, fun _ => ⟨trivial, fun _ => trivial⟩⟩

theorem all_selectDatabase (client : RedisClient) (a : Addr) :
    (selectDatabase client a).All HiOp.Harmless := by
  unfold selectDatabase
  split
  · refine ⟨fun _ => rfl, fun reply => ?_⟩
    cases reply with
    | none => exact trivial
    | some r => exact ⟨trivial, fun _ => trivial⟩
  · exact trivial

theorem all_dbRedisConnect (client : RedisClient) :
    (dbRedisConnect client).All HiOp.Harmless := by
  refine ⟨trivial, fun result => ?_⟩
  cases result with
  | none => exact trivial
  | some result =>
    obtain ⟨a, err⟩ := result
    refine ⟨trivial, fun _ => ?_⟩
    cases err with
    | true => exact ⟨trivial, fun _ => ⟨trivial, fun _ => trivial⟩⟩
    | false =>
      refine ⟨trivial, fun _ => ?_⟩
      dsimp only
      split
      · refine ⟨fun _ => rfl, fun reply => ?_⟩
        cases reply with
        | none => exact ⟨trivial, fun _ => trivial⟩
        | some r =>
          refine ⟨trivial, fun _ => ⟨trivial, fun _ => ?_⟩⟩
          split
          · exact ⟨trivial, fun _ => trivial⟩
          · exact all_selectDatabase client a
      · exact all_selectDatabase client a

theorem all_dbRedisEnsureConnected (client : RedisClient) :
    (dbRedisEnsureConnected client).All HiOp.Harmless := by
  refine Prog.All.bind ?_ fun r => ?_
  · unfold dbRedisPing
    split
    · exact trivial
    · exact Prog.All.bind (all_withReply fun _ => rfl) fun _ => trivial
  · obtain ⟨ret, client⟩ := r
    dsimp only
    split
    · exact trivial
    · refine ⟨trivial, fun now => ?_⟩
      show Prog.All _ (if _ then _ else _)
      split
      · exact trivial
      · refine Prog.All.bind (all_freeIfSet _) fun _ => ?_
        exact Prog.All.bind (all_dbRedisConnect _) fun _ => trivial

/-- **One command** and what becomes of its reply: `R` is what holds after it
    in each of the four cases. -/
theorem triple_withReply {ctx : Option Addr} {c : RedisCommand} {noReply : α}
    {value : RedisReply → α} {R : α → Keyspace → Prop} (hR : ∀ a, serverWorld.Stable (R a))
    (hsame : ∀ keys, Represents cache keys →
      R noReply keys ∧ R (value (.core .error)) keys)
    (hdone : ∀ keys, Represents cache keys → R noReply (c.effect keys) ∧
      ∀ reply, c.reply keys = some reply → R (value reply) (c.effect keys)) :
    serverWorld.Triple (Represents cache) (withReply ctx c noReply value) R := by
  apply World.Triple.op (stable_represents cache)
    fun (result : Option (Addr × RedisReply)) keys =>
      R (result.elim noReply fun r => value r.2) keys
  · intro keys ans r keys' hkeys _ hperf
    cases ans with
    | outcome a o =>
      cases o with
      | answered =>
        obtain ⟨reply, hreply, heq⟩ := Option.map_eq_some_iff.mp hperf
        obtain ⟨rfl, rfl⟩ := Prod.mk.inj heq
        exact (hdone keys hkeys).2 reply hreply
      | refused =>
        obtain ⟨rfl, rfl⟩ := Prod.mk.inj (Option.some.inj hperf)
        exact (hsame keys hkeys).2
      | lost executed =>
        obtain ⟨rfl, rfl⟩ := Prod.mk.inj (Option.some.inj hperf)
        cases executed with
        | true => exact (hdone keys hkeys).1
        | false => exact (hsame keys hkeys).1
    | _ => cases hperf
  · intro result
    cases result with
    | none => exact World.Triple.ret (hR noReply) fun _ h => h
    | some r =>
      obtain ⟨a, reply⟩ := r
      -- the reply is read and freed
      refine triple_access (hR (value reply)) ?_ fun _ => ?_
      · exact trivial
      refine triple_access (hR (value reply)) ?_ fun _ => ?_
      · exact trivial
      exact World.Triple.ret (hR (value reply)) fun _ h => h

/-- A check of the connection and what follows. -/
theorem triple_ensured {client : RedisClient} {failure : α}
    {f : RedisClient → HiProg (α × RedisClient)} {R : α × RedisClient → Keyspace → Prop}
    (hfailure : ∀ client keys, Represents cache keys → R (failure, client) keys)
    (hR : ∀ r, serverWorld.Stable (R r))
    (hf : ∀ client, serverWorld.Triple (Represents cache) (f client) R) :
    serverWorld.Triple (Represents cache) (ensured client failure f) R := by
  apply World.Triple.bind
    (triple_harmless (stable_represents cache) (all_dbRedisEnsureConnected client))
  rintro ⟨ret, client⟩
  dsimp only
  split
  · exact World.Triple.ret (hR _) (hfailure client)
  · exact hf client

/-- The same for a function that sends one command. -/
theorem triple_command {client : RedisClient} {c : RedisCommand} {failure : α}
    {value : RedisReply → α} {R : α → Keyspace → Prop} (hR : ∀ a, serverWorld.Stable (R a))
    (hsame : ∀ keys, Represents cache keys → R failure keys ∧ R (value (.core .error)) keys)
    (hdone : ∀ keys, Represents cache keys → R failure (c.effect keys) ∧
      ∀ reply, c.reply keys = some reply → R (value reply) (c.effect keys)) :
    serverWorld.Triple (Represents cache) (command client c failure value) fun r => R r.1 := by
  apply triple_ensured
  · exact fun _ keys h => (hsame keys h).1
  · exact fun r => hR r.1
  · intro client
    refine World.Triple.bind (triple_withReply hR hsame hdone) fun a => ?_
    exact World.Triple.ret (hR a) fun _ h => h

/-! ### What the commands do to an entry -/

theorem triple_dbRedisSet (client : RedisClient) (e : Entry) (value : CStr) :
    serverWorld.Triple (Represents cache) (dbRedisSet client e.key value)
      fun r => Written cache e (some (.text value)) (r.1 = 0) := by
  apply triple_command (fun a => stable_written cache e (some (.text value)) (a = 0))
  · exact fun keys h => ⟨Or.inr ⟨by decide, Or.inl h⟩, Or.inr ⟨by decide, Or.inl h⟩⟩
  · intro keys h
    have hnext : Represents (Function.update cache e (some (.text value)))
        (Function.update keys e.key (some (.string value))) := h.update rfl
    refine ⟨Or.inr ⟨by decide, Or.inr hnext⟩, fun reply hreply => ?_⟩
    obtain rfl := Option.some.inj hreply
    exact Or.inl ⟨rfl, hnext⟩

theorem triple_dbRedisDel (client : RedisClient) (e : Entry) :
    serverWorld.Triple (Represents cache) (dbRedisDel client e.key)
      fun r => Written cache e none (0 ≤ r.1) := by
  apply triple_command (fun a => stable_written cache e none (0 ≤ a))
  · exact fun keys h => ⟨Or.inr ⟨by decide, Or.inl h⟩, Or.inr ⟨by decide, Or.inl h⟩⟩
  · intro keys h
    refine ⟨Or.inr ⟨by decide, Or.inr (h.delete e)⟩, fun reply hreply => ?_⟩
    obtain rfl := Option.some.inj hreply
    refine Or.inl ⟨?_, h.delete e⟩
    cases (keys e.key).isSome <;> decide

theorem triple_dbRedisExpire (client : RedisClient) (e : Entry) (seconds : Int32) :
    serverWorld.Triple (Represents cache) (dbRedisExpire client e.key seconds)
      fun _ => Represents cache := by
  apply triple_command fun _ => stable_represents cache
  · exact fun keys h => ⟨h, h⟩
  · exact fun keys h => ⟨h, fun _ _ => h⟩

theorem storedAs_agentStatusFields (h : RedisHash) (extension status : CStr) (calls : Int32)
    (now : Int) : (Content.agent status calls).StoredAs
      (.hash (setFields h (agentStatusFields extension status calls now))) := by
  have h₁ : cstr "status" ≠ cstr "concurrent_calls" := by decide
  have h₂ : cstr "status" ≠ cstr "updated_at" := by decide
  have h₃ : cstr "concurrent_calls" ≠ cstr "updated_at" := by decide
  simp [Content.StoredAs, setFields, agentStatusFields, Function.update_of_ne h₁,
    Function.update_of_ne h₂, Function.update_of_ne h₃, snprintf_intText]

/-- `HMSET` writes all fields at once, unless the key has another type. -/
theorem triple_dbRedisHmset (client : RedisClient) (e : Entry) (extension status : CStr)
    (calls : Int32) (now : Int) :
    serverWorld.Triple (Represents cache)
      (dbRedisHmset client e.key (agentStatusFields extension status calls now))
      fun r => Written cache e (some (.agent status calls)) (r.1 = 0) := by
  have hstable (a : Int) := stable_written cache e (some (.agent status calls)) (a = 0)
  have hfailed {keys : Keyspace} (h : Represents cache keys) :
      Written cache e (some (.agent status calls)) ((-1 : Int) = 0) keys :=
    Or.inr ⟨by decide, Or.inl h⟩
  apply triple_ensured
  · exact fun _ _ h => hfailed h
  · exact fun r => hstable r.1
  · intro client
    rw [if_neg (by simp [agentStatusFields])]
    refine World.Triple.bind (triple_withReply hstable (fun _ h => ⟨hfailed h, hfailed h⟩) ?_)
      fun a => World.Triple.ret (hstable a) fun _ h => h
    intro keys h
    have heffect : (RedisCommand.core (.argv (hmsetArgv e.key
        (agentStatusFields extension status calls now)))).effect keys =
        hmset keys e.key (agentStatusFields extension status calls now) :=
      effect_hmsetArgv keys e.key _
    have hset (old : RedisHash) : Represents (Function.update cache e (some (.agent status calls)))
        (Function.update keys e.key
          (some (.hash (setFields old (agentStatusFields extension status calls now))))) :=
      h.update (storedAs_agentStatusFields old extension status calls now)
    rw [heffect]
    unfold hmset
    rcases hkey : keys e.key with _ | _ | old
    · refine ⟨Or.inr ⟨by decide, Or.inr (hset _)⟩, fun reply hreply => ?_⟩
      simp only [RedisCommand.reply, hmsetArgv, List.cons_append, Command.reply, hkey] at hreply
      obtain rfl := Option.some.inj hreply
      exact Or.inl ⟨rfl, hset _⟩
    · refine ⟨hfailed h, fun reply hreply => ?_⟩
      simp only [RedisCommand.reply, hmsetArgv, List.cons_append, Command.reply, hkey] at hreply
      obtain rfl := Option.some.inj hreply
      exact hfailed h
    · refine ⟨Or.inr ⟨by decide, Or.inr (hset old)⟩, fun reply hreply => ?_⟩
      simp only [RedisCommand.reply, hmsetArgv, List.cons_append, Command.reply, hkey] at hreply
      obtain rfl := Option.some.inj hreply
      exact Or.inl ⟨rfl, hset old⟩

/-- What a buffer shows of a string in Redis. -/
theorem triple_dbRedisGet (client : RedisClient) (e : Entry) (room : Option Nat) :
    serverWorld.Triple (Represents cache) (dbRedisGet client e.key room)
      fun r keys => Represents cache keys ∧ ∀ shown, r.1 = some shown →
        ∃ c s, cache e = some c ∧ c.StoredAs (.string s) ∧ room.map s.take = some shown := by
  have hstable (a : Option CStr) : serverWorld.Stable fun keys => Represents cache keys ∧
      ∀ shown, a = some shown → ∃ c s, cache e = some c ∧ c.StoredAs (.string s) ∧
        room.map s.take = some shown :=
    fun s t hst h => ⟨stable_represents cache s t hst h.1, h.2⟩
  apply triple_command hstable
  · exact fun keys h => ⟨⟨h, nofun⟩, ⟨h, nofun⟩⟩
  · intro keys h
    refine ⟨⟨h, nofun⟩, fun reply hreply => ⟨h, fun shown hshown => ?_⟩⟩
    simp only [RedisCommand.reply] at hreply
    rcases hkey : keys e.key with _ | s | _ <;> rw [hkey] at hreply <;>
      obtain rfl := Option.some.inj hreply
    · cases hshown
    · obtain ⟨c, hc, hstored⟩ := h e (.string s) hkey
      exact ⟨c, s, hc, hstored, hshown⟩
    · cases hshown

/-- What a buffer shows of a field of a hash. -/
theorem triple_dbRedisHget (client : RedisClient) (e : Entry) (field : CStr) (room : Option Nat) :
    serverWorld.Triple (Represents cache) (dbRedisHget client e.key field room)
      fun r keys => Represents cache keys ∧ ∀ shown, r.1 = some shown →
        ∃ c h s, cache e = some c ∧ c.StoredAs (.hash h) ∧ h field = some s ∧
          room.map s.take = some shown := by
  have hstable (a : Option CStr) : serverWorld.Stable fun keys => Represents cache keys ∧
      ∀ shown, a = some shown → ∃ c h s, cache e = some c ∧ c.StoredAs (.hash h) ∧
        h field = some s ∧ room.map s.take = some shown :=
    fun s t hst h => ⟨stable_represents cache s t hst h.1, h.2⟩
  apply triple_command hstable
  · exact fun keys h => ⟨⟨h, nofun⟩, ⟨h, nofun⟩⟩
  · intro keys h
    refine ⟨⟨h, nofun⟩, fun reply hreply => ⟨h, fun shown hshown => ?_⟩⟩
    obtain rfl := Option.some.inj hreply
    rcases hkey : keys e.key with _ | _ | fields
    · simp [Command.reply, hkey, stringOf] at hshown
    · simp [Command.reply, hkey, stringOf] at hshown
    · cases hfield : fields field with
      | none => simp [Command.reply, hkey, hfield, stringOf] at hshown
      | some s =>
        obtain ⟨c, hc, hstored⟩ := h e (.hash fields) hkey
        refine ⟨c, fields, s, hc, hstored, hfield, ?_⟩
        simpa [Command.reply, hkey, hfield, stringOf] using hshown

/-! ## Section 5: Calls -/

/-- The calls, with the arguments after the client. -/
inductive CacheCall where
  | cacheAgentStatus (extension status : CStr) (concurrentCalls : Int32)
  | getAgentStatus (extension : CStr) (room : Option Nat) (callsOut : Bool)
  | cacheAgentOnline (extension : CStr) (isOnline : Int32)
  | updateDeptIdle (deptKey : CStr) (idleCount : Int32)
  | getDeptIdle (deptKey : CStr)
  | cacheDeptConfig (deptKey configJson : CStr)
  | getDeptConfig (deptKey : CStr) (room : Option Nat)
  | cacheSystemStatus (statusJson : CStr)
  | getSystemStatus (room : Option Nat)
  /-- `db_redis_set`, `db_redis_expire` and `db_redis_del` with a session key. -/
  | setSession (callId value : CStr)
  | expireSession (callId : CStr) (seconds : Int32)
  | delSession (callId : CStr)
  deriving DecidableEq, Repr

inductive CacheResult where
  | code (ret : Int)
  | number (n : Int32)
  | status (found : Option (Option CStr × Option Int32))
  | text (found : Option CStr)
  deriving DecidableEq, Repr

/-- The result of a program as one of the results above. -/
def returning (result : α → CacheResult) (p : HiProg (α × RedisClient)) :
    HiProg (CacheResult × RedisClient) := do
  let (a, client) ← p
  return (result a, client)

def CacheCall.program (client : RedisClient) : CacheCall → HiProg (CacheResult × RedisClient)
  | .cacheAgentStatus extension status concurrentCalls =>
    returning .code (dbRedisCacheAgentStatus client extension status concurrentCalls)
  | .getAgentStatus extension room callsOut =>
    returning .status (dbRedisGetAgentStatus client extension room callsOut)
  | .cacheAgentOnline extension isOnline =>
    returning .code (dbRedisCacheAgentOnline client extension isOnline)
  | .updateDeptIdle deptKey idleCount =>
    returning .code (dbRedisUpdateDeptIdle client deptKey idleCount)
  | .getDeptIdle deptKey => returning .number (dbRedisGetDeptIdle client deptKey)
  | .cacheDeptConfig deptKey configJson =>
    returning .code (dbRedisCacheDeptConfig client deptKey configJson)
  | .getDeptConfig deptKey room => returning .text (dbRedisGetDeptConfig client deptKey room)
  | .cacheSystemStatus statusJson => returning .code (dbRedisCacheSystemStatus client statusJson)
  | .getSystemStatus room => returning .text (dbRedisGetSystemStatus client room)
  | .setSession callId value => returning .code (dbRedisSet client (sessionKey callId) value)
  | .expireSession callId seconds =>
    returning .number (dbRedisExpire client (sessionKey callId) seconds)
  | .delSession callId => returning .number (dbRedisDel client (sessionKey callId))

/-- The entry that the call is about. -/
def CacheCall.entry : CacheCall → Entry
  | .cacheAgentStatus extension _ _ | .getAgentStatus extension _ _ =>
    Family.agentStatus.entry extension
  | .cacheAgentOnline extension _ => Family.agentOnline.entry extension
  | .updateDeptIdle deptKey _ | .getDeptIdle deptKey => Family.deptIdle.entry deptKey
  | .cacheDeptConfig deptKey _ | .getDeptConfig deptKey _ => Family.deptConfig.entry deptKey
  | .cacheSystemStatus _ | .getSystemStatus _ => Family.systemStatus.entry []
  | .setSession callId _ | .expireSession callId _ | .delSession callId =>
    Family.callSession.entry callId

/-- What the call writes. -/
def CacheCall.written : CacheCall → Option (Option Content)
  | .cacheAgentStatus _ status concurrentCalls => some (some (.agent status concurrentCalls))
  | .cacheAgentOnline _ isOnline => some (some (.text (snprintf 8 (intText isOnline))))
  | .updateDeptIdle _ idleCount => some (some (.text (snprintf 16 (intText idleCount))))
  | .cacheDeptConfig _ configJson => some (some (.text configJson))
  | .cacheSystemStatus statusJson => some (some (.text statusJson))
  | .setSession _ value => some (some (.text value))
  | .delSession _ => some none
  | _ => none

/-- The return code of a write says that it was done. -/
def CacheResult.success : CacheResult → Bool
  | .code ret => ret = 0
  | .number n => 0 ≤ n
  | _ => false

/-- The call has found something. -/
def CacheCall.hit : CacheCall → CacheResult → Bool
  | .getAgentStatus .., .status found => found.isSome
  | .getDeptIdle _, .number n => n ≠ -1
  | .getDeptConfig .., .text found | .getSystemStatus _, .text found => found.isSome
  | _, _ => false

/-- The result of a read that has found the content. -/
def Content.Shown (c : Content) : CacheCall → CacheResult → Prop
  | .getAgentStatus _ room callsOut, .status (some (status, calls)) =>
    (∃ h s, c.StoredAs (.hash h) ∧ h (cstr "status") = some s ∧
      status = room.map (s.take 31).take) ∧
    (callsOut = false → calls = none) ∧
    (callsOut = true → calls = some 0 ∨ ∃ h s, c.StoredAs (.hash h) ∧
      h (cstr "concurrent_calls") = some s ∧ calls = some (atoi (s.take 15)))
  | .getDeptIdle _, .number n => ∃ s, c.StoredAs (.string s) ∧ n = atoi (s.take 15)
  | .getDeptConfig _ room, .text shown | .getSystemStatus room, .text shown =>
    ∃ s, c.StoredAs (.string s) ∧ shown = room.map s.take
  | _, _ => False

/-- A call as one on the register of its entry. -/
def Observes (call : CacheCall) (result : CacheResult)
    (o : Observation Entry (Option Content)) : Prop :=
  match call.written with
  | some c => o = .write call.entry c result.success
  | none =>
    if call.hit result then ∃ c, o = .read call.entry (some c) ∧ c.Shown call result
    else o = .nothing

/-- The call does to the entries what it does to the registers. -/
def Simulates (cache : Cache) (call : CacheCall) (result : CacheResult) (keys : Keyspace) : Prop :=
  ∃ o cache', Observes call result o ∧ Register.step cache o cache' ∧ Represents cache' keys

theorem simulates_write {call : CacheCall} {result : CacheResult} {c : Option Content}
    {keys : Keyspace} (hwritten : call.written = some c)
    (h : Written cache call.entry c (result.success = true) keys) :
    Simulates cache call result keys := by
  have hobserves : Observes call result (.write call.entry c result.success) := by
    unfold Observes
    rw [hwritten]
  rcases h with ⟨hack, h⟩ | ⟨hack, h | h⟩
  · exact ⟨_, _, hobserves, by rw [hack]; rfl, h⟩
  · rw [Bool.not_eq_true] at hack
    exact ⟨_, _, hobserves, by rw [hack]; exact Or.inl rfl, h⟩
  · rw [Bool.not_eq_true] at hack
    exact ⟨_, _, hobserves, by rw [hack]; exact Or.inr rfl, h⟩

theorem simulates_read {call : CacheCall} {result : CacheResult} {keys : Keyspace}
    (hwritten : call.written = none) (h : Represents cache keys)
    (hshown : call.hit result = true →
      ∃ c, cache call.entry = some c ∧ c.Shown call result) :
    Simulates cache call result keys := by
  unfold Simulates Observes
  rw [hwritten]
  by_cases hhit : call.hit result = true
  · obtain ⟨c, hc, hshown⟩ := hshown hhit
    refine ⟨.read call.entry (some c), cache, ?_, ⟨rfl, hc⟩, h⟩
    dsimp only
    rw [if_pos hhit]
    exact ⟨c, rfl, hshown⟩
  · refine ⟨.nothing, cache, ?_, rfl, h⟩
    dsimp only
    rw [if_neg hhit]

theorem stable_simulates (cache : Cache) (call : CacheCall) (result : CacheResult) :
    serverWorld.Stable (Simulates cache call result) := by
  rintro s t hst ⟨o, cache', hobserves, hstep, h⟩
  exact ⟨o, cache', hobserves, hstep, stable_represents cache' s t hst h⟩

theorem triple_returning {result : α → CacheResult} {p : HiProg (α × RedisClient)}
    {R : α × RedisClient → Keyspace → Prop} {call : CacheCall}
    (hp : serverWorld.Triple (Represents cache) p R)
    (hsim : ∀ a client keys, R (a, client) keys → Simulates cache call (result a) keys) :
    serverWorld.Triple (Represents cache) (returning result p)
      fun r => Simulates cache call r.1 := by
  refine World.Triple.bind hp fun r => ?_
  exact World.Triple.ret (stable_simulates cache call _) fun keys h => hsim r.1 r.2 keys h

/-- `SET` of the entry that the call is about. -/
theorem triple_set {client : RedisClient} {call : CacheCall} {key value : CStr}
    (hkey : call.entry.key = key) (hwritten : call.written = some (some (.text value))) :
    serverWorld.Triple (Represents cache) (returning .code (dbRedisSet client key value))
      fun r => Simulates cache call r.1 := by
  subst hkey
  refine triple_returning (triple_dbRedisSet client call.entry value) fun a _ keys h => ?_
  exact simulates_write hwritten (by simpa [CacheResult.success] using h)

/-- `GET` of the entry that the call is about. -/
theorem triple_get {client : RedisClient} {call : CacheCall} {key : CStr} {room : Option Nat}
    {result : Option CStr → CacheResult} (hkey : call.entry.key = key)
    (hwritten : call.written = none) (hmiss : call.hit (result none) = false)
    (hshown : ∀ c s shown, Content.StoredAs c (.string s) → room.map s.take = some shown →
      c.Shown call (result (some shown))) :
    serverWorld.Triple (Represents cache) (returning result (dbRedisGet client key room))
      fun r => Simulates cache call r.1 := by
  subst hkey
  refine triple_returning (triple_dbRedisGet client call.entry room) fun a _ keys h => ?_
  obtain ⟨hkeys, hfound⟩ := h
  refine simulates_read hwritten hkeys fun hhit => ?_
  cases a with
  | none =>
    rw [hmiss] at hhit
    cases hhit
  | some shown =>
    obtain ⟨c, s, hc, hstored, hroom⟩ := hfound shown rfl
    exact ⟨c, hc, hshown c s shown hstored hroom⟩

theorem triple_getAgentStatus (client : RedisClient) (extension : CStr) (room : Option Nat)
    (callsOut : Bool) :
    serverWorld.Triple (Represents cache)
      (returning .status (dbRedisGetAgentStatus client extension room callsOut))
      fun r => Simulates cache (.getAgentStatus extension room callsOut) r.1 := by
  have hkey : agentStatusKey extension = (Family.agentStatus.entry extension).key :=
    (key_entry .agentStatus extension).symm
  -- a miss, and what has been found with the first command
  have hmiss (client : RedisClient) : serverWorld.Triple (Represents cache)
      (returning .status (pure (none, client)))
      fun r => Simulates cache (.getAgentStatus extension room callsOut) r.1 := by
    refine World.Triple.ret (stable_simulates _ _ _) fun keys h => ?_
    exact simulates_read rfl h nofun
  unfold dbRedisGetAgentStatus
  rw [hkey]
  unfold returning
  rw [bind_assoc]
  apply World.Triple.bind (triple_dbRedisHget client _ (cstr "status") (some 31))
  rintro ⟨status, client⟩
  apply World.Triple.of_fact
  intro hstatus
  cases status with
  | none => exact hmiss client
  | some status =>
    obtain ⟨c, h, s, hc, hstored, hfield, hshown⟩ := hstatus status rfl
    obtain rfl := Option.some.inj hshown
    cases callsOut with
    | false =>
      refine World.Triple.ret (stable_simulates _ _ _) fun keys hkeys => ?_
      exact simulates_read rfl hkeys fun _ =>
        ⟨c, hc, ⟨h, s, hstored, hfield, rfl⟩, fun _ => rfl, nofun⟩
    | true =>
      dsimp only
      rw [if_pos rfl, bind_assoc]
      apply World.Triple.bind (triple_dbRedisHget client _ (cstr "concurrent_calls") (some 15))
      rintro ⟨calls, client⟩
      refine World.Triple.ret (stable_simulates _ _ _) fun keys hkeys => ?_
      obtain ⟨hkeys, hcalls⟩ := hkeys
      refine simulates_read rfl hkeys fun _ => ⟨c, hc, ⟨h, s, hstored, hfield, rfl⟩, nofun, ?_⟩
      intro _
      cases calls with
      | none => exact Or.inl rfl
      | some calls =>
        -- the content has not changed since the first command
        obtain ⟨c', h', s', hc', hstored', hfield', hshown'⟩ := hcalls calls rfl
        obtain rfl := Option.some.inj hshown'
        obtain rfl := Option.some.inj (hc.symm.trans hc')
        exact Or.inr ⟨h', s', hstored', hfield', rfl⟩

theorem triple_program (client : RedisClient) (call : CacheCall) :
    serverWorld.Triple (Represents cache) (call.program client)
      fun r => Simulates cache call r.1 := by
  cases call with
  | cacheAgentStatus extension status calls =>
    refine triple_access (stable_represents cache) ?_ fun now => ?_
    · exact trivial
    have hkey : agentStatusKey extension = (Family.agentStatus.entry extension).key :=
      (key_entry .agentStatus extension).symm
    show serverWorld.Triple _ (returning .code (dbRedisHmset client (agentStatusKey extension)
      (agentStatusFields extension status calls now))) _
    rw [hkey]
    refine triple_returning (triple_dbRedisHmset client _ extension status calls now)
      fun a _ keys h => ?_
    exact simulates_write rfl (by simpa [CacheCall.entry, CacheResult.success] using h)
  | getAgentStatus extension room callsOut =>
    exact triple_getAgentStatus client extension room callsOut
  | cacheAgentOnline extension isOnline => exact triple_set (key_entry _ _) rfl
  | updateDeptIdle deptKey idleCount => exact triple_set (key_entry _ _) rfl
  | getDeptIdle deptKey =>
    have hprogram : (CacheCall.getDeptIdle deptKey).program client =
        returning (fun value => .number (value.elim (-1) atoi))
          (dbRedisGet client (deptIdleKey deptKey) (some 15)) := by
      simp [CacheCall.program, returning, dbRedisGetDeptIdle]
    rw [hprogram]
    refine triple_get (key_entry _ _) rfl rfl fun c s shown hstored hroom => ?_
    obtain rfl := Option.some.inj hroom
    exact ⟨s, hstored, rfl⟩
  | cacheDeptConfig deptKey configJson => exact triple_set (key_entry _ _) rfl
  | getDeptConfig deptKey room =>
    refine triple_get (key_entry _ _) rfl rfl fun c s shown hstored hroom => ?_
    exact ⟨s, hstored, hroom.symm⟩
  | cacheSystemStatus statusJson => exact triple_set rfl rfl
  | getSystemStatus room =>
    refine triple_get rfl rfl rfl fun c s shown hstored hroom => ?_
    exact ⟨s, hstored, hroom.symm⟩
  | setSession callId value => exact triple_set (key_entry _ _) rfl
  | expireSession callId seconds =>
    have hkey : sessionKey callId = (Family.callSession.entry callId).key :=
      (key_entry .callSession callId).symm
    show serverWorld.Triple _ (returning .number (dbRedisExpire client (sessionKey callId) _)) _
    rw [hkey]
    refine triple_returning (triple_dbRedisExpire client _ seconds) fun a _ keys h => ?_
    exact simulates_read rfl h nofun
  | delSession callId =>
    have hkey : sessionKey callId = (Family.callSession.entry callId).key :=
      (key_entry .callSession callId).symm
    show serverWorld.Triple _ (returning .number (dbRedisDel client (sessionKey callId))) _
    rw [hkey]
    refine triple_returning (triple_dbRedisDel client _) fun a _ keys h => ?_
    exact simulates_write rfl (by simpa [CacheCall.entry, CacheResult.success] using h)

/-! ## Section 6: Runs -/

structure CacheState where
  client : RedisClient
  keys : Keyspace

/-- A call and its result, whatever the server does meanwhile. -/
def cacheStep (s : CacheState) (l : CacheCall × CacheResult) (t : CacheState) : Prop :=
  serverWorld.Runs (l.1.program s.client) s.keys (l.2, t.client) t.keys

/-- **Refinement**: the calls are calls on registers. -/
theorem cache_refines {cache : Cache} {s t : CacheState} {ls : List (CacheCall × CacheResult)}
    (h : Represents cache s.keys) (hrun : Run cacheStep s ls t) :
    ∃ os cache', List.Forall₂ (fun l o => Observes l.1 l.2 o) ls os ∧
      Run Register.step cache os cache' ∧ Represents cache' t.keys := by
  induction hrun with
  | nil => exact ⟨[], cache, List.Forall₂.nil, Run.nil cache, h⟩
  | snoc _ hstep ih =>
    obtain ⟨os, cache', hobserves, hregisters, hkeys⟩ := ih
    obtain ⟨o, cache'', ho, hnext, hkeys'⟩ := hstep.triple (triple_program _ _) hkeys
    exact ⟨os ++ [o], cache'', List.rel_append hobserves (.cons ho .nil),
      hregisters.snoc hnext, hkeys'⟩

/-- What is shown of the arguments of an earlier call. -/
def CacheCall.Shows (read : CacheCall) (result : CacheResult) (write : CacheCall) : Prop :=
  match read, result, write with
  | .getAgentStatus _ room callsOut, .status (some (status, calls)), .cacheAgentStatus _ st n =>
    status = room.map (st.take 31).take ∧ (callsOut = false → calls = none) ∧
      (callsOut = true → calls = some n ∨ calls = some 0)
  | .getDeptIdle _, .number n, .updateDeptIdle _ count => n = count
  | .getDeptConfig _ room, .text shown, .cacheDeptConfig _ json => shown = room.map json.take
  | .getSystemStatus room, .text shown, .cacheSystemStatus json => shown = room.map json.take
  | _, _, _ => False

theorem shows_of_shown {read write : CacheCall} {result : CacheResult} {c : Content}
    (hentry : write.entry = read.entry) (hwritten : write.written = some (some c))
    (hshown : c.Shown read result) : read.Shows result write := by
  have hfamily := congrArg Entry.family hentry
  cases read with
  | getAgentStatus extension room callsOut =>
    cases write with
    | cacheAgentStatus extension' st n =>
      obtain rfl := Option.some.inj (Option.some.inj hwritten)
      cases result with
      | status found =>
        cases found with
        | none => exact hshown.elim
        | some found =>
          obtain ⟨status, calls⟩ := found
          obtain ⟨⟨h, s, hstored, hs, rfl⟩, hnone, hsome⟩ := hshown
          obtain rfl := Option.some.inj (hstored.1.symm.trans hs)
          refine ⟨rfl, hnone, fun hout => ?_⟩
          rcases hsome hout with rfl | ⟨h', s', hstored', hs', rfl⟩
          · exact Or.inr rfl
          · obtain rfl := Option.some.inj (hstored'.2.symm.trans hs')
            have hlen := length_intText_le n
            rw [List.take_of_length_le (by omega), atoi_intText]
            exact Or.inl rfl
      | _ => exact hshown.elim
    | getAgentStatus | expireSession => cases hwritten
    | _ => cases hfamily
  | getDeptIdle deptKey =>
    cases write with
    | updateDeptIdle deptKey' count =>
      obtain rfl := Option.some.inj (Option.some.inj hwritten)
      cases result with
      | number n =>
        obtain ⟨s, rfl, rfl⟩ := hshown
        have hlen := length_intText_le count
        show atoi _ = count
        rw [snprintf_fits (by omega), List.take_of_length_le (by omega), atoi_intText]
      | _ => exact hshown.elim
    | getDeptIdle | expireSession => cases hwritten
    | _ => cases hfamily
  | getDeptConfig deptKey room =>
    cases write with
    | cacheDeptConfig deptKey' json =>
      obtain rfl := Option.some.inj (Option.some.inj hwritten)
      cases result with
      | text shown =>
        obtain ⟨s, rfl, rfl⟩ := hshown
        rfl
      | _ => exact hshown.elim
    | getDeptConfig => cases hwritten
    | _ => cases hfamily
  | getSystemStatus room =>
    cases write with
    | cacheSystemStatus json =>
      obtain rfl := Option.some.inj (Option.some.inj hwritten)
      cases result with
      | text shown =>
        obtain ⟨s, rfl, rfl⟩ := hshown
        rfl
      | _ => exact hshown.elim
    | getSystemStatus => cases hwritten
    | _ => cases hfamily
  | _ => exact hshown.elim

/-- The call has written the entry, and the caller knows. -/
def Confirms (e : Entry) (l : CacheCall × CacheResult) : Prop :=
  l.1.entry = e ∧ l.1.written.isSome = true ∧ l.2.success = true

/-- A write of something, as the register sees it. -/
theorem acknowledges_iff {call : CacheCall} {result : CacheResult} {e : Entry}
    {o : Observation Entry (Option Content)} (h : Observes call result o) :
    Acknowledges e o ↔ Confirms e (call, result) := by
  unfold Observes at h
  unfold Confirms
  cases hwritten : call.written with
  | none =>
    rw [hwritten] at h
    dsimp only at h
    split at h
    · obtain ⟨c, rfl, -⟩ := h
      simp [Acknowledges]
    · subst h
      simp [Acknowledges]
  | some c =>
    rw [hwritten] at h
    subst h
    simp [Acknowledges]

theorem exists_observation {ls : List (CacheCall × CacheResult)}
    {os : List (Observation Entry (Option Content))}
    (h : List.Forall₂ (fun l o => Observes l.1 l.2 o) ls os) {l : CacheCall × CacheResult}
    (hl : l ∈ ls) : ∃ o ∈ os, Observes l.1 l.2 o := by
  induction h with
  | nil => cases hl
  | cons ho _ ih =>
    rcases List.mem_cons.mp hl with rfl | hl
    · exact ⟨_, List.mem_cons_self, ho⟩
    · obtain ⟨o, ho, hobserves⟩ := ih hl
      exact ⟨o, List.mem_cons_of_mem _ ho, hobserves⟩

/-- A hit is a read of the register. -/
theorem observes_hit {read : CacheCall} {result : CacheResult}
    {o : Observation Entry (Option Content)} (h : Observes read result o)
    (hhit : read.hit result = true) :
    ∃ c, o = .read read.entry (some c) ∧ c.Shown read result := by
  have hwritten : read.written = none := by
    cases read <;> first | rfl | cases hhit
  unfold Observes at h
  rw [hwritten] at h
  dsimp only at h
  rwa [if_pos hhit] at h

/-- Before the first call the entries are what Redis holds. -/
theorem represents_initial (keys : Keyspace) :
    Represents (fun e => (keys e.key).map .initial) keys :=
  fun _ v hv => ⟨.initial v, by simp [hv], rfl⟩

/-- **What a read finds**: in every run, after a call that has written the
    entry and been told so, a read that finds something finds what that call
    or a later one has put in, and no call in between has been told that its
    own writing was done. -/
theorem cache_reads {s t : CacheState} {ls : List (CacheCall × CacheResult)} {read : CacheCall}
    {result : CacheResult} (hrun : Run cacheStep s (ls ++ [(read, result)]) t)
    (hconfirmed : ∃ l ∈ ls, Confirms read.entry l) (hhit : read.hit result = true) :
    ∃ before write code after, ls = before ++ (write, code) :: after ∧
      write.entry = read.entry ∧ read.Shows result write ∧
      ∀ l ∈ after, ¬ Confirms read.entry l := by
  obtain ⟨m, hbefore, hread⟩ := hrun.last
  obtain ⟨os, cache, hobserves, hregisters, hkeys⟩ :=
    cache_refines (represents_initial s.keys) hbefore
  obtain ⟨o, cache', ho, hstep, -⟩ := hread.triple (triple_program _ _) hkeys
  obtain ⟨c, rfl, hshown⟩ := observes_hit ho hhit
  have hcurrent := current_of_run hregisters read.entry
  rw [hstep.2] at hcurrent
  rcases hcurrent with ⟨-, hnone⟩ | ⟨before, acknowledged, after, rfl, hnone⟩
  · -- some call has been confirmed
    obtain ⟨l, hl, hconfirms⟩ := hconfirmed
    obtain ⟨o, ho, hlo⟩ := exists_observation hobserves hl
    exact absurd ((acknowledges_iff hlo).mpr hconfirms) (hnone o ho)
  · have hfront := List.forall₂_take_append ls before _ hobserves
    have hback := List.forall₂_drop_append ls before _ hobserves
    obtain ⟨⟨write, code⟩, rest, hwrite, hrest, hdrop⟩ := List.forall₂_cons_right_iff.mp hback
    refine ⟨ls.take before.length, write, code, rest, ?_, ?_⟩
    · rw [← hdrop, List.take_append_drop]
    unfold Observes at hwrite
    dsimp only at hwrite
    split at hwrite
    · next written hwritten =>
      injection hwrite with hentry hcontent
      refine ⟨hentry.symm, ?_, fun l hl hconfirms => ?_⟩
      · rw [← hcontent] at hwritten
        exact shows_of_shown hentry.symm hwritten hshown
      · obtain ⟨o, ho, hlo⟩ := exists_observation hrest hl
        exact hnone o ho ((acknowledges_iff hlo).mpr hconfirms)
    · split at hwrite
      · obtain ⟨_, hwrite, -⟩ := hwrite
        cases hwrite
      · cases hwrite

theorem cacheStep_of_exec {client client' : RedisClient} {keys keys' : Keyspace}
    {call : CacheCall} {result : CacheResult} (answers : List ServerAnswer)
    (h : exec serverPerform (call.program client) answers keys =
      some ((result, client'), keys')) :
    cacheStep ⟨client, keys⟩ (call, result) ⟨client', keys'⟩ :=
  World.Runs.of_exec (@exec_sound _ _ _ _ _ serverWorld _ _ _ _ _ (fun _ _ _ _ => trivial) h)

/-- A connected client; the server replies to the ping and to the command. -/
theorem cache_reads_idle : ∃ before write code after,
    [(CacheCall.updateDeptIdle (cstr "sales") 3, CacheResult.code 0)] =
        before ++ (write, code) :: after ∧
      write.entry = (CacheCall.getDeptIdle (cstr "sales")).entry ∧
      (CacheCall.getDeptIdle (cstr "sales")).Shows (.number 3) write ∧
      ∀ l ∈ after, ¬ Confirms (CacheCall.getDeptIdle (cstr "sales")).entry l := by
  let client : RedisClient := ⟨some 1, [], 0, true, 0, 0⟩
  let answers : List ServerAnswer :=
    [.outcome 2 .answered, .done, .done, .outcome 2 .answered, .done, .done]
  have hrun : Run cacheStep ⟨client, fun _ => none⟩
      ([(.updateDeptIdle (cstr "sales") 3, .code 0)] ++ [(.getDeptIdle (cstr "sales"), .number 3)])
      ⟨client, _⟩ :=
    Run.snoc (Run.single (cacheStep_of_exec answers rfl)) (cacheStep_of_exec answers rfl)
  exact cache_reads hrun ⟨_, List.mem_singleton_self _, rfl, rfl, rfl⟩ (by decide)

end Hiredis
