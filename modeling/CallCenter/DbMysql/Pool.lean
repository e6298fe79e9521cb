import Mathlib.Data.List.FinRange
import Mathlib.Data.List.Induction
import Mathlib.Logic.Function.Basic

/-! # The MySQL Connection Pool

    `db_mysql.c`: slots with a `connected` and an `in_use` flag, borrowed and
    returned under a lock, and the reconnect routine that a borrower runs when
    it finds no slot.

    Any number of threads run `db_mysql_execute`, `db_mysql_query` or
    `db_mysql_execute_long`, which all borrow a connection, send one statement
    on it and return it.  A region under the lock is one step, and here so is
    a call of `pool_try_reconnect`.  The code does not make it one: the flag
    `reconnecting` is tested and set without the lock, and what threads can do
    to each other in the meantime is the subject of `PoolRace`.  The server
    may drop any connection at any moment.

    Nothing ever clears `connected` once it is set (`slot_connect` is only
    called on slots that are not connected), so a connection that dropped is
    handed out again and counted as healthy.  `lost_slot_withheld_iff` says
    that the pool keeps its promise exactly in the runs that never notice a
    lost connection. -/

namespace DbMysql

/-! ## Section 1: The pool -/

/-- The address of a `MYSQL` object. -/
abbrev Handle : Type := Nat

/-- `mysql_slot_t` -/
structure Slot where
  conn : Option Handle
  inUse : Bool
  connected : Bool
  deriving DecidableEq, Repr

/-- `mysql_pool_t` with `n` slots, without lock and configuration. -/
structure MysqlPool (n : Nat) where
  slots : Fin n → Slot
  reconnecting : Bool
  lastReconnectAttempt : Int
  reconnectBackoffSecs : Int
  activeCount : Int

/-- `DB_RECONNECT_BASE_SEC` -/
def dbReconnectBaseSec : Int := 1

/-- `DB_RECONNECT_MAX_SEC` -/
def dbReconnectMaxSec : Int := 30

variable {n : Nat}

/-- `db_mysql_pool_create` -/
def dbMysqlPoolCreate (n : Nat) : MysqlPool n where
  slots := fun _ => ⟨none, false, false⟩
  reconnecting := false
  lastReconnectAttempt := 0
  reconnectBackoffSecs := dbReconnectBaseSec
  activeCount := 0

def MysqlPool.setSlot (pool : MysqlPool n) (i : Fin n) (slot : Slot) : MysqlPool n :=
  { pool with slots := Function.update pool.slots i slot }

/-- How `mysql_init` and `mysql_real_connect` end. -/
inductive ConnectAnswer where
  | initFailed
  | connectFailed
  | established (handle : Handle)
  deriving DecidableEq, Repr

/-- `slot_connect`; the result is whether it returned 0. -/
def slotConnect (pool : MysqlPool n) (i : Fin n) : ConnectAnswer → Bool × MysqlPool n
  -- `mysql_init` gave NULL; the flag `connected` is not written
  | .initFailed => (false, pool.setSlot i { pool.slots i with conn := none })
  -- the object is closed again
  | .connectFailed =>
    (false, pool.setSlot i { pool.slots i with conn := none, connected := false })
  | .established handle =>
    (true, pool.setSlot i { conn := some handle, inUse := false, connected := true })

/-- One iteration of the loop in `db_mysql_pool_connect_all`; the counter is `ok`. -/
def connectSlot (answers : Fin n → ConnectAnswer) (acc : Nat × MysqlPool n) (i : Fin n) :
    Nat × MysqlPool n :=
  match slotConnect acc.2 i (answers i) with
  | (true, pool) => (acc.1 + 1, pool)
  | (false, pool) => (acc.1, pool)

/-- `db_mysql_pool_connect_all` -/
def dbMysqlPoolConnectAll (pool : MysqlPool n) (answers : Fin n → ConnectAnswer) : MysqlPool n :=
  let (ok, pool) := (List.finRange n).foldl (connectSlot answers) (0, pool)
  { pool with activeCount := ok }

/-- `db_mysql_pool_health` -/
def dbMysqlPoolHealth (pool : MysqlPool n) : Int := pool.activeCount

/-- One iteration of the loop in `pool_try_reconnect`. -/
def reconnectSlot (answers : Fin n → ConnectAnswer) (acc : Nat × MysqlPool n) (i : Fin n) :
    Nat × MysqlPool n :=
  if (acc.2.slots i).connected = false then connectSlot answers acc i else (acc.1 + 1, acc.2)

/-- `pool_try_reconnect` -/
def poolTryReconnect (pool : MysqlPool n) (now : Int) (answers : Fin n → ConnectAnswer) :
    MysqlPool n :=
  -- another thread is at it, or the last attempt is too recent
  if pool.reconnecting then pool
  else if now - pool.lastReconnectAttempt < pool.reconnectBackoffSecs then pool
  else
    let pool := { pool with reconnecting := true, lastReconnectAttempt := now }
    let (ok, pool) := (List.finRange n).foldl (reconnectSlot answers) (0, pool)
    { pool with
      activeCount := ok
      reconnectBackoffSecs :=
        -- the backoff doubles up to its bound
        if ok = n then dbReconnectBaseSec
        else min (pool.reconnectBackoffSecs * 2) dbReconnectMaxSec
      reconnecting := false }

/-- The scan of `db_mysql_pool_borrow`: the first slot that is free and connected. -/
def borrowScan (pool : MysqlPool n) : Option (Fin n) :=
  (List.finRange n).find? fun i => !(pool.slots i).inUse && (pool.slots i).connected

/-- The borrower that found no slot tries to reconnect instead of waiting. -/
def wantsReconnect (pool : MysqlPool n) : Bool :=
  pool.activeCount < n && !pool.reconnecting

/-- The slot that `db_mysql_pool_return` finds for a handle. -/
def slotOf (pool : MysqlPool n) (handle : Handle) : Option (Fin n) :=
  (List.finRange n).find? fun i => (pool.slots i).conn = some handle

/-- `db_mysql_pool_return` -/
def dbMysqlPoolReturn (pool : MysqlPool n) (handle : Handle) : MysqlPool n :=
  match slotOf pool handle with
  | some i => pool.setSlot i { pool.slots i with inUse := false }
  | none => pool

/-! ## Section 2: Threads, the server and their steps -/

/-- Where a thread is in `db_mysql_execute` or its siblings. -/
inductive ThreadPc where
  | idle
  | borrowing
  /-- It has borrowed a connection and not sent its statement yet. -/
  | holding (handle : Handle)
  /-- Its statement is done; `ok` is whether `mysql_real_query` returned 0. -/
  | returning (handle : Handle) (ok : Bool)
  deriving DecidableEq, Repr

/-- The pool, the threads `T` that use it and the server.  `failed i` records
    that a statement on slot `i` failed because its connection was lost, and
    that `slot_connect` has not re-established it since. -/
structure PoolSystem (T : Type*) (n : Nat) where
  pool : MysqlPool n
  threads : T → ThreadPc
  dropped : Handle → Bool
  failed : Fin n → Bool

inductive PoolOp (T : Type*) (n : Nat) where
  /-- The server side of a connection goes away. -/
  | drop (handle : Handle)
  | call (t : T)
  /-- The borrower takes the lock and scans the slots. -/
  | scan (t : T)
  | reconnect (t : T) (now : Int) (answers : Fin n → ConnectAnswer)
  /-- `pthread_cond_timedwait` reports `ETIMEDOUT`. -/
  | timeout (t : T)
  /-- `mysql_real_query`, and whether a live server accepts the statement. -/
  | query (t : T) (accepted : Bool)
  | giveBack (t : T)

variable {T : Type*} [DecidableEq T]

/-- `slot_connect` has re-established the connection of slot `i` between two pools. -/
def reestablished (old new : MysqlPool n) (i : Fin n) : Bool :=
  !(old.slots i).connected && (new.slots i).connected

/-- A step of the system; an operation that a thread is not ready for does nothing. -/
def poolStep (s : PoolSystem T n) : PoolOp T n → PoolSystem T n
  | .drop handle => { s with dropped := Function.update s.dropped handle true }
  | .call t =>
    match s.threads t with
    | .idle => { s with threads := Function.update s.threads t .borrowing }
    | _ => s
  | .scan t =>
    match s.threads t, borrowScan s.pool with
    | .borrowing, some i =>
      match (s.pool.slots i).conn with
      | some handle =>
        { s with
          pool := s.pool.setSlot i { s.pool.slots i with inUse := true }
          threads := Function.update s.threads t (.holding handle) }
      -- a NULL connection makes the caller return -1
      | none =>
        { s with
          pool := s.pool.setSlot i { s.pool.slots i with inUse := true }
          threads := Function.update s.threads t .idle }
    | _, _ => s
  | .reconnect t now answers =>
    match s.threads t, borrowScan s.pool with
    | .borrowing, none =>
      if wantsReconnect s.pool then
        let pool := poolTryReconnect s.pool now answers
        { s with
          pool := pool
          -- a connection that is made anew is up
          dropped := fun handle =>
            s.dropped handle && !(List.finRange n).any fun i =>
              reestablished s.pool pool i && (pool.slots i).conn = some handle
          failed := fun i => s.failed i && !reestablished s.pool pool i }
      else s
    | _, _ => s
  | .timeout t =>
    match s.threads t, borrowScan s.pool with
    | .borrowing, none => { s with threads := Function.update s.threads t .idle }
    | _, _ => s
  | .query t accepted =>
    match s.threads t with
    | .holding handle =>
      -- a statement on a dropped connection fails, whatever it is
      if s.dropped handle then
        { s with
          threads := Function.update s.threads t (.returning handle false)
          failed := fun i => s.failed i || slotOf s.pool handle = some i }
      else { s with threads := Function.update s.threads t (.returning handle accepted) }
    | _ => s
  | .giveBack t =>
    match s.threads t with
    | .returning handle _ =>
      { s with
        pool := dbMysqlPoolReturn s.pool handle
        threads := Function.update s.threads t .idle }
    | _ => s

/-- All threads idle over a pool that `db_mysql_pool_connect_all` has filled
    as far as the server let it. -/
def poolSystemInit (T : Type*) (n : Nat) (answers : Fin n → ConnectAnswer) : PoolSystem T n where
  pool := dbMysqlPoolConnectAll (dbMysqlPoolCreate n) answers
  threads := fun _ => .idle
  dropped := fun _ => false
  failed := fun _ => false

/-! ## Section 3: What a slot's flags mean -/

/-- The number of slots whose flag `connected` is set. -/
def connectedCount (pool : MysqlPool n) : Nat :=
  (List.finRange n).countP fun i => (pool.slots i).connected

/-- `active_count` counts the connected slots, which are the slots with a handle. -/
structure PoolInv (pool : MysqlPool n) : Prop where
  active : pool.activeCount = connectedCount pool
  conn_iff : ∀ i, (pool.slots i).conn.isSome = (pool.slots i).connected

@[simp] theorem setSlot_self (pool : MysqlPool n) (i : Fin n) (slot : Slot) :
    (pool.setSlot i slot).slots i = slot := by
  simp [MysqlPool.setSlot]

@[simp] theorem setSlot_ne (pool : MysqlPool n) {i j : Fin n} (slot : Slot) (hj : j ≠ i) :
    (pool.setSlot i slot).slots j = pool.slots j := by
  simp [MysqlPool.setSlot, hj]

/-- Only the flag `in_use` changes. -/
theorem PoolInv.setInUse {pool : MysqlPool n} (hinv : PoolInv pool) (i : Fin n) (inUse : Bool) :
    PoolInv (pool.setSlot i { pool.slots i with inUse := inUse }) := by
  have hslots : ∀ j, ((pool.setSlot i { pool.slots i with inUse := inUse }).slots j).conn =
        (pool.slots j).conn ∧
      ((pool.setSlot i { pool.slots i with inUse := inUse }).slots j).connected =
        (pool.slots j).connected := by
    intro j
    -- slot `i` differs in a flag that neither count looks at
    by_cases hj : j = i
    · subst hj
      simp
    · simp [hj]
  refine ⟨?_, ?_⟩
  · show pool.activeCount = _
    rw [hinv.active]
    simp [connectedCount, hslots]
  · intro j
    rw [(hslots j).1, (hslots j).2]
    exact hinv.conn_iff j

/-- `slot_connect` on a slot that is not connected. -/
theorem slotConnect_spec {pool : MysqlPool n} {i : Fin n} (hoff : (pool.slots i).connected = false)
    (answer : ConnectAnswer) :
    ((slotConnect pool i answer).2.slots i).connected = (slotConnect pool i answer).1 ∧
      ((slotConnect pool i answer).2.slots i).conn.isSome = (slotConnect pool i answer).1 ∧
      ((slotConnect pool i answer).1 = true →
        ((slotConnect pool i answer).2.slots i).inUse = false) ∧
      ∀ j, j ≠ i → (slotConnect pool i answer).2.slots j = pool.slots j := by
  cases answer with
  | initFailed => exact ⟨by simp [slotConnect, hoff], by simp [slotConnect], by simp [slotConnect],
      fun j hj => by simp [slotConnect, hj]⟩
  | connectFailed => exact ⟨by simp [slotConnect], by simp [slotConnect], by simp [slotConnect],
      fun j hj => by simp [slotConnect, hj]⟩
  | established handle => exact ⟨by simp [slotConnect], by simp [slotConnect],
      by simp [slotConnect], fun j hj => by simp [slotConnect, hj]⟩

/-- What the reconnect loop may make of the slots: connected ones stay, and
    one that becomes connected is free. -/
structure SlotsRenewed (old new : MysqlPool n) : Prop where
  kept : ∀ j, (old.slots j).connected = true → new.slots j = old.slots j
  free : ∀ j, (old.slots j).connected = false → (new.slots j).connected = true →
    (new.slots j).inUse = false
  conn_iff : (∀ j, (old.slots j).conn.isSome = (old.slots j).connected) →
    ∀ j, (new.slots j).conn.isSome = (new.slots j).connected

theorem SlotsRenewed.refl (pool : MysqlPool n) : SlotsRenewed pool pool where
  kept _ _ := rfl
  free j hoff hon := by
    rw [hoff] at hon
    cases hon
  conn_iff h := h

theorem SlotsRenewed.trans {a b c : MysqlPool n} (hab : SlotsRenewed a b)
    (hbc : SlotsRenewed b c) : SlotsRenewed a c where
  kept j hj := by
    have hb : (b.slots j).connected = true := by rw [hab.kept j hj, hj]
    rw [hbc.kept j hb, hab.kept j hj]
  free j hoff hon := by
    cases hb : (b.slots j).connected with
    | false => exact hbc.free j hb hon
    | true =>
      rw [hbc.kept j hb]
      exact hab.free j hoff hb
  conn_iff h := hbc.conn_iff (hab.conn_iff h)

/-- One iteration of the reconnect loop counts slot `i` if it ends up
    connected, and touches no other slot. -/
theorem reconnectSlot_spec (answers : Fin n → ConnectAnswer) (acc : Nat × MysqlPool n)
    (i : Fin n) :
    (reconnectSlot answers acc i).1 =
        acc.1 + (if ((reconnectSlot answers acc i).2.slots i).connected then 1 else 0) ∧
      SlotsRenewed acc.2 (reconnectSlot answers acc i).2 ∧
      ∀ j, j ≠ i → (reconnectSlot answers acc i).2.slots j = acc.2.slots j := by
  -- a connected slot is counted as it is
  by_cases hoff : (acc.2.slots i).connected = false
  · obtain ⟨hflag, hsome, hfree, hothers⟩ := slotConnect_spec hoff (answers i)
    have heq : reconnectSlot answers acc i =
        (acc.1 + (if (slotConnect acc.2 i (answers i)).1 then 1 else 0),
          (slotConnect acc.2 i (answers i)).2) := by
      cases hc : slotConnect acc.2 i (answers i) with
      | mk rc pool => cases rc <;> simp [reconnectSlot, connectSlot, hoff, hc]
    rw [heq]
    refine ⟨by rw [hflag], ⟨?_, ?_, ?_⟩, hothers⟩
    · intro j hj
      refine hothers j fun hji => ?_
      rw [hji, hoff] at hj
      cases hj
    · intro j hj hon
      by_cases hji : j = i
      · subst hji
        exact hfree (hflag.symm.trans hon)
      · rw [hothers j hji, hj] at hon
        cases hon
    · intro hconn j
      by_cases hj : j = i
      · rw [hj, hflag, hsome]
      · rw [hothers j hj]
        exact hconn j
  · have heq : reconnectSlot answers acc i = (acc.1 + 1, acc.2) := by simp [reconnectSlot, hoff]
    rw [heq]
    exact ⟨by simp [hoff], .refl _, fun _ _ => rfl⟩

/-- The reconnect loop over any slots: the counter counts those that end up connected. -/
theorem foldl_reconnectSlot_spec (answers : Fin n → ConnectAnswer) {slots : List (Fin n)}
    (hnd : slots.Nodup) (acc : Nat × MysqlPool n) :
    (slots.foldl (reconnectSlot answers) acc).1 =
        acc.1 + slots.countP (fun i =>
          ((slots.foldl (reconnectSlot answers) acc).2.slots i).connected) ∧
      SlotsRenewed acc.2 (slots.foldl (reconnectSlot answers) acc).2 ∧
      ∀ j, j ∉ slots → (slots.foldl (reconnectSlot answers) acc).2.slots j = acc.2.slots j := by
  induction slots generalizing acc with
  | nil => exact ⟨rfl, .refl _, fun _ _ => rfl⟩
  | cons i slots ih =>
    rw [List.nodup_cons] at hnd
    obtain ⟨hcount, hrenewed, hothers⟩ := reconnectSlot_spec answers acc i
    obtain ⟨hcount', hrenewed', hothers'⟩ := ih hnd.2 (reconnectSlot answers acc i)
    rw [List.foldl_cons]
    refine ⟨?_, hrenewed.trans hrenewed', ?_⟩
    -- slot `i` occurs once, so the rest of the loop leaves its flag alone
    · rw [hcount', hcount, List.countP_cons, hothers' i hnd.1]
      omega
    · intro j hj
      rw [List.mem_cons, not_or] at hj
      rw [hothers' j hj.2, hothers j hj.1]

/-- A call of `pool_try_reconnect` does nothing, or it renews the slots and
    counts the connected ones. -/
theorem poolTryReconnect_cases (pool : MysqlPool n) (now : Int) (answers : Fin n → ConnectAnswer) :
    (poolTryReconnect pool now answers = pool ∧
        (pool.reconnecting = true ∨
          now - pool.lastReconnectAttempt < pool.reconnectBackoffSecs)) ∨
      (pool.reconnecting = false ∧
        pool.reconnectBackoffSecs ≤ now - pool.lastReconnectAttempt ∧
        (poolTryReconnect pool now answers).reconnecting = false ∧
        (poolTryReconnect pool now answers).activeCount =
          connectedCount (poolTryReconnect pool now answers) ∧
        SlotsRenewed pool (poolTryReconnect pool now answers)) := by
  unfold poolTryReconnect
  split
  · next hbusy => exact Or.inl ⟨rfl, Or.inl hbusy⟩
  · next hidle =>
    split
    · next hearly => exact Or.inl ⟨rfl, Or.inr hearly⟩
    · next hdue =>
      obtain ⟨hcount, hrenewed, -⟩ := foldl_reconnectSlot_spec answers (List.nodup_finRange n)
        (0, { pool with reconnecting := true, lastReconnectAttempt := now })
      rw [Nat.zero_add] at hcount
      refine Or.inr ⟨by simpa using hidle, by omega, rfl, congrArg Nat.cast hcount, ?_⟩
      exact ⟨hrenewed.kept, hrenewed.free, hrenewed.conn_iff⟩

theorem poolInv_tryReconnect {pool : MysqlPool n} (hinv : PoolInv pool) (now : Int)
    (answers : Fin n → ConnectAnswer) :
    PoolInv (poolTryReconnect pool now answers) ∧
      ∀ j, (pool.slots j).connected = true →
        (poolTryReconnect pool now answers).slots j = pool.slots j := by
  rcases poolTryReconnect_cases pool now answers with ⟨hsame, -⟩ | ⟨-, -, -, hactive, hrenewed⟩
  · rw [hsame]
    exact ⟨hinv, fun _ _ => rfl⟩
  · exact ⟨⟨hactive, hrenewed.conn_iff hinv.conn_iff⟩, hrenewed.kept⟩

/-- On slots that are not connected the loops of `db_mysql_pool_connect_all`
    and of `pool_try_reconnect` do the same. -/
theorem foldl_connectSlot (answers : Fin n → ConnectAnswer) {slots : List (Fin n)}
    (hnd : slots.Nodup) (acc : Nat × MysqlPool n)
    (hoff : ∀ j ∈ slots, (acc.2.slots j).connected = false) :
    slots.foldl (connectSlot answers) acc = slots.foldl (reconnectSlot answers) acc := by
  induction slots generalizing acc with
  | nil => rfl
  | cons i slots ih =>
    rw [List.nodup_cons] at hnd
    have heq : connectSlot answers acc i = reconnectSlot answers acc i := by
      rw [reconnectSlot, if_pos (hoff i List.mem_cons_self)]
    obtain ⟨-, -, hothers⟩ := reconnectSlot_spec answers acc i
    rw [List.foldl_cons, List.foldl_cons, heq]
    refine ih hnd.2 _ fun j hj => ?_
    have hji : j ≠ i := fun h => hnd.1 (h ▸ hj)
    rw [hothers j hji]
    exact hoff j (List.mem_cons_of_mem _ hj)

theorem poolInv_connectAll (answers : Fin n → ConnectAnswer) :
    PoolInv (dbMysqlPoolConnectAll (dbMysqlPoolCreate n) answers) := by
  have heq := foldl_connectSlot answers (List.nodup_finRange n) (0, dbMysqlPoolCreate n)
    fun _ _ => rfl
  obtain ⟨hcount, hrenewed, -⟩ := foldl_reconnectSlot_spec answers (List.nodup_finRange n)
    (0, dbMysqlPoolCreate n)
  have hconn := hrenewed.conn_iff fun _ => rfl
  rw [← heq, Nat.zero_add] at hcount
  rw [← heq] at hconn
  exact ⟨congrArg Nat.cast hcount, hconn⟩

/-! ## Section 4: Runs -/

/-- The pool invariant, and the connection that a thread is about to use
    belongs to a slot. -/
structure SystemInv (s : PoolSystem T n) : Prop where
  pool : PoolInv s.pool
  held : ∀ t handle, s.threads t = .holding handle → ∃ i, (s.pool.slots i).conn = some handle

theorem systemInv_init (T : Type*) [DecidableEq T] (answers : Fin n → ConnectAnswer) :
    SystemInv (poolSystemInit T n answers) where
  pool := poolInv_connectAll answers
  held := by
    intro t handle h
    cases h

/-- Threads other than `t` keep their connections if the slots keep theirs. -/
theorem SystemInv.step {s : PoolSystem T n} (hinv : SystemInv s) (t : T) {pool : MysqlPool n}
    {pc : ThreadPc} (hpool : PoolInv pool)
    (hkept : ∀ i handle, (s.pool.slots i).conn = some handle → (pool.slots i).conn = some handle)
    (hpc : ∀ handle, pc = .holding handle → ∃ i, (pool.slots i).conn = some handle)
    (dropped : Handle → Bool) (failed : Fin n → Bool) :
    SystemInv ⟨pool, Function.update s.threads t pc, dropped, failed⟩ where
  pool := hpool
  held := by
    intro u handle hu
    dsimp only at hu
    -- thread `t` answers for its new place, the others keep their slots
    by_cases hut : u = t
    · subst hut
      rw [Function.update_self] at hu
      exact hpc handle hu
    · rw [Function.update_of_ne hut] at hu
      obtain ⟨i, hi⟩ := hinv.held u handle hu
      exact ⟨i, hkept i handle hi⟩

theorem setInUse_conn (pool : MysqlPool n) (i j : Fin n) (inUse : Bool) :
    ((pool.setSlot i { pool.slots i with inUse := inUse }).slots j).conn =
      (pool.slots j).conn := by
  by_cases hj : j = i
  · subst hj
    simp
  · simp [hj]

/-- **Step lemma.** -/
theorem systemInv_step {s : PoolSystem T n} (hinv : SystemInv s) (op : PoolOp T n) :
    SystemInv (poolStep s op) := by
  cases op with
  | drop handle => exact ⟨hinv.pool, hinv.held⟩
  | call t =>
    simp only [poolStep]
    split
    · exact hinv.step t hinv.pool (fun _ _ h => h) (fun _ h => by cases h) _ _
    · exact hinv
  | scan t =>
    simp only [poolStep]
    split
    -- the slot is marked; its connection stays
    · next i hpc hscan =>
      have hpool := hinv.pool.setInUse i true
      have hkept : ∀ j handle, (s.pool.slots j).conn = some handle →
          ((s.pool.setSlot i { s.pool.slots i with inUse := true }).slots j).conn =
            some handle := by
        intro j handle h
        rw [setInUse_conn, h]
      split
      · next handle hconn =>
        refine hinv.step t hpool hkept (fun handle' h => ?_) _ _
        obtain rfl : handle = handle' := by simpa using h
        exact ⟨i, hkept i handle hconn⟩
      · exact hinv.step t hpool hkept (fun _ h => by cases h) _ _
    · exact hinv
  | reconnect t now answers =>
    simp only [poolStep]
    split
    · split
      -- a connection in use belongs to a connected slot, which is left alone
      · obtain ⟨hpool, hkept⟩ := poolInv_tryReconnect hinv.pool now answers
        refine ⟨hpool, fun u handle hu => ?_⟩
        obtain ⟨i, hi⟩ := hinv.held u handle hu
        have hon : (s.pool.slots i).connected = true := by
          rw [← hinv.pool.conn_iff, hi]
          rfl
        exact ⟨i, by rw [hkept i hon, hi]⟩
      · exact hinv
    · exact hinv
  | timeout t =>
    simp only [poolStep]
    split
    · exact hinv.step t hinv.pool (fun _ _ h => h) (fun _ h => by cases h) _ _
    · exact hinv
  | query t accepted =>
    simp only [poolStep]
    split
    · split
      · exact hinv.step t hinv.pool (fun _ _ h => h) (fun _ h => by cases h) _ _
      · exact hinv.step t hinv.pool (fun _ _ h => h) (fun _ h => by cases h) _ _
    · exact hinv
  | giveBack t =>
    simp only [poolStep]
    split
    · next handle ok hpc =>
      unfold dbMysqlPoolReturn
      split
      · next i hslot =>
        refine hinv.step t (hinv.pool.setInUse i false) (fun j handle' h => ?_)
          (fun _ h => by cases h) _ _
        rw [setInUse_conn, h]
      · exact hinv.step t hinv.pool (fun _ _ h => h) (fun _ h => by cases h) _ _
    · exact hinv

theorem systemInv_foldl {s : PoolSystem T n} (hinv : SystemInv s) (ops : List (PoolOp T n)) :
    SystemInv (ops.foldl poolStep s) :=
  List.foldlRecOn _ _ hinv fun _ h op _ => systemInv_step h op

/-! ## Section 5: Lost connections -/

/-- What the pool promises: a borrower is not given a slot on which a lost
    connection was noticed, and the health figure counts no such slot. -/
structure LostWithheld (s : PoolSystem T n) : Prop where
  borrow : ∀ i, borrowScan s.pool = some i → s.failed i = false
  health : dbMysqlPoolHealth s.pool ≤
    (List.finRange n).countP fun i => (s.pool.slots i).connected && !s.failed i

/-- The step sends a statement on a connection that the server has dropped. -/
def NoticesLoss (s : PoolSystem T n) : PoolOp T n → Prop
  | .query t _ => ∃ handle, s.threads t = .holding handle ∧ s.dropped handle = true
  | _ => False

/-- Only such a step records a failed slot. -/
theorem failed_step {s : PoolSystem T n} {op : PoolOp T n} (hop : ¬ NoticesLoss s op)
    {i : Fin n} (hi : s.failed i = false) : (poolStep s op).failed i = false := by
  cases op with
  | drop handle => exact hi
  | call t | timeout t | giveBack t =>
    simp only [poolStep]
    split <;> exact hi
  | scan t =>
    simp only [poolStep]
    split
    · split <;> exact hi
    · exact hi
  | reconnect t now answers =>
    simp only [poolStep]
    split
    · split
      · simp [hi]
      · exact hi
    · exact hi
  | query t accepted =>
    simp only [poolStep]
    split
    · next handle hpc =>
      split
      · next hdropped => exact absurd ⟨handle, hpc, hdropped⟩ hop
      · exact hi
    · exact hi

omit [DecidableEq T] in
theorem lostWithheld_of_none_failed {s : PoolSystem T n} (hinv : SystemInv s)
    (hnone : ∀ i, s.failed i = false) : LostWithheld s where
  borrow := fun i _ => hnone i
  health := by
    have hactive := hinv.pool.active
    simp only [dbMysqlPoolHealth, hnone, Bool.not_false, Bool.and_true]
    exact hactive.le

theorem countP_lt_countP {α : Type*} {p q : α → Bool} {l : List α} {a : α} (ha : a ∈ l)
    (hqp : ∀ x, q x = true → p x = true) (hp : p a = true) (hq : q a = false) :
    l.countP q < l.countP p := by
  induction l with
  | nil => cases ha
  | cons x l ih =>
    have hle : l.countP q ≤ l.countP p := List.countP_mono_left fun y _ => hqp y
    rw [List.countP_cons, List.countP_cons]
    rcases List.mem_cons.mp ha with rfl | ha
    · rw [hp, hq, if_pos rfl, if_neg Bool.false_ne_true]
      omega
    · have hlt := ih ha
      by_cases hx : q x = true
      · rw [if_pos hx, if_pos (hqp x hx)]
        omega
      · rw [if_neg hx]
        omega

/-- A noticed loss breaks the promise at once: the flag `connected` of the
    slot stays set and `active_count` goes on counting it. -/
theorem not_lostWithheld_of_noticesLoss {s : PoolSystem T n} (hinv : SystemInv s)
    {op : PoolOp T n} (hop : NoticesLoss s op) : ¬ LostWithheld (poolStep s op) := by
  intro hkept
  cases op with
  | query t accepted =>
    obtain ⟨handle, hpc, hdropped⟩ := hop
    obtain ⟨i, hi⟩ := hinv.held t handle hpc
    cases hslot : slotOf s.pool handle with
    | none =>
      rw [slotOf, List.find?_eq_none] at hslot
      exact hslot i (List.mem_finRange i) (by simp [hi])
    | some j =>
      have hconn : (s.pool.slots j).conn = some handle := by
        have hfound := List.find?_some hslot
        simpa using hfound
      have hon : (s.pool.slots j).connected = true := by
        rw [← hinv.pool.conn_iff, hconn]
        rfl
      -- the slot is still counted by `active_count`, but not by the promise
      have hhealth := hkept.health
      simp only [poolStep, hpc, hdropped, if_true, dbMysqlPoolHealth] at hhealth
      rw [hinv.pool.active] at hhealth
      have hlt := countP_lt_countP (p := fun i => (s.pool.slots i).connected)
        (q := fun i => (s.pool.slots i).connected &&
          !(s.failed i || decide (slotOf s.pool handle = some i))) (List.mem_finRange j)
        (fun x hx => by simp at hx; exact hx.1) hon (by simp [hslot])
      unfold connectedCount at hhealth
      omega
  | drop handle => exact hop
  | call t => exact hop
  | scan t => exact hop
  | reconnect t now answers => exact hop
  | timeout t => exact hop
  | giveBack t => exact hop

/-- **The pool keeps lost connections back** in every state of a run if and
    only if no statement of the run is sent on a connection that the server
    has dropped. -/
theorem lost_slot_withheld_iff (answers : Fin n → ConnectAnswer) (ops : List (PoolOp T n)) :
    (∀ pre, pre <+: ops → LostWithheld (pre.foldl poolStep (poolSystemInit T n answers))) ↔
      ∀ pre op, pre ++ [op] <+: ops →
        ¬ NoticesLoss (pre.foldl poolStep (poolSystemInit T n answers)) op := by
  constructor
  -- a loss that is noticed breaks the promise in the next state
  · intro hall pre op hpre hloss
    have hinv := systemInv_foldl (systemInv_init T answers) pre
    have hkept := hall _ hpre
    rw [List.foldl_append] at hkept
    exact not_lostWithheld_of_noticesLoss hinv hloss hkept
  · intro hnone pre hpre
    -- no slot is ever recorded as failed
    have hfailed : ∀ i, (pre.foldl poolStep (poolSystemInit T n answers)).failed i = false := by
      induction pre using List.reverseRecOn with
      | nil => exact fun _ => rfl
      | append_singleton pre op ih =>
        intro i
        rw [List.foldl_append]
        have hshort := ih ((List.prefix_append pre [op]).trans hpre)
        exact failed_step (hnone pre op hpre) (hshort i)
    exact lostWithheld_of_none_failed (systemInv_foldl (systemInv_init T answers) pre) hfailed

/-- **A lost connection is handed out again**: one slot, one thread, and a
    connection that drops between the borrowing and the statement. -/
theorem lost_slot_borrowed_again :
    ¬ ∀ (answers : Fin 1 → ConnectAnswer) (ops : List (PoolOp Unit 1)),
      LostWithheld (ops.foldl poolStep (poolSystemInit Unit 1 answers)) := by
  intro h
  have hkept := (h (fun _ => .established 7)
    [.call (), .scan (), .drop 7, .query () true, .giveBack ()]).borrow 0 (by decide)
  exact absurd hkept (by decide)

end DbMysql
