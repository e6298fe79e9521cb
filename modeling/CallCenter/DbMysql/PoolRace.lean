import CallCenter.DbMysql.Pool
import CallCenter.Framework.Transition
import Mathlib.Data.Fintype.Basic
import Mathlib.Tactic.FinCases

/-! # Borrowing While Another Thread Reconnects

    `pool_try_reconnect` and `slot_connect` write to the slots without the
    lock.  Here every assignment of theirs is a step of its own, next to the
    locked regions of borrow and return, which stay atomic.  `SlotInv` is what
    holds of the slots as long as one thread reconnects at a time.

    A connection has one borrower in the runs that keep two rules
    (`no_double_borrow`): one thread reconnects at a time, and no borrower
    takes a slot between the assignments `connected = 1` and `in_use = 0`.
    The code enforces neither: `reconnecting` is tested and set without the
    lock, and the two assignments stand in the wrong order
    (`borrowed_twice`). -/

namespace DbMysql

open Transition

/-! ## Section 1: Threads -/

/-- Where a thread is.  In `pool_try_reconnect` and `slot_connect` it is
    named after the statement that comes next; `ok` is the local counter. -/
inductive RacePc (n : Nat) where
  | idle
  /-- About to take the lock and scan the slots. -/
  | scanning
  /-- Slot `i` is marked and the lock released; `slots[i].conn` is read next. -/
  | taken (i : Fin n)
  | holding (handle : Handle)
  /-- In `pthread_cond_timedwait`. -/
  | waiting
  | testReconnecting
  | testBackoff
  | setReconnecting (now : Int)
  | setAttempt (now : Int)
  | loop (i ok : Nat)
  | closeOld (i : Fin n) (ok : Nat)
  | mysqlInit (i : Fin n) (ok : Nat)
  | realConnect (i : Fin n) (ok : Nat)
  | closeFailed (i : Fin n) (ok : Nat)
  | clearConn (i : Fin n) (ok : Nat)
  | clearConnected (i : Fin n) (ok : Nat)
  | setConnected (i : Fin n) (ok : Nat)
  | clearInUse (i : Fin n) (ok : Nat)
  | setActiveCount (ok : Nat)
  | setBackoff (ok : Nat)
  | capBackoff
  | clearReconnecting
  | broadcast
  deriving DecidableEq, Repr

/-- The pool, the threads and the `MYSQL` objects that are allocated. -/
structure RaceState (T : Type*) (n : Nat) where
  pool : MysqlPool n
  threads : T → RacePc n
  allocated : Handle → Bool

/-- What the next statement is told: the clock, the object that `mysql_init`
    returns and whether `mysql_real_connect` succeeds. -/
structure StepAnswer where
  now : Int
  handle : Option Handle
  connects : Bool
  deriving DecidableEq, Repr

inductive RaceOp (T : Type*) where
  | borrow (t : T)
  /-- The region under the lock in `db_mysql_pool_borrow`. -/
  | scan (t : T)
  /-- `return pool->slots[i].conn`, behind the region. -/
  | readConn (t : T)
  | wake (t : T)
  | timeout (t : T)
  /-- `db_mysql_pool_return` -/
  | giveBack (t : T)
  /-- The next statement of `pool_try_reconnect` or `slot_connect`. -/
  | advance (t : T) (answer : StepAnswer)

variable {T : Type*} [DecidableEq T] {n : Nat}

def RaceState.goto (s : RaceState T n) (t : T) (pc : RacePc n) : RaceState T n :=
  { s with threads := Function.update s.threads t pc }

def RaceState.setSlot (s : RaceState T n) (i : Fin n) (slot : Slot) : RaceState T n :=
  { s with pool := s.pool.setSlot i slot }

/-- `mysql_close(handle)` -/
def RaceState.close (s : RaceState T n) (handle : Option Handle) : RaceState T n :=
  match handle with
  | some h => { s with allocated := Function.update s.allocated h false }
  | none => s

/-- An object that is in use already cannot be returned by `mysql_init`. -/
def RaceState.mysqlInit (s : RaceState T n) (handle : Option Handle) : Option Handle :=
  handle.filter fun h => !s.allocated h

/-- One statement of `pool_try_reconnect` or `slot_connect`; `testReconnecting`
    and `testBackoff` return to the borrower if they fail. -/
def advance (s : RaceState T n) (t : T) (answer : StepAnswer) : RaceState T n :=
  match s.threads t with
  | .testReconnecting => if s.pool.reconnecting then s.goto t .scanning else s.goto t .testBackoff
  | .testBackoff =>
    if answer.now - s.pool.lastReconnectAttempt < s.pool.reconnectBackoffSecs then
      s.goto t .scanning
    else s.goto t (.setReconnecting answer.now)
  -- written without the lock, some time after the test
  | .setReconnecting now =>
    { s with pool := { s.pool with reconnecting := true } }.goto t (.setAttempt now)
  | .setAttempt now =>
    { s with pool := { s.pool with lastReconnectAttempt := now } }.goto t (.loop 0 0)
  | .loop i ok =>
    if h : i < n then
      if (s.pool.slots ⟨i, h⟩).connected then s.goto t (.loop (i + 1) (ok + 1))
      else s.goto t (.closeOld ⟨i, h⟩ ok)
    else s.goto t (.setActiveCount ok)
  | .closeOld i ok => (s.close (s.pool.slots i).conn).goto t (.mysqlInit i ok)
  | .mysqlInit i ok =>
    match s.mysqlInit answer.handle with
    | none => (s.setSlot i { s.pool.slots i with conn := none }).goto t (.loop (i + 1) ok)
    | some h =>
      ({ s with allocated := Function.update s.allocated h true }.setSlot i
        { s.pool.slots i with conn := some h }).goto t (.realConnect i ok)
  | .realConnect i ok =>
    if answer.connects then s.goto t (.setConnected i ok) else s.goto t (.closeFailed i ok)
  | .closeFailed i ok => (s.close (s.pool.slots i).conn).goto t (.clearConn i ok)
  | .clearConn i ok =>
    (s.setSlot i { s.pool.slots i with conn := none }).goto t (.clearConnected i ok)
  | .clearConnected i ok =>
    (s.setSlot i { s.pool.slots i with connected := false }).goto t (.loop (i + 1) ok)
  -- from here on a borrower can take the slot
  | .setConnected i ok =>
    (s.setSlot i { s.pool.slots i with connected := true }).goto t (.clearInUse i ok)
  -- this wipes out the mark of a borrower that took it in between
  | .clearInUse i ok =>
    (s.setSlot i { s.pool.slots i with inUse := false }).goto t (.loop (i + 1) (ok + 1))
  | .setActiveCount ok =>
    { s with pool := { s.pool with activeCount := ok } }.goto t (.setBackoff ok)
  | .setBackoff ok =>
    if ok = n then
      { s with pool := { s.pool with reconnectBackoffSecs := dbReconnectBaseSec } }.goto t
        .clearReconnecting
    else
      { s with pool := { s.pool with
          reconnectBackoffSecs := s.pool.reconnectBackoffSecs * 2 } }.goto t .capBackoff
  | .capBackoff =>
    if dbReconnectMaxSec < s.pool.reconnectBackoffSecs then
      { s with pool := { s.pool with reconnectBackoffSecs := dbReconnectMaxSec } }.goto t
        .clearReconnecting
    else s.goto t .clearReconnecting
  | .clearReconnecting => { s with pool := { s.pool with reconnecting := false } }.goto t .broadcast
  | .broadcast => s.goto t .scanning
  | _ => s

/-- A step of the system; an operation that a thread is not ready for does
    nothing.  A waiter may be woken at any time, by the broadcast, by a
    signal or for no reason. -/
def raceStep (s : RaceState T n) : RaceOp T → RaceState T n
  | .borrow t => if s.threads t = .idle then s.goto t .scanning else s
  | .scan t =>
    if s.threads t = .scanning then
      match borrowScan s.pool with
      | some i => (s.setSlot i { s.pool.slots i with inUse := true }).goto t (.taken i)
      | none => if wantsReconnect s.pool then s.goto t .testReconnecting else s.goto t .waiting
    else s
  | .readConn t =>
    match s.threads t with
    | .taken i =>
      match (s.pool.slots i).conn with
      | some h => s.goto t (.holding h)
      | none => s.goto t .idle
    | _ => s
  | .wake t => if s.threads t = .waiting then s.goto t .scanning else s
  | .timeout t => if s.threads t = .waiting then s.goto t .idle else s
  | .giveBack t =>
    match s.threads t with
    | .holding h => { s with pool := dbMysqlPoolReturn s.pool h }.goto t .idle
    | _ => s
  | .advance t answer => advance s t answer

/-- All threads idle over a pool in which some slots are connected, each to
    an object of its own. -/
structure PartlyConnected (s : RaceState T n) : Prop where
  idle : ∀ t, s.threads t = .idle
  conn_iff : ∀ i, (s.pool.slots i).conn.isSome = (s.pool.slots i).connected
  allocated : ∀ i h, (s.pool.slots i).conn = some h → s.allocated h = true
  distinct : ∀ i j h, (s.pool.slots i).conn = some h → (s.pool.slots j).conn = some h → i = j
  free : ∀ i, (s.pool.slots i).inUse = false
  notReconnecting : s.pool.reconnecting = false

/-- No connection has two borrowers. -/
def NoDoubleBorrow (s : RaceState T n) : Prop :=
  ∀ t u h, s.threads t = .holding h → s.threads u = .holding h → t = u

/-! ### The two rules -/

/-- Between the test of the backoff and `reconnecting = 0`. -/
def RacePc.inSection : RacePc n → Bool
  | .idle | .scanning | .taken _ | .holding _ | .waiting | .testReconnecting | .testBackoff
  | .broadcast => false
  | _ => true

/-- A scan does not take a slot whose `in_use` is about to be cleared, and a
    thread does not begin to reconnect while another one is at it. -/
def RaceOrderly (s : RaceState T n) : RaceOp T → Prop
  | .scan t =>
    s.threads t = .scanning → ∀ i, borrowScan s.pool = some i →
      ∀ u ok, s.threads u ≠ .clearInUse i ok
  | .advance t answer =>
    s.threads t = .testBackoff →
      ¬ answer.now - s.pool.lastReconnectAttempt < s.pool.reconnectBackoffSecs →
        ∀ u, (s.threads u).inSection = false
  | _ => True

/-- The second of the rules alone. -/
def OneReconnects (s : RaceState T n) : RaceOp T → Prop
  | .advance t answer =>
    s.threads t = .testBackoff →
      ¬ answer.now - s.pool.lastReconnectAttempt < s.pool.reconnectBackoffSecs →
        ∀ u, (s.threads u).inSection = false
  | _ => True

instance [Fintype T] (s : RaceState T n) : ∀ op, Decidable (OneReconnects s op)
  | .advance t answer => inferInstanceAs (Decidable (s.threads t = .testBackoff →
      ¬ answer.now - s.pool.lastReconnectAttempt < s.pool.reconnectBackoffSecs →
        ∀ u, (s.threads u).inSection = false))
  | .borrow _ | .scan _ | .readConn _ | .wake _ | .timeout _ | .giveBack _ =>
    inferInstanceAs (Decidable True)

omit [DecidableEq T] in
theorem RaceOrderly.oneReconnects {s : RaceState T n} {op : RaceOp T} (h : RaceOrderly s op) :
    OneReconnects s op := by
  cases op with
  | advance t answer => exact h
  | _ => exact trivial

/-! ## Section 2: The invariants -/

/-- The slot that `slot_connect` works on before `connected = 1`. -/
def RacePc.work : RacePc n → Option (Fin n)
  | .closeOld i _ | .mysqlInit i _ | .realConnect i _ | .closeFailed i _ | .clearConn i _
  | .clearConnected i _ | .setConnected i _ => some i
  | _ => none

/-- The slot whose `conn` is not NULL because of the last assignment. -/
def RacePc.opened : RacePc n → Option (Fin n)
  | .realConnect i _ | .closeFailed i _ | .setConnected i _ => some i
  | _ => none

/-- The slot whose `conn` may point to a closed object. -/
def RacePc.closed : RacePc n → Option (Fin n)
  | .mysqlInit i _ | .clearConn i _ => some i
  | _ => none

/-- The slot whose `in_use` comes next. -/
def RacePc.clearing : RacePc n → Option (Fin n)
  | .clearInUse i _ => some i
  | _ => none

/-- A thread that has taken no slot. -/
def RacePc.isFree : RacePc n → Bool
  | .taken _ | .holding _ => false
  | _ => true

/-- Thread `t` has borrowed slot `i`. -/
def Holds (s : RaceState T n) (t : T) (i : Fin n) : Prop :=
  s.threads t = .taken i ∨ ∃ h, s.threads t = .holding h ∧ (s.pool.slots i).conn = some h

/-- The slots, their objects and the thread that reconnects.  This needs only
    that one thread reconnects at a time. -/
structure SlotInv (s : RaceState T n) : Prop where
  allocated : ∀ i h, (s.pool.slots i).conn = some h →
    s.allocated h = true ∨ ∃ t, (s.threads t).closed = some i
  distinct : ∀ i j h, (s.pool.slots i).conn = some h → (s.pool.slots j).conn = some h → i = j
  conn : ∀ i, (s.pool.slots i).connected = true → (s.pool.slots i).conn ≠ none
  section_unique : ∀ t u, (s.threads t).inSection = true → (s.threads u).inSection = true → t = u
  work : ∀ t i, (s.threads t).work = some i → (s.pool.slots i).connected = false
  opened : ∀ t i, (s.threads t).opened = some i → (s.pool.slots i).conn ≠ none
  clearing : ∀ t i, (s.threads t).clearing = some i → (s.pool.slots i).connected = true
  held : ∀ t i, Holds s t i → (s.pool.slots i).connected = true
  holding : ∀ t h, s.threads t = .holding h → ∃ i, (s.pool.slots i).conn = some h

/-- The borrowers, under both rules. -/
structure RaceInv (s : RaceState T n) : Prop extends SlotInv s where
  unborrowed : ∀ t i, (s.threads t).clearing = some i → ∀ u, ¬ Holds s u i
  marked : ∀ t i, Holds s t i → (s.pool.slots i).inUse = true
  holds_unique : ∀ t u i, Holds s t i → Holds s u i → t = u

omit [DecidableEq T] in
theorem RaceInv.noDoubleBorrow {s : RaceState T n} (hinv : RaceInv s) : NoDoubleBorrow s := by
  intro t u h ht hu
  -- the connection belongs to one slot, and the slot to one borrower
  obtain ⟨i, hi⟩ := hinv.holding t h ht
  exact hinv.holds_unique t u i (Or.inr ⟨h, ht, hi⟩) (Or.inr ⟨h, hu, hi⟩)

omit [DecidableEq T] in
theorem not_holds_idle {s : RaceState T n} (h : PartlyConnected s) (t : T) (i : Fin n) :
    ¬ Holds s t i := by
  intro hholds
  simp [Holds, h.idle t] at hholds

omit [DecidableEq T] in
theorem slotInv_init {s : RaceState T n} (h : PartlyConnected s) : SlotInv s := by
  constructor
  case allocated =>
    intro i handle hconn
    exact Or.inl (h.allocated i handle hconn)
  case distinct => exact h.distinct
  case conn =>
    intro i hi hconn
    have hsome := h.conn_iff i
    rw [hi, hconn] at hsome
    cases hsome
  case section_unique => simp [h.idle, RacePc.inSection]
  case work => simp [h.idle, RacePc.work]
  case opened => simp [h.idle, RacePc.opened]
  case clearing => simp [h.idle, RacePc.clearing]
  case held =>
    intro t i hholds
    exact absurd hholds (not_holds_idle h t i)
  case holding => simp [h.idle]

omit [DecidableEq T] in
theorem raceInv_init {s : RaceState T n} (h : PartlyConnected s) : RaceInv s where
  toSlotInv := slotInv_init h
  unborrowed := fun _ i _ u => not_holds_idle h u i
  marked := fun t i hholds => absurd hholds (not_holds_idle h t i)
  holds_unique := fun t _ i hholds => absurd hholds (not_holds_idle h t i)

/-! ## Section 3: The slots -/

@[simp] theorem goto_pool (s : RaceState T n) (t : T) (pc : RacePc n) :
    (s.goto t pc).pool = s.pool := rfl

@[simp] theorem goto_allocated (s : RaceState T n) (t : T) (pc : RacePc n) :
    (s.goto t pc).allocated = s.allocated := rfl

@[simp] theorem goto_self (s : RaceState T n) (t : T) (pc : RacePc n) :
    (s.goto t pc).threads t = pc := by simp [RaceState.goto]

@[simp] theorem goto_ne (s : RaceState T n) {t u : T} (pc : RacePc n) (hu : u ≠ t) :
    (s.goto t pc).threads u = s.threads u := by simp [RaceState.goto, hu]

theorem isFree_of_inSection {pc : RacePc n} (h : pc.inSection = true) : pc.isFree = true := by
  cases pc <;> first | rfl | cases h

theorem inSection_of_work {pc : RacePc n} {i : Fin n} (h : pc.work = some i) :
    pc.inSection = true := by
  cases pc <;> first | rfl | cases h

theorem inSection_of_closed {pc : RacePc n} {i : Fin n} (h : pc.closed = some i) :
    pc.inSection = true := by
  cases pc <;> first | rfl | cases h

theorem inSection_of_opened {pc : RacePc n} {i : Fin n} (h : pc.opened = some i) :
    pc.inSection = true := by
  cases pc <;> first | rfl | cases h

theorem inSection_of_clearing {pc : RacePc n} {i : Fin n} (h : pc.clearing = some i) :
    pc.inSection = true := by
  cases pc <;> first | rfl | cases h

theorem clearInUse_of_clearing {pc : RacePc n} {i : Fin n} (h : pc.clearing = some i) :
    ∃ ok, pc = .clearInUse i ok := by
  cases pc with
  | clearInUse j ok =>
    obtain rfl := Option.some.inj h
    exact ⟨ok, rfl⟩
  | _ => cases h

omit [DecidableEq T] in
/-- A step of thread `t` leaves the other threads where they are. -/
theorem pc_cases {s r : RaceState T n} {t : T}
    (hothers : ∀ u, u ≠ t → r.threads u = s.threads u) (u : T) :
    r.threads u = s.threads u ∨ u = t := by
  by_cases hu : u = t
  · exact Or.inr hu
  · exact Or.inl (hothers u hu)

/-- A thread that has taken no slot before and after its step: the slots held
    are those that the others hold. -/
theorem holds_iff {s s' : RaceState T n} {t : T} (hbefore : (s.threads t).isFree = true)
    (hafter : (s'.threads t).isFree = true) (hothers : ∀ u, u ≠ t → s'.threads u = s.threads u)
    (u : T) (i : Fin n) (hconn : (s'.pool.slots i).conn = (s.pool.slots i).conn) :
    Holds s' u i ↔ Holds s u i := by
  unfold Holds
  by_cases hu : u = t
  · subst hu
    constructor
    · rintro (h | ⟨_, h, -⟩) <;> (rw [h] at hafter; cases hafter)
    · rintro (h | ⟨_, h, -⟩) <;> (rw [h] at hbefore; cases hbefore)
  · rw [hothers u hu, hconn]

/-- A step of a thread that has taken no slot, and that leaves the slots alone. -/
theorem SlotInv.move {s r : RaceState T n} (hinv : SlotInv s) {t : T}
    (hslots : r.pool.slots = s.pool.slots) (halloc : r.allocated = s.allocated)
    (hothers : ∀ u, u ≠ t → r.threads u = s.threads u)
    (hbefore : (s.threads t).isFree = true) (hafter : (r.threads t).isFree = true)
    (hsection : (r.threads t).inSection = true →
      (s.threads t).inSection = true ∨ ∀ u, (s.threads u).inSection = false)
    (hwork : ∀ i, (r.threads t).work = some i → (s.pool.slots i).connected = false)
    (hopened : ∀ i, (r.threads t).opened = some i → (s.pool.slots i).conn ≠ none)
    (hclosed : (s.threads t).closed = none) (hclearing : (r.threads t).clearing = none) :
    SlotInv r := by
  have hholds : ∀ u i, Holds r u i ↔ Holds s u i := fun u i =>
    holds_iff hbefore hafter hothers u i (by rw [hslots])
  have hpc := pc_cases hothers
  constructor
  case allocated =>
    rw [hslots, halloc]
    intro i h hconn
    rcases hinv.allocated i h hconn with hyes | ⟨u, hu⟩
    · exact Or.inl hyes
    · refine Or.inr ⟨u, ?_⟩
      rw [hothers u, hu]
      rintro rfl
      rw [hclosed] at hu
      cases hu
  case distinct =>
    rw [hslots]
    exact hinv.distinct
  case conn =>
    rw [hslots]
    exact hinv.conn
  case section_unique =>
    -- entering the section needs that nobody is there
    have hin : ∀ u, (r.threads u).inSection = true →
        (s.threads u).inSection = true ∨ (u = t ∧ ∀ v, (s.threads v).inSection = false) := by
      intro u hu
      rcases hpc u with heq | rfl
      · exact Or.inl (heq ▸ hu)
      · rcases hsection hu with h | h
        · exact Or.inl h
        · exact Or.inr ⟨rfl, h⟩
    intro u v hu hv
    rcases hin u hu with hu | ⟨rfl, hnobody⟩
    · rcases hin v hv with hv | ⟨rfl, hnobody⟩
      · exact hinv.section_unique u v hu hv
      · rw [hnobody u] at hu
        cases hu
    · rcases hin v hv with hv | ⟨rfl, -⟩
      · rw [hnobody v] at hv
        cases hv
      · rfl
  case work =>
    rw [hslots]
    intro u i hu
    rcases hpc u with heq | rfl
    · exact hinv.work u i (heq ▸ hu)
    · exact hwork i hu
  case opened =>
    rw [hslots]
    intro u i hu
    rcases hpc u with heq | rfl
    · exact hinv.opened u i (heq ▸ hu)
    · exact hopened i hu
  case clearing =>
    rw [hslots]
    intro u i hu
    rcases hpc u with heq | rfl
    · exact hinv.clearing u i (heq ▸ hu)
    · rw [hclearing] at hu
      cases hu
  case held =>
    rw [hslots]
    intro u i hu
    exact hinv.held u i ((hholds u i).mp hu)
  case holding =>
    rw [hslots]
    intro u h hu
    rcases hpc u with heq | rfl
    · exact hinv.holding u h (heq ▸ hu)
    · rw [hu] at hafter
      cases hafter

omit [DecidableEq T] in
/-- Unless the reconnecting thread has just closed it, what a slot points to is
    allocated. -/
theorem SlotInv.isAllocated {s : RaceState T n} (hinv : SlotInv s) {t : T}
    (ht : (s.threads t).inSection = true) {j : Fin n} (hopen : (s.threads t).closed ≠ some j)
    {h : Handle} (hconn : (s.pool.slots j).conn = some h) : s.allocated h = true := by
  rcases hinv.allocated j h hconn with hyes | ⟨u, hu⟩
  · exact hyes
  · rw [hinv.section_unique u t (inSection_of_closed hu) ht] at hu
    exact absurd hu hopen

omit [DecidableEq T] in
/-- A slot gets no borrower from a step of a thread without one: an object that
    it points to now and did not before was not allocated. -/
theorem SlotInv.holds_of_step {s r : RaceState T n} (hinv : SlotInv s) {t : T}
    (hafter : (r.threads t).isFree = true) (hothers : ∀ u, u ≠ t → r.threads u = s.threads u)
    (hconn : ∀ j h, (r.pool.slots j).conn = some h → (s.pool.slots j).conn = some h ∨
      (s.threads t).inSection = true ∧ (∀ k, (s.threads t).closed = some k → k = j) ∧
        s.allocated h = false)
    {u : T} {j : Fin n} (hu : Holds r u j) : Holds s u j := by
  rcases pc_cases hothers u with heq | rfl
  · rcases hu with hu | ⟨h, hu, hj⟩
    · exact Or.inl (heq ▸ hu)
    · rw [heq] at hu
      rcases hconn j h hj with hsame | ⟨hin, hclosed, hnew⟩
      · exact Or.inr ⟨h, hu, hsame⟩
      · obtain ⟨k, hk⟩ := hinv.holding u h hu
        by_cases hkj : k = j
        · exact Or.inr ⟨h, hu, hkj ▸ hk⟩
        -- what the other slots point to is allocated
        · rw [hinv.isAllocated hin (fun hcl => hkj (hclosed k hcl)) hk] at hnew
          cases hnew
  · rcases hu with hu | ⟨_, hu, -⟩ <;> (rw [hu] at hafter; cases hafter)

omit [DecidableEq T] in
/-- A step of the reconnecting thread that writes to slot `i`.  What a borrower
    of the slot has stays as it is. -/
theorem SlotInv.rework {s r : RaceState T n} (hinv : SlotInv s) {t : T} {i : Fin n}
    (hbefore : (s.threads t).inSection = true) (hafter : (r.threads t).inSection = true)
    (hothers : ∀ u, u ≠ t → r.threads u = s.threads u)
    (hslots : ∀ j, j ≠ i → r.pool.slots j = s.pool.slots j)
    (hheld : ∀ u, Holds s u i →
      (r.pool.slots i).conn = (s.pool.slots i).conn ∧ (r.pool.slots i).connected = true)
    (hclosed : ∀ j, (s.threads t).closed = some j → j = i)
    (halloc : ∀ j h, j ≠ i → (s.pool.slots j).conn = some h → s.allocated h = true →
      r.allocated h = true)
    (hconn : ∀ h, (r.pool.slots i).conn = some h →
      (s.pool.slots i).conn = some h ∨ s.allocated h = false)
    (hallocated : ∀ h, (r.pool.slots i).conn = some h →
      r.allocated h = true ∨ (r.threads t).closed = some i)
    (hconnected : (r.pool.slots i).connected = true → (r.pool.slots i).conn ≠ none)
    (hwork : ∀ j, (r.threads t).work = some j → j = i ∧ (r.pool.slots i).connected = false)
    (hopened : ∀ j, (r.threads t).opened = some j → j = i ∧ (r.pool.slots i).conn ≠ none)
    (hclearing : ∀ j, (r.threads t).clearing = some j →
      j = i ∧ (r.pool.slots i).connected = true) : SlotInv r := by
  have hpc := pc_cases hothers
  have hin : ∀ u, (r.threads u).inSection = true → u = t := by
    intro u hu
    rcases hpc u with heq | rfl
    · exact hinv.section_unique u t (heq ▸ hu) hbefore
    · rfl
  have hfree := isFree_of_inSection hafter
  -- what the other slots point to is allocated
  have hkept : ∀ j h, j ≠ i → (s.pool.slots j).conn = some h → s.allocated h = true :=
    fun j h hj hjconn => hinv.isAllocated hbefore (fun hcl => hj (hclosed j hcl)) hjconn
  -- so a new object is different from all of them
  have hfresh : ∀ j h, j ≠ i → (s.pool.slots j).conn = some h →
      (r.pool.slots i).conn ≠ some h := by
    intro j h hj hjconn hi
    rcases hconn h hi with hsame | hnew
    · exact hj (hinv.distinct j i h hjconn hsame)
    · rw [hkept j h hj hjconn] at hnew
      cases hnew
  have hwrites : ∀ j h, (r.pool.slots j).conn = some h → (s.pool.slots j).conn = some h ∨
      (s.threads t).inSection = true ∧ (∀ k, (s.threads t).closed = some k → k = j) ∧
        s.allocated h = false := by
    intro j h hj
    by_cases hji : j = i
    · subst hji
      exact (hconn h hj).imp_right fun hnew => ⟨hbefore, hclosed, hnew⟩
    · rw [hslots j hji] at hj
      exact Or.inl hj
  constructor
  case allocated =>
    intro j h hjconn
    by_cases hj : j = i
    · subst hj
      rcases hallocated h hjconn with hyes | hpending
      · exact Or.inl hyes
      · exact Or.inr ⟨t, hpending⟩
    · rw [hslots j hj] at hjconn
      exact Or.inl (halloc j h hj hjconn (hkept j h hj hjconn))
  case distinct =>
    intro j k h hj hk
    by_cases hji : j = i
    · by_cases hki : k = i
      · rw [hji, hki]
      · rw [hslots k hki] at hk
        exact absurd (hji ▸ hj) (hfresh k h hki hk)
    · rw [hslots j hji] at hj
      by_cases hki : k = i
      · exact absurd (hki ▸ hk) (hfresh j h hji hj)
      · rw [hslots k hki] at hk
        exact hinv.distinct j k h hj hk
  case conn =>
    intro j
    by_cases hj : j = i
    · rw [hj]
      exact hconnected
    · rw [hslots j hj]
      exact hinv.conn j
  case section_unique =>
    intro u v hu hv
    rw [hin u hu, hin v hv]
  case work =>
    intro u j hu
    rw [hin u (inSection_of_work hu)] at hu
    obtain ⟨rfl, hoff⟩ := hwork j hu
    exact hoff
  case opened =>
    intro u j hu
    rw [hin u (inSection_of_opened hu)] at hu
    obtain ⟨rfl, hsome⟩ := hopened j hu
    exact hsome
  case clearing =>
    intro u j hu
    rw [hin u (inSection_of_clearing hu)] at hu
    obtain ⟨rfl, hon⟩ := hclearing j hu
    exact hon
  case held =>
    intro u j hu
    have hold := hinv.holds_of_step hfree hothers hwrites hu
    by_cases hj : j = i
    · subst hj
      exact (hheld u hold).2
    · rw [hslots j hj]
      exact hinv.held u j hold
  case holding =>
    intro u h hu
    rcases hpc u with heq | rfl
    · rw [heq] at hu
      obtain ⟨j, hj⟩ := hinv.holding u h hu
      refine ⟨j, ?_⟩
      by_cases hji : j = i
      · subst hji
        rw [(hheld u (Or.inr ⟨h, hu, hj⟩)).1]
        exact hj
      · rwa [hslots j hji]
    · rw [hu] at hfree
      cases hfree

/-! ### Borrowing and returning -/

/-- A step outside the section that changes `in_use` flags only. -/
theorem SlotInv.use {s r : RaceState T n} (hinv : SlotInv s) {t : T}
    (hconn : ∀ i, (r.pool.slots i).conn = (s.pool.slots i).conn)
    (hconnected : ∀ i, (r.pool.slots i).connected = (s.pool.slots i).connected)
    (halloc : r.allocated = s.allocated)
    (hothers : ∀ u, u ≠ t → r.threads u = s.threads u)
    (hbefore : (s.threads t).inSection = false) (hafter : (r.threads t).inSection = false)
    (hholding : ∀ h, r.threads t = .holding h → ∃ i, (s.pool.slots i).conn = some h)
    (htaken : ∀ i, Holds r t i → (s.pool.slots i).connected = true) : SlotInv r := by
  have hsame : ∀ u, (r.threads u).inSection = true → r.threads u = s.threads u := by
    intro u hu
    by_cases hut : u = t
    · rw [hut, hafter] at hu
      cases hu
    · exact hothers u hut
  constructor
  case allocated =>
    intro i h hi
    rw [hconn] at hi
    rw [halloc]
    rcases hinv.allocated i h hi with hyes | ⟨u, hu⟩
    · exact Or.inl hyes
    · refine Or.inr ⟨u, ?_⟩
      rw [hothers u, hu]
      rintro rfl
      rw [inSection_of_closed hu] at hbefore
      cases hbefore
  case distinct =>
    intro i j h hi hj
    rw [hconn] at hi hj
    exact hinv.distinct i j h hi hj
  case conn =>
    intro i hi
    rw [hconnected] at hi
    rw [hconn]
    exact hinv.conn i hi
  case section_unique =>
    intro u v hu hv
    rw [hsame u hu] at hu
    rw [hsame v hv] at hv
    exact hinv.section_unique u v hu hv
  case work =>
    intro u i hu
    rw [hsame u (inSection_of_work hu)] at hu
    rw [hconnected]
    exact hinv.work u i hu
  case opened =>
    intro u i hu
    rw [hsame u (inSection_of_opened hu)] at hu
    rw [hconn]
    exact hinv.opened u i hu
  case clearing =>
    intro u i hu
    rw [hsame u (inSection_of_clearing hu)] at hu
    rw [hconnected]
    exact hinv.clearing u i hu
  case held =>
    intro u i hu
    rw [hconnected]
    by_cases hut : u = t
    · subst hut
      exact htaken i hu
    · refine hinv.held u i ?_
      unfold Holds at hu ⊢
      rwa [hothers u hut, hconn] at hu
  case holding =>
    intro u h hu
    simp only [hconn]
    by_cases hut : u = t
    · subst hut
      exact hholding h hu
    · rw [hothers u hut] at hu
      exact hinv.holding u h hu

/-- Setting a flag `in_use` leaves everything else of the slots alone. -/
theorem setInUse_fields (s : RaceState T n) (i : Fin n) (inUse : Bool) (t : T) (pc : RacePc n) :
    (∀ j, (((s.setSlot i { s.pool.slots i with inUse := inUse }).goto t pc).pool.slots j).conn =
      (s.pool.slots j).conn) ∧
    (∀ j, (((s.setSlot i { s.pool.slots i with inUse := inUse }).goto t pc).pool.slots j).connected
      = (s.pool.slots j).connected) ∧
    ∀ j, (((s.setSlot i { s.pool.slots i with inUse := inUse }).goto t pc).pool.slots j).inUse =
      if j = i then inUse else (s.pool.slots j).inUse := by
  have hslot : ∀ j, ((s.setSlot i { s.pool.slots i with inUse := inUse }).goto t pc).pool.slots j =
      if j = i then { s.pool.slots i with inUse := inUse } else s.pool.slots j := by
    intro j
    simp [RaceState.setSlot, MysqlPool.setSlot, Function.update_apply]
  refine ⟨?_, ?_, ?_⟩
  · intro j
    rw [hslot]
    split
    · next hj => rw [hj]
    · rfl
  · intro j
    rw [hslot]
    split
    · next hj => rw [hj]
    · rfl
  · intro j
    rw [hslot]
    split
    · rfl
    · rfl

omit [DecidableEq T] in
theorem borrowScan_some {s : RaceState T n} {i : Fin n} (hscan : borrowScan s.pool = some i) :
    (s.pool.slots i).inUse = false ∧ (s.pool.slots i).connected = true := by
  have hfound := List.find?_some hscan
  simpa using hfound

/-- The borrower with its mark. -/
theorem holds_taken {s : RaceState T n} {t : T} {i j : Fin n}
    (h : Holds (s.goto t (.taken i)) t j) : j = i := by
  rcases h with h | ⟨_, h, -⟩
  · rw [goto_self] at h
    exact (RacePc.taken.inj h).symm
  · rw [goto_self] at h
    cases h

theorem not_holds_goto_idle {s : RaceState T n} {t : T} {i : Fin n} :
    ¬ Holds (s.goto t .idle) t i := by
  rintro (h | ⟨_, h, -⟩)
  · rw [goto_self] at h
    cases h
  · rw [goto_self] at h
    cases h

/-- A scan takes a slot that is connected. -/
theorem SlotInv.take {s : RaceState T n} (hinv : SlotInv s) {t : T} {i : Fin n}
    (ht : s.threads t = .scanning) (hscan : borrowScan s.pool = some i) :
    SlotInv ((s.setSlot i { s.pool.slots i with inUse := true }).goto t (.taken i)) := by
  obtain ⟨hconn, hconnected, -⟩ := setInUse_fields s i true t (.taken i)
  apply hinv.use (t := t) hconn hconnected rfl (fun u hu => goto_ne _ _ hu) (by rw [ht]; rfl)
    (by rw [goto_self]; rfl)
  · intro h hh
    rw [goto_self] at hh
    cases hh
  · intro j hj
    obtain rfl := holds_taken hj
    exact (borrowScan_some hscan).2

/-- The borrower has the slot that it read the connection from, and no other. -/
theorem SlotInv.holds_readConn {s : RaceState T n} (hinv : SlotInv s) {t : T} {i : Fin n}
    {h : Handle} (hconn : (s.pool.slots i).conn = some h) {j : Fin n}
    (hj : Holds (s.goto t (.holding h)) t j) : j = i := by
  rcases hj with hj | ⟨h', hj, hjconn⟩
  · rw [goto_self] at hj
    cases hj
  · rw [goto_self] at hj
    obtain rfl := RacePc.holding.inj hj
    exact hinv.distinct j i _ hjconn hconn

/-- The borrower reads the connection of its slot. -/
theorem SlotInv.readConn {s : RaceState T n} (hinv : SlotInv s) {t : T} {i : Fin n}
    (ht : s.threads t = .taken i) {h : Handle} (hconn : (s.pool.slots i).conn = some h) :
    SlotInv (s.goto t (.holding h)) := by
  have hslots : ∀ j, ((s.goto t (.holding h)).pool.slots j).conn = (s.pool.slots j).conn :=
    fun _ => rfl
  apply hinv.use (t := t) hslots (fun _ => rfl) rfl (fun u hu => goto_ne _ _ hu) (by rw [ht]; rfl)
    (by rw [goto_self]; rfl)
  · intro h' hh'
    rw [goto_self] at hh'
    obtain rfl := RacePc.holding.inj hh'
    exact ⟨i, hconn⟩
  · intro j hj
    obtain rfl := hinv.holds_readConn hconn hj
    exact hinv.held t j (Or.inl ht)

omit [DecidableEq T] in
/-- The slot that is found for a borrowed connection. -/
theorem SlotInv.return_eq {s : RaceState T n} (hinv : SlotInv s) {t : T} {h : Handle}
    (ht : s.threads t = .holding h) : ∃ j, (s.pool.slots j).conn = some h ∧
      dbMysqlPoolReturn s.pool h = s.pool.setSlot j { s.pool.slots j with inUse := false } := by
  obtain ⟨i, hi⟩ := hinv.holding t h ht
  unfold dbMysqlPoolReturn
  cases hslot : slotOf s.pool h with
  | none =>
    have hnone := List.find?_eq_none.mp hslot i (List.mem_finRange i)
    simp [hi] at hnone
  | some j =>
    have hfound := List.find?_some hslot
    exact ⟨j, by simpa using hfound, rfl⟩

/-- A borrower returns its connection. -/
theorem SlotInv.giveBack {s : RaceState T n} (hinv : SlotInv s) {t : T} {h : Handle}
    (ht : s.threads t = .holding h) :
    SlotInv ({ s with pool := dbMysqlPoolReturn s.pool h }.goto t .idle) := by
  obtain ⟨j, -, hpool⟩ := hinv.return_eq ht
  rw [hpool]
  obtain ⟨hconn, hconnected, -⟩ := setInUse_fields s j false t .idle
  apply hinv.use (t := t) hconn hconnected rfl (fun u hu => goto_ne _ _ hu) (by rw [ht]; rfl)
    (by rw [goto_self]; rfl)
  · intro h' hh'
    rw [goto_self] at hh'
    cases hh'
  · intro k hk
    exact absurd hk not_holds_goto_idle

/-! ### Reconnecting -/

omit [DecidableEq T] in
/-- A thread that works on a slot finds it without a borrower. -/
theorem SlotInv.nobody {s : RaceState T n} (hinv : SlotInv s) {t : T} {i : Fin n}
    (ht : (s.threads t).work = some i) (u : T) : ¬ Holds s u i := by
  intro hu
  have hon := hinv.held u i hu
  rw [hinv.work t i ht] at hon
  cases hon

omit [DecidableEq T] in
theorem close_pool (s : RaceState T n) (handle : Option Handle) :
    (s.close handle).pool = s.pool := by
  cases handle <;> rfl

omit [DecidableEq T] in
theorem close_threads (s : RaceState T n) (handle : Option Handle) :
    (s.close handle).threads = s.threads := by
  cases handle <;> rfl

/-- The object of a slot is closed; `pc` remembers that the slot still points to it. -/
theorem SlotInv.close {s : RaceState T n} (hinv : SlotInv s) {t : T} {i : Fin n}
    (ht : (s.threads t).work = some i) (hbefore : (s.threads t).closed = none) {pc : RacePc n}
    (hsection : pc.inSection = true) (hwork : pc.work = some i) (hopened : pc.opened = none)
    (hclosed : pc.closed = some i) (hclearing : pc.clearing = none) :
    SlotInv ((s.close (s.pool.slots i).conn).goto t pc) := by
  have hpool := close_pool s (s.pool.slots i).conn
  have hthreads := close_threads s (s.pool.slots i).conn
  apply hinv.rework (t := t) (i := i) (inSection_of_work ht)
  · rw [goto_self]
    exact hsection
  · intro u hu
    rw [goto_ne _ _ hu, hthreads]
  · intro j _
    rw [goto_pool, hpool]
  · intro u hu
    exact absurd hu (hinv.nobody ht u)
  · rw [hbefore]
    simp
  · -- the other slots point to other objects
    intro j h hj hjconn halloc
    rw [goto_allocated]
    cases hconn : (s.pool.slots i).conn with
    | none => exact halloc
    | some h' =>
      have hne : h ≠ h' := by
        rintro rfl
        exact hj (hinv.distinct j i h hjconn hconn)
      simpa [RaceState.close, hne] using halloc
  · intro h hh
    rw [goto_pool, hpool] at hh
    exact Or.inl hh
  · intro h _
    rw [goto_self]
    exact Or.inr hclosed
  · rw [goto_pool, hpool]
    exact hinv.conn i
  · intro j hj
    rw [goto_self, hwork] at hj
    rw [goto_pool, hpool]
    exact ⟨(Option.some.inj hj).symm, hinv.work t i ht⟩
  · intro j hj
    rw [goto_self, hopened] at hj
    cases hj
  · intro j hj
    rw [goto_self, hclearing] at hj
    cases hj

/-- An assignment to slot `i`; if it sets `conn`, then to NULL or to an object
    that was not allocated before. -/
theorem SlotInv.assign {s : RaceState T n} (hinv : SlotInv s) {t : T} {i : Fin n} {slot : Slot}
    {pc : RacePc n} {allocated : Handle → Bool} (hbefore : (s.threads t).inSection = true)
    (hafter : pc.inSection = true)
    (hheld : ∀ u, Holds s u i → slot.conn = (s.pool.slots i).conn ∧ slot.connected = true)
    (hclosed : ∀ j, (s.threads t).closed = some j → j = i)
    (halloc : ∀ h, s.allocated h = true → allocated h = true)
    (hconn : ∀ h, slot.conn = some h → allocated h = true ∧
      ((s.pool.slots i).conn = some h ∨ s.allocated h = false))
    (hconnected : slot.connected = true → slot.conn ≠ none)
    (hwork : ∀ j, pc.work = some j → j = i ∧ slot.connected = false)
    (hopened : ∀ j, pc.opened = some j → j = i ∧ slot.conn ≠ none)
    (hclearing : ∀ j, pc.clearing = some j → j = i ∧ slot.connected = true) :
    SlotInv (({ s with allocated := allocated }.setSlot i slot).goto t pc) := by
  have hslot : (({ s with allocated := allocated }.setSlot i slot).goto t pc).pool.slots i =
      slot := setSlot_self s.pool i slot
  apply hinv.rework (t := t) (i := i) hbefore
  · rw [goto_self]
    exact hafter
  · intro u hu
    rw [goto_ne _ _ hu]
    rfl
  · intro j hj
    exact setSlot_ne s.pool slot hj
  · rw [hslot]
    exact hheld
  · exact hclosed
  · intro j h _ _ hyes
    exact halloc h hyes
  · rw [hslot]
    intro h hh
    exact (hconn h hh).2
  · rw [hslot]
    intro h hh
    exact Or.inl (hconn h hh).1
  · rw [hslot]
    exact hconnected
  · rw [hslot, goto_self]
    exact hwork
  · rw [hslot, goto_self]
    exact hopened
  · rw [hslot, goto_self]
    exact hclearing

/-- The object that `mysql_init` has made for slot `i`. -/
theorem SlotInv.newObject {s : RaceState T n} (hinv : SlotInv s) {t : T} {i : Fin n}
    (hwork : (s.threads t).work = some i) (hclosed : (s.threads t).closed = some i)
    {h : Handle} (hnew : s.allocated h = false) (ok : Nat) :
    SlotInv (({ s with allocated := Function.update s.allocated h true }.setSlot i
      { s.pool.slots i with conn := some h }).goto t (.realConnect i ok)) := by
  have hoff := hinv.work t i hwork
  apply hinv.assign (inSection_of_work hwork) rfl (fun u hu => absurd hu (hinv.nobody hwork u))
  · rw [hclosed]
    rintro j ⟨⟩
    rfl
  · intro h' hyes
    by_cases hh : h' = h
    · rw [hh, Function.update_self]
    · rw [Function.update_of_ne hh]
      exact hyes
  · rintro h' ⟨⟩
    exact ⟨Function.update_self _ _ _, Or.inr hnew⟩
  · exact fun _ => nofun
  · rintro j ⟨⟩
    exact ⟨rfl, hoff⟩
  · rintro j ⟨⟩
    exact ⟨rfl, nofun⟩
  · exact nofun

/-- `conn` of slot `i` is set to NULL after its object was closed. -/
theorem SlotInv.clearConn {s : RaceState T n} (hinv : SlotInv s) {t : T} {i : Fin n}
    {pc : RacePc n} (hbefore : (s.threads t).work = some i)
    (hclosed : (s.threads t).closed = some i) (hafter : pc.inSection = true)
    (hwork : ∀ j, pc.work = some j → j = i) (hopened : pc.opened = none)
    (hclearing : pc.clearing = none) :
    SlotInv ((s.setSlot i { s.pool.slots i with conn := none }).goto t pc) := by
  have hoff := hinv.work t i hbefore
  apply hinv.assign (inSection_of_work hbefore) hafter
    (fun u hu => absurd hu (hinv.nobody hbefore u))
  · rw [hclosed]
    rintro j ⟨⟩
    rfl
  · exact fun _ hyes => hyes
  · exact fun _ => nofun
  · intro hon
    rw [hoff] at hon
    cases hon
  · exact fun j hj => ⟨hwork j hj, hoff⟩
  · rw [hopened]
    exact nofun
  · rw [hclearing]
    exact nofun

/-- An assignment to a flag of slot `i`, whose object stays. -/
theorem SlotInv.setFlags {s : RaceState T n} (hinv : SlotInv s) {t : T} {i : Fin n} {slot : Slot}
    {pc : RacePc n} (hbefore : (s.threads t).inSection = true) (hafter : pc.inSection = true)
    (hheld : ∀ u, Holds s u i → slot.connected = true) (hnone : (s.threads t).closed = none)
    (hsame : slot.conn = (s.pool.slots i).conn)
    (hconnected : slot.connected = true → (s.pool.slots i).conn ≠ none)
    (hwork : pc.work = none) (hopened : pc.opened = none)
    (hclearing : ∀ j, pc.clearing = some j → j = i ∧ slot.connected = true) :
    SlotInv ((s.setSlot i slot).goto t pc) := by
  apply hinv.assign hbefore hafter (fun u hu => ⟨hsame, hheld u hu⟩) _ (fun _ hyes => hyes) _ _ _ _
    hclearing
  · rw [hnone]
    exact nofun
  · rw [hsame]
    intro h hh
    exact ⟨hinv.isAllocated hbefore (by rw [hnone]; exact nofun) hh, Or.inl hh⟩
  · rw [hsame]
    exact hconnected
  · rw [hwork]
    exact nofun
  · rw [hopened]
    exact nofun

/-- A step from one place to another that writes no slot. -/
theorem SlotInv.goto {s : RaceState T n} (hinv : SlotInv s) {t : T} {pc pc' : RacePc n}
    (ht : s.threads t = pc) {pool : MysqlPool n} (hslots : pool.slots = s.pool.slots)
    (hbefore : pc.isFree = true) (hafter : pc'.isFree = true)
    (hsection : pc'.inSection = true → pc.inSection = true ∨ ∀ u, (s.threads u).inSection = false)
    (hwork : ∀ i, pc'.work = some i → (s.pool.slots i).connected = false)
    (hopened : ∀ i, pc'.opened = some i → (s.pool.slots i).conn ≠ none)
    (hclosed : pc.closed = none) (hclearing : pc'.clearing = none) :
    SlotInv ({ s with pool := pool }.goto t pc') := by
  subst ht
  apply hinv.move (r := RaceState.goto { s with pool := pool } t pc') (t := t) hslots rfl
    (fun u hu => goto_ne _ _ hu) hbefore
  · rw [goto_self]
    exact hafter
  · rw [goto_self]
    exact hsection
  · rw [goto_self]
    exact hwork
  · rw [goto_self]
    exact hopened
  · exact hclosed
  · rw [goto_self]
    exact hclearing

/-- **One statement** of the reconnecting thread. -/
theorem slotInv_advance {s : RaceState T n} (hinv : SlotInv s) (t : T) (answer : StepAnswer)
    (horder : OneReconnects s (.advance t answer)) : SlotInv (advance s t answer) := by
  unfold advance
  cases hpc : s.threads t with
  | idle | scanning | taken | holding | waiting => exact hinv
  | testReconnecting =>
    dsimp only
    split
    · exact hinv.goto hpc rfl rfl rfl nofun nofun nofun rfl rfl
    · exact hinv.goto hpc rfl rfl rfl nofun nofun nofun rfl rfl
  | testBackoff =>
    dsimp only
    split
    · exact hinv.goto hpc rfl rfl rfl nofun nofun nofun rfl rfl
    · next hlate =>
      have hnobody := horder hpc hlate
      exact hinv.goto hpc rfl rfl rfl (fun _ => Or.inr hnobody) nofun nofun rfl rfl
  | setReconnecting now =>
    exact hinv.goto hpc rfl rfl rfl (fun _ => Or.inl rfl) nofun nofun rfl rfl
  | setAttempt now =>
    exact hinv.goto hpc rfl rfl rfl (fun _ => Or.inl rfl) nofun nofun rfl rfl
  | loop i ok =>
    dsimp only
    split
    · next hi =>
      split
      · exact hinv.goto hpc rfl rfl rfl (fun _ => Or.inl rfl) nofun nofun rfl rfl
      · next hoff =>
        have hwork : ∀ j, some ⟨i, hi⟩ = some j → (s.pool.slots j).connected = false := by
          rintro j ⟨⟩
          simpa using hoff
        exact hinv.goto hpc rfl rfl rfl (fun _ => Or.inl rfl) hwork nofun rfl rfl
    · exact hinv.goto hpc rfl rfl rfl (fun _ => Or.inl rfl) nofun nofun rfl rfl
  | closeOld i ok =>
    exact hinv.close (by rw [hpc]; rfl) (by rw [hpc]; rfl) rfl rfl rfl rfl rfl
  | mysqlInit i ok =>
    have hwork : (s.threads t).work = some i := by rw [hpc]; rfl
    have hclosed : (s.threads t).closed = some i := by rw [hpc]; rfl
    dsimp only
    split
    · exact hinv.clearConn hwork hclosed rfl nofun rfl rfl
    · next h hinit =>
      -- the new object was not allocated
      have hnew : s.allocated h = false := by
        obtain ⟨-, hfree⟩ := Option.filter_eq_some_iff.mp hinit
        simpa using hfree
      exact hinv.newObject hwork hclosed hnew ok
  | realConnect i ok =>
    have hoff : (s.pool.slots i).connected = false := hinv.work t i (by rw [hpc]; rfl)
    have hsome : (s.pool.slots i).conn ≠ none := hinv.opened t i (by rw [hpc]; rfl)
    have hwork : ∀ j, some i = some j → (s.pool.slots j).connected = false := by
      rintro j ⟨⟩
      exact hoff
    have hopened : ∀ j, some i = some j → (s.pool.slots j).conn ≠ none := by
      rintro j ⟨⟩
      exact hsome
    dsimp only
    split
    · exact hinv.goto hpc rfl rfl rfl (fun _ => Or.inl rfl) hwork hopened rfl rfl
    · exact hinv.goto hpc rfl rfl rfl (fun _ => Or.inl rfl) hwork hopened rfl rfl
  | closeFailed i ok =>
    exact hinv.close (by rw [hpc]; rfl) (by rw [hpc]; rfl) rfl rfl rfl rfl rfl
  | clearConn i ok =>
    have hwork : (s.threads t).work = some i := by rw [hpc]; rfl
    have hclosed : (s.threads t).closed = some i := by rw [hpc]; rfl
    exact hinv.clearConn hwork hclosed rfl (fun j hj => (Option.some.inj hj).symm) rfl rfl
  | clearConnected i ok =>
    have hwork : (s.threads t).work = some i := by rw [hpc]; rfl
    have hnone : (s.threads t).closed = none := by rw [hpc]; rfl
    exact hinv.setFlags (inSection_of_work hwork) rfl (fun u hu => absurd hu (hinv.nobody hwork u))
      hnone rfl nofun rfl rfl nofun
  | setConnected i ok =>
    have hwork : (s.threads t).work = some i := by rw [hpc]; rfl
    have hnone : (s.threads t).closed = none := by rw [hpc]; rfl
    have hsome := hinv.opened t i (by rw [hpc]; rfl)
    have hclearing : ∀ j, some i = some j → j = i ∧ true = true := by
      rintro j ⟨⟩
      exact ⟨rfl, rfl⟩
    exact hinv.setFlags (inSection_of_work hwork) rfl (fun _ _ => rfl) hnone rfl
      (fun _ => hsome) rfl rfl hclearing
  | clearInUse i ok =>
    have hclearing : (s.threads t).clearing = some i := by rw [hpc]; rfl
    have hnone : (s.threads t).closed = none := by rw [hpc]; rfl
    have hon := hinv.clearing t i hclearing
    -- a borrower that came in between keeps its connection, if not its mark
    exact hinv.setFlags (inSection_of_clearing hclearing) rfl (fun _ _ => hon) hnone rfl
      (fun _ => hinv.conn i hon) rfl rfl nofun
  | setActiveCount ok =>
    exact hinv.goto hpc rfl rfl rfl (fun _ => Or.inl rfl) nofun nofun rfl rfl
  | setBackoff ok =>
    dsimp only
    split
    · exact hinv.goto hpc rfl rfl rfl (fun _ => Or.inl rfl) nofun nofun rfl rfl
    · exact hinv.goto hpc rfl rfl rfl (fun _ => Or.inl rfl) nofun nofun rfl rfl
  | capBackoff =>
    dsimp only
    split
    · exact hinv.goto hpc rfl rfl rfl (fun _ => Or.inl rfl) nofun nofun rfl rfl
    · exact hinv.goto hpc rfl rfl rfl (fun _ => Or.inl rfl) nofun nofun rfl rfl
  | clearReconnecting => exact hinv.goto hpc rfl rfl rfl nofun nofun nofun rfl rfl
  | broadcast => exact hinv.goto hpc rfl rfl rfl nofun nofun nofun rfl rfl

/-- **Step lemma** for the slots. -/
theorem slotInv_step {s : RaceState T n} (hinv : SlotInv s) (op : RaceOp T)
    (horder : OneReconnects s op) : SlotInv (raceStep s op) := by
  cases op with
  | borrow t =>
    show SlotInv (if _ then _ else _)
    split
    · next hpc => exact hinv.goto hpc rfl rfl rfl nofun nofun nofun rfl rfl
    · exact hinv
  | scan t =>
    show SlotInv (if _ then _ else _)
    split
    · next hpc =>
      split
      · next i hscan => exact hinv.take hpc hscan
      · split
        · exact hinv.goto hpc rfl rfl rfl nofun nofun nofun rfl rfl
        · exact hinv.goto hpc rfl rfl rfl nofun nofun nofun rfl rfl
    · exact hinv
  | readConn t =>
    unfold raceStep
    dsimp only
    split
    · next i hpc =>
      split
      · next h hconn => exact hinv.readConn hpc hconn
      · next hnone =>
        -- a slot that was taken is connected
        have hon := hinv.held t i (Or.inl hpc)
        exact absurd hnone (hinv.conn i hon)
    · exact hinv
  | wake t =>
    show SlotInv (if _ then _ else _)
    split
    · next hpc => exact hinv.goto hpc rfl rfl rfl nofun nofun nofun rfl rfl
    · exact hinv
  | timeout t =>
    show SlotInv (if _ then _ else _)
    split
    · next hpc => exact hinv.goto hpc rfl rfl rfl nofun nofun nofun rfl rfl
    · exact hinv
  | giveBack t =>
    unfold raceStep
    dsimp only
    split
    · next h hpc => exact hinv.giveBack hpc
    · exact hinv
  | advance t answer => exact slotInv_advance hinv t answer horder

/-! ## Section 4: The borrowers -/

omit [DecidableEq T] in
/-- A step after which nobody has a slot that they did not have before. -/
theorem RaceInv.keep {s r : RaceState T n} (hinv : RaceInv s) (hslot : SlotInv r)
    (hholds : ∀ u i, Holds r u i → Holds s u i)
    (hmarked : ∀ u i, Holds r u i → (r.pool.slots i).inUse = (s.pool.slots i).inUse)
    (hclearing : ∀ u i, (r.threads u).clearing = some i →
      (s.threads u).clearing = some i ∨ ∀ v, ¬ Holds s v i) : RaceInv r where
  toSlotInv := hslot
  unborrowed := by
    intro u i hu v hv
    rcases hclearing u i hu with hold | hnobody
    · exact hinv.unborrowed u i hold v (hholds v i hv)
    · exact hnobody v (hholds v i hv)
  marked := by
    intro u i hu
    rw [hmarked u i hu]
    exact hinv.marked u i (hholds u i hu)
  holds_unique := fun u v i hu hv => hinv.holds_unique u v i (hholds u i hu) (hholds v i hv)

omit [DecidableEq T] in
/-- What a thread has that does not step. -/
theorem holds_of_other {s r : RaceState T n} {u : T} {i : Fin n}
    (hu : r.threads u = s.threads u) (hconn : (r.pool.slots i).conn = (s.pool.slots i).conn)
    (h : Holds r u i) : Holds s u i := by
  unfold Holds at h ⊢
  rwa [hu, hconn] at h

/-- A thread without a slot goes to another place. -/
theorem RaceInv.goto {s : RaceState T n} (hinv : RaceInv s) {t : T} {pc pc' : RacePc n}
    (ht : s.threads t = pc) (hbefore : pc.isFree = true) (hafter : pc'.isFree = true)
    (hclearing : pc'.clearing = none) (hslot : SlotInv (s.goto t pc')) :
    RaceInv (s.goto t pc') := by
  subst ht
  refine hinv.keep hslot (fun u i hu => ?_) (fun _ _ _ => rfl) fun u i hu => ?_
  · have hiff := holds_iff hbefore (by rw [goto_self]; exact hafter) (fun v hv => goto_ne s _ hv)
      u i
      rfl
    exact hiff.mp hu
  · by_cases hut : u = t
    · rw [hut, goto_self, hclearing] at hu
      cases hu
    · rw [goto_ne _ _ hut] at hu
      exact Or.inl hu

/-- A scan takes a slot that nobody has and that is not about to be cleared. -/
theorem RaceInv.take {s : RaceState T n} (hinv : RaceInv s) {t : T} {i : Fin n}
    (hscan : borrowScan s.pool = some i) (horder : ∀ u ok, s.threads u ≠ .clearInUse i ok)
    (hslot : SlotInv ((s.setSlot i { s.pool.slots i with inUse := true }).goto t (.taken i))) :
    RaceInv ((s.setSlot i { s.pool.slots i with inUse := true }).goto t (.taken i)) := by
  obtain ⟨hconn, -, hinUse⟩ := setInUse_fields s i true t (.taken i)
  have hnobody : ∀ u, ¬ Holds s u i := by
    intro u hu
    have hflag := hinv.marked u i hu
    rw [(borrowScan_some hscan).1] at hflag
    cases hflag
  -- the slots of the others are those they had
  have hold {u : T} {j : Fin n} (hut : u ≠ t)
      (hu : Holds ((s.setSlot i { s.pool.slots i with inUse := true }).goto t (.taken i)) u j) :
      Holds s u j := holds_of_other (goto_ne (s.setSlot i _) _ hut) (hconn j) hu
  refine ⟨hslot, ?_, ?_, ?_⟩
  · intro u j hu v hv
    by_cases hut : u = t
    · rw [hut, goto_self] at hu
      cases hu
    · rw [goto_ne _ _ hut] at hu
      by_cases hvt : v = t
      · subst hvt
        obtain rfl := holds_taken hv
        obtain ⟨ok, hpc⟩ := clearInUse_of_clearing hu
        exact horder u ok hpc
      · exact hinv.unborrowed u j hu v (hold hvt hv)
  · intro u j hu
    rw [hinUse]
    split
    · rfl
    · next hji =>
      by_cases hut : u = t
      · subst hut
        exact absurd (holds_taken hu) hji
      · exact hinv.marked u j (hold hut hu)
  · intro u v j hu hv
    by_cases hut : u = t
    · by_cases hvt : v = t
      · rw [hut, hvt]
      · subst hut
        obtain rfl := holds_taken hu
        exact absurd (hold hvt hv) (hnobody v)
    · by_cases hvt : v = t
      · subst hvt
        obtain rfl := holds_taken hv
        exact absurd (hold hut hu) (hnobody u)
      · exact hinv.holds_unique u v j (hold hut hu) (hold hvt hv)

/-- The borrower reads the connection of the slot that it has. -/
theorem RaceInv.readConn {s : RaceState T n} (hinv : RaceInv s) {t : T} {i : Fin n}
    (ht : s.threads t = .taken i) {h : Handle} (hconn : (s.pool.slots i).conn = some h) :
    RaceInv (s.goto t (.holding h)) := by
  refine hinv.keep (hinv.toSlotInv.readConn ht hconn) (fun u j hu => ?_) (fun _ _ _ => rfl)
    fun u j hu => ?_
  · by_cases hut : u = t
    · subst hut
      obtain rfl := hinv.holds_readConn hconn hu
      exact Or.inl ht
    · exact holds_of_other (goto_ne _ _ hut) rfl hu
  · by_cases hut : u = t
    · rw [hut, goto_self] at hu
      cases hu
    · rw [goto_ne _ _ hut] at hu
      exact Or.inl hu

/-- A borrower returns its slot, and no other. -/
theorem RaceInv.giveBack {s : RaceState T n} (hinv : RaceInv s) {t : T} {h : Handle}
    (ht : s.threads t = .holding h) :
    RaceInv ({ s with pool := dbMysqlPoolReturn s.pool h }.goto t .idle) := by
  have hslot := hinv.toSlotInv.giveBack ht
  obtain ⟨j, hj, hpool⟩ := hinv.return_eq ht
  rw [hpool] at hslot ⊢
  obtain ⟨hconn, -, hinUse⟩ := setInUse_fields s j false t .idle
  have hother {u : T} {k : Fin n}
      (hu : Holds ((s.setSlot j { s.pool.slots j with inUse := false }).goto t .idle) u k) :
      u ≠ t ∧ Holds s u k := by
    have hut : u ≠ t := by
      rintro rfl
      exact not_holds_goto_idle hu
    exact ⟨hut, holds_of_other (goto_ne (s.setSlot j _) _ hut) (hconn k) hu⟩
  refine hinv.keep hslot (fun u k hu => (hother hu).2) (fun u k hu => ?_) fun u k hu => ?_
  -- the flag of a slot with another borrower is not touched
  · obtain ⟨hut, hold⟩ := hother hu
    refine (hinUse k).trans (if_neg ?_)
    rintro rfl
    exact hut (hinv.holds_unique u t k hold (Or.inr ⟨h, ht, hj⟩))
  · by_cases hut : u = t
    · rw [hut, goto_self] at hu
      cases hu
    · rw [goto_ne _ _ hut] at hu
      exact Or.inl hu

/-! ### What a statement of the reconnecting thread does -/

theorem advance_others (s : RaceState T n) (t : T) (answer : StepAnswer) {u : T} (hu : u ≠ t) :
    (advance s t answer).threads u = s.threads u := by
  unfold advance
  split
  all_goals repeat' split
  all_goals simp [RaceState.goto, RaceState.setSlot, close_threads, hu]

/-- A thread that has taken a slot does not reconnect. -/
theorem advance_of_not_isFree {s : RaceState T n} {t : T} (answer : StepAnswer)
    (h : (s.threads t).isFree = false) : advance s t answer = s := by
  unfold advance
  cases hpc : s.threads t with
  | idle | scanning | taken | holding | waiting => rfl
  | _ =>
    rw [hpc] at h
    cases h

theorem isFree_advance {s : RaceState T n} {t : T} (answer : StepAnswer)
    (h : (s.threads t).isFree = true) : ((advance s t answer).threads t).isFree = true := by
  unfold advance
  split
  all_goals repeat' split
  all_goals first | (rw [goto_self]; rfl) | exact h

/-- Only `mysql_init` gives a slot a new object. -/
theorem advance_conn {s : RaceState T n} {t : T} {answer : StepAnswer} {i : Fin n} {h : Handle}
    (hi : ((advance s t answer).pool.slots i).conn = some h) :
    (s.pool.slots i).conn = some h ∨
      (∃ ok, s.threads t = .mysqlInit i ok) ∧ s.allocated h = false := by
  unfold advance at hi
  cases hpc : s.threads t with
  | mysqlInit j ok =>
    rw [hpc] at hi
    by_cases hij : i = j
    · subst hij
      dsimp only at hi
      split at hi
      · simp [RaceState.setSlot] at hi
      · next h' hinit =>
        obtain rfl : h' = h := by simpa [RaceState.setSlot] using hi
        obtain ⟨-, hfree⟩ := Option.filter_eq_some_iff.mp hinit
        exact Or.inr ⟨⟨ok, rfl⟩, by simpa using hfree⟩
    · dsimp only at hi
      split at hi <;> exact Or.inl (by simpa [RaceState.setSlot, hij] using hi)
  | clearConn j ok =>
    rw [hpc] at hi
    by_cases hij : i = j
    · simp [RaceState.setSlot, hij] at hi
    · exact Or.inl (by simpa [RaceState.setSlot, hij] using hi)
  | clearConnected j ok | setConnected j ok | clearInUse j ok =>
    rw [hpc] at hi
    by_cases hij : i = j
    · subst hij
      exact Or.inl (by simpa [RaceState.setSlot] using hi)
    · exact Or.inl (by simpa [RaceState.setSlot, hij] using hi)
  | closeOld | closeFailed =>
    rw [hpc] at hi
    exact Or.inl (by simpa [close_pool] using hi)
  | _ =>
    rw [hpc] at hi
    dsimp only at hi
    repeat' split at hi
    all_goals exact Or.inl hi

theorem advance_inUse (s : RaceState T n) (t : T) (answer : StepAnswer) (i : Fin n) :
    ((advance s t answer).pool.slots i).inUse = (s.pool.slots i).inUse ∨
      ∃ ok, s.threads t = .clearInUse i ok := by
  unfold advance
  cases hpc : s.threads t with
  | clearInUse j ok =>
    by_cases hij : i = j
    · exact Or.inr ⟨ok, by rw [hij]⟩
    · exact Or.inl (by simp [RaceState.setSlot, hij])
  | mysqlInit j ok | clearConn j ok | clearConnected j ok | setConnected j ok =>
    dsimp only
    repeat' split
    all_goals
      by_cases hij : i = j
      · subst hij
        simp [RaceState.setSlot]
      · simp [RaceState.setSlot, hij]
  | closeOld | closeFailed => simp [close_pool]
  | _ =>
    dsimp only
    repeat' split
    all_goals exact Or.inl rfl

/-- Before `in_use = 0` comes `connected = 1`. -/
theorem advance_clearing {s : RaceState T n} {t : T} {answer : StepAnswer} {i : Fin n}
    (hi : ((advance s t answer).threads t).clearing = some i) : (s.threads t).work = some i := by
  unfold advance at hi
  cases hpc : s.threads t with
  | setConnected j ok =>
    rw [hpc] at hi
    simpa [RacePc.clearing, RacePc.work] using hi
  | idle | scanning | taken | holding | waiting =>
    rw [hpc] at hi
    dsimp only at hi
    rw [hpc] at hi
    cases hi
  | _ =>
    rw [hpc] at hi
    dsimp only at hi
    repeat' split at hi
    all_goals
      rw [goto_self] at hi
      cases hi

/-- A statement gives nobody a slot. -/
theorem SlotInv.holds_advance {s : RaceState T n} (hinv : SlotInv s) {t : T}
    (hfree : (s.threads t).isFree = true) {answer : StepAnswer} {u : T} {i : Fin n}
    (hu : Holds (advance s t answer) u i) : Holds s u i := by
  refine hinv.holds_of_step (isFree_advance answer hfree)
    (fun v hv => advance_others s t answer hv) (fun j h hj => ?_) hu
  rcases advance_conn hj with hsame | ⟨⟨ok, hpc⟩, hnew⟩
  · exact Or.inl hsame
  · refine Or.inr ⟨by rw [hpc]; rfl, fun k hk => ?_, hnew⟩
    rw [hpc] at hk
    exact (Option.some.inj hk).symm

theorem raceInv_advance {s : RaceState T n} (hinv : RaceInv s) (t : T) (answer : StepAnswer)
    (hslot : SlotInv (advance s t answer)) : RaceInv (advance s t answer) := by
  by_cases hfree : (s.threads t).isFree = true
  · refine hinv.keep hslot (fun u i hu => hinv.holds_advance hfree hu) (fun u i hu => ?_)
      fun u i hu => ?_
    · rcases advance_inUse s t answer i with hsame | ⟨ok, hpc⟩
      · exact hsame
      -- no borrower came in between, so the mark that is wiped out is nobody's
      · have hnobody := hinv.unborrowed t i (by rw [hpc]; rfl) u
        exact absurd (hinv.holds_advance hfree hu) hnobody
    · by_cases hut : u = t
      · subst hut
        exact Or.inr (hinv.nobody (advance_clearing hu))
      · rw [advance_others s t answer hut] at hu
        exact Or.inl hu
  · rw [advance_of_not_isFree answer (by simpa using hfree)]
    exact hinv

/-- **Step lemma.** -/
theorem raceInv_step {s : RaceState T n} (hinv : RaceInv s) (op : RaceOp T)
    (horder : RaceOrderly s op) : RaceInv (raceStep s op) := by
  have hslot := slotInv_step hinv.toSlotInv op horder.oneReconnects
  cases op with
  | advance t answer => exact raceInv_advance hinv t answer hslot
  | borrow t | wake t | timeout t =>
    unfold raceStep at hslot ⊢
    dsimp only at hslot ⊢
    split at hslot
    · next hpc =>
      rw [if_pos hpc]
      exact hinv.goto hpc rfl rfl rfl hslot
    · next hpc =>
      rw [if_neg hpc]
      exact hinv
  | scan t =>
    unfold raceStep at hslot ⊢
    dsimp only at hslot ⊢
    split at hslot
    · next hpc =>
      rw [if_pos hpc]
      cases hscan : borrowScan s.pool with
      | some i =>
        rw [hscan] at hslot
        exact hinv.take hscan (horder hpc i hscan) hslot
      | none =>
        rw [hscan] at hslot
        dsimp only at hslot ⊢
        split at hslot
        · next hwants =>
          rw [if_pos hwants]
          exact hinv.goto hpc rfl rfl rfl hslot
        · next hwants =>
          rw [if_neg hwants]
          exact hinv.goto hpc rfl rfl rfl hslot
    · next hpc =>
      rw [if_neg hpc]
      exact hinv
  | readConn t =>
    unfold raceStep
    dsimp only
    split
    · next i hpc =>
      split
      · next h hconn => exact hinv.readConn hpc hconn
      · next hnone => exact absurd hnone (hinv.conn i (hinv.held t i (Or.inl hpc)))
    · exact hinv
  | giveBack t =>
    unfold raceStep
    dsimp only
    split
    · next h hpc => exact hinv.giveBack hpc
    · exact hinv

/-! ## Section 5: Runs -/

/-- **One borrower a connection**, in every state of a run in which one thread
    reconnects at a time and no slot is taken whose `in_use` is about to be
    cleared. -/
theorem no_double_borrow {s₀ s : RaceState T n} (h₀ : PartlyConnected s₀) {ops : List (RaceOp T)}
    (hrun : Run (restrict (ofFun raceStep) RaceOrderly) s₀ ops s) : NoDoubleBorrow s := by
  have hinv : RaceInv s := by
    apply hrun.invariant (raceInv_init h₀)
    rintro t op u hinv ⟨horder, rfl⟩
    exact raceInv_step hinv op horder
  exact hinv.noDoubleBorrow

/-- Two slots, the first one connected, and three idle threads. -/
def halfConnected : RaceState (Fin 3) 2 where
  pool :=
    { dbMysqlPoolCreate 2 with
      slots := fun i => if i = 0 then ⟨some 5, false, true⟩ else ⟨none, false, false⟩
      activeCount := 1 }
  threads := fun _ => .idle
  allocated := fun h => h = 5

theorem conn_halfConnected {i : Fin 2} {h : Handle}
    (hconn : (halfConnected.pool.slots i).conn = some h) : i = 0 ∧ h = 5 := by
  fin_cases i
  · exact ⟨rfl, (Option.some.inj hconn).symm⟩
  · cases hconn

theorem partlyConnected_halfConnected : PartlyConnected halfConnected where
  idle := fun _ => rfl
  conn_iff := by decide
  allocated := by
    intro i h hconn
    rw [(conn_halfConnected hconn).2]
    rfl
  distinct := by
    intro i j h hi hj
    rw [(conn_halfConnected hi).1, (conn_halfConnected hj).1]
  free := by decide
  notReconnecting := rfl

instance [Fintype T] (s : RaceState T n) : ∀ op, Decidable (RaceOrderly s op)
  | .scan t => decidable_of_iff (s.threads t = .scanning → ∀ i, borrowScan s.pool = some i →
      ∀ u, (s.threads u).clearing ≠ some i) <| by
    refine forall_congr' fun _ => forall_congr' fun i => forall_congr' fun _ =>
      forall_congr' fun u => ?_
    constructor
    · intro h ok hpc
      exact h (by rw [hpc]; rfl)
    · intro h hpc
      obtain ⟨ok, hpc⟩ := clearInUse_of_clearing hpc
      exact h ok hpc
  | .advance t answer => inferInstanceAs (Decidable (OneReconnects s (.advance t answer)))
  | .borrow _ | .readConn _ | .wake _ | .timeout _ | .giveBack _ =>
    inferInstanceAs (Decidable True)

/-- Thread 2 has the first slot, thread 0 reconnects the second one and takes
    it, and thread 1 waits until thread 2 returns its connection. -/
def reconnectRun : List (RaceOp (Fin 3)) :=
  [.borrow 2, .scan 2, .readConn 2, .borrow 0, .scan 0] ++
    List.replicate 16 (.advance 0 ⟨1, some 7, true⟩) ++
    [.scan 0, .readConn 0, .borrow 1, .scan 1, .giveBack 2, .wake 1, .scan 1, .readConn 1]

/-- Two borrowers after a reconnect, each with a connection of its own. -/
theorem no_double_borrow_reconnect :
    ∃ s, Run (restrict (ofFun raceStep) RaceOrderly) halfConnected reconnectRun s ∧
      s.threads 0 = .holding 7 ∧ s.threads 1 = .holding 5 ∧ NoDoubleBorrow s := by
  have hrun : Run (restrict (ofFun raceStep) RaceOrderly) halfConnected reconnectRun
      (reconnectRun.foldl raceStep halfConnected) := Run.of_meets (by decide)
  exact ⟨_, hrun, by decide, by decide, no_double_borrow partlyConnected_halfConnected hrun⟩

/-- Thread 2 has the first slot.  Thread 0 reconnects the second one up to
    `connected = 1`; thread 1 takes it; thread 0 clears `in_use`, finds the
    slot free and takes it as well. -/
def windowRun : List (RaceOp (Fin 3)) :=
  let next := RaceOp.advance 0 ⟨1, some 7, true⟩
  [.borrow 2, .scan 2, .readConn 2, .borrow 0, .scan 0] ++
    -- the two tests, two assignments, slot 0, slot 1 up to `connected = 1`
    [next, next, next, next, next, next, next, next, next, next] ++
    [.borrow 1, .scan 1, .readConn 1] ++
    -- `in_use = 0`, the end of the loop and of `pool_try_reconnect`
    [next, next, next, next, next, next] ++ [.scan 0, .readConn 0]

/-- Without the two rules a connection gets two borrowers. -/
theorem borrowed_twice :
    ¬ ∀ (n k : Nat) (s₀ s : RaceState (Fin k) n) (ops : List (RaceOp (Fin k))),
      PartlyConnected s₀ → Run (ofFun raceStep) s₀ ops s → NoDoubleBorrow s := by
  intro h
  have hone := h 2 3 halfConnected _ windowRun partlyConnected_halfConnected
    (run_ofFun_iff.mpr rfl)
  have hfirst : (windowRun.foldl raceStep halfConnected).threads 0 = .holding 7 := by
    decide +kernel
  have hsecond : (windowRun.foldl raceStep halfConnected).threads 1 = .holding 7 := by
    decide +kernel
  exact absurd (hone 0 1 7 hfirst hsecond) (by decide)

end DbMysql
