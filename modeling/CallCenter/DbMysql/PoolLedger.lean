import CallCenter.DbMysql.PoolRace
import CallCenter.Framework.Ownership

/-! # The Objects of `libmysqlclient`

    Every `MYSQL` and every `MYSQL_RES` that `db_mysql.c` works with, from
    `db_mysql_pool_connect_all` to `db_mysql_pool_destroy`, while any number
    of threads send statements, read results and reconnect.  The steps are
    those of `raceStep`; the log says what they do to which object.

    `mysql_ledger`: while one thread reconnects at a time, no object is used
    or closed after it was closed, none is lost, and `db_mysql_pool_destroy`
    leaves nothing behind.  That holds also where two threads borrow one
    connection, since no connection is closed once its slot is connected.
    When two threads reconnect, one closes the connection that the other one
    is opening (`closed_while_connecting`). -/

namespace DbMysql

open Transition Ownership

/-! ## Section 1: The log -/

inductive MysqlObject where
  | conn (h : Handle)
  | result (r : Nat)
  /-- What a NULL pointer points to. -/
  | null
  deriving DecidableEq, Repr

/-- `results` are the result sets that a thread still has to free. -/
structure MysqlState (T : Type*) (n : Nat) where
  race : RaceState T n
  results : T → Option Nat
  log : List (Event MysqlObject)

/-- How a statement ends. -/
inductive StatementAnswer where
  | failed
  /-- `mysql_affected_rows` -/
  | affected
  /-- `mysql_store_result` -/
  | stored (result : Option Nat)
  deriving DecidableEq, Repr

inductive MysqlOp (T : Type*) (n : Nat) where
  | race (op : RaceOp T)
  | statement (t : T) (answer : StatementAnswer)
  /-- `mysql_num_rows`, `mysql_fetch_row` or an access to a row. -/
  | readResult (t : T)
  /-- `mysql_free_result` -/
  | freeResult (t : T)

variable {T : Type*} [DecidableEq T] {n : Nat}

def MysqlState.call (s : MysqlState T n) (e : Event MysqlObject) : MysqlState T n :=
  { s with log := s.log ++ [e] }

omit [DecidableEq T] in
@[simp] theorem call_race (s : MysqlState T n) (e : Event MysqlObject) :
    (s.call e).race = s.race := rfl

omit [DecidableEq T] in
@[simp] theorem call_results (s : MysqlState T n) (e : Event MysqlObject) :
    (s.call e).results = s.results := rfl

def connAt (conn : Option Handle) : MysqlObject := conn.elim .null .conn

/-- `mysql_close(conn)`, which accepts NULL. -/
def closeCalls (conn : Option Handle) : List (Event MysqlObject) :=
  conn.toList.map fun h => .release (.conn h)

/-- The calls of the next statement of `pool_try_reconnect` or `slot_connect`. -/
def advanceCalls (s : RaceState T n) (t : T) (answer : StepAnswer) : List (Event MysqlObject) :=
  match s.threads t with
  | .closeOld i _ => closeCalls (s.pool.slots i).conn
  | .mysqlInit _ _ => (s.mysqlInit answer.handle).toList.map fun h => .acquire (.conn h)
  -- with the options before and the connection itself
  | .realConnect i _ => [.use (connAt (s.pool.slots i).conn)]
  -- the text of the error is logged first
  | .closeFailed i _ =>
    .use (connAt (s.pool.slots i).conn) :: closeCalls (s.pool.slots i).conn
  | _ => []

def raceCalls (s : RaceState T n) : RaceOp T → List (Event MysqlObject)
  | .advance t answer => advanceCalls s t answer
  | _ => []

/-- The result set is not one that somebody still has. -/
def MysqlState.storeResult (s : MysqlState T n) (result : Option Nat) : Option Nat :=
  result.filter fun r => (Ownership.run ∅ s.log).all fun held => .result r ∉ held

/-- The calls of a statement on the connection `h`.  Two threads on one
    connection could mix theirs, which all leave it open. -/
def MysqlState.statement (s : MysqlState T n) (t : T) (h : Handle) :
    StatementAnswer → MysqlState T n
  | .failed | .affected => (s.call (.use (.conn h))).call (.use (.conn h))
  | .stored result =>
    let s := (s.call (.use (.conn h))).call (.use (.conn h))
    match s.storeResult result with
    | none => s.call (.use (.conn h))
    | some r =>
      { s.call (.acquire (.result r)) with results := Function.update s.results t (some r) }

/-- A step of the system.  A thread returns its connection before it reads the
    result, and frees the result before it borrows again. -/
def mysqlStep (s : MysqlState T n) : MysqlOp T n → MysqlState T n
  | .race (.borrow t) =>
    if s.results t = none then { s with race := raceStep s.race (.borrow t) } else s
  | .race op => { s with race := raceStep s.race op, log := s.log ++ raceCalls s.race op }
  | .statement t answer =>
    match s.race.threads t, s.results t with
    | .holding h, none => s.statement t h answer
    | _, _ => s
  | .readResult t =>
    match s.race.threads t, s.results t with
    | .idle, some r => s.call (.use (.result r))
    | _, _ => s
  | .freeResult t =>
    match s.race.threads t, s.results t with
    | .idle, some r =>
      { s.call (.release (.result r)) with results := Function.update s.results t none }
    | _, _ => s

/-- `slot_connect`, while nobody else is there. -/
def slotConnectCalls (s : MysqlState T n) (i : Fin n) (answer : StepAnswer) :
    Bool × MysqlState T n :=
  let old := (s.race.pool.slots i).conn
  let s := { s with race := s.race.close old, log := s.log ++ closeCalls old }
  match s.race.mysqlInit answer.handle with
  | none =>
    (false, { s with race := { s.race with pool := (slotConnect s.race.pool i .initFailed).2 } })
  | some h =>
    let s := (s.call (.acquire (.conn h))).call (.use (.conn h))
    if answer.connects then
      (true, { s with race := { s.race with
        pool := (slotConnect s.race.pool i (.established h)).2
        allocated := Function.update s.race.allocated h true } })
    else
      (false, { (s.call (.use (.conn h))).call (.release (.conn h)) with
        race := { s.race with pool := (slotConnect s.race.pool i .connectFailed).2 } })

def connectSlotCalls (answers : Fin n → StepAnswer) (acc : Nat × MysqlState T n) (i : Fin n) :
    Nat × MysqlState T n :=
  match slotConnectCalls acc.2 i (answers i) with
  | (true, s) => (acc.1 + 1, s)
  | (false, s) => (acc.1, s)

/-- `db_mysql_pool_create`, and threads that wait for work. -/
def mysqlNew (T : Type*) (n : Nat) : MysqlState T n where
  race := ⟨dbMysqlPoolCreate n, fun _ => .idle, fun _ => false⟩
  results := fun _ => none
  log := []

/-- `db_mysql_pool_connect_all` on the new pool. -/
def mysqlStart (T : Type*) [DecidableEq T] (answers : Fin n → StepAnswer) : MysqlState T n :=
  let (ok, s) := (List.finRange n).foldl (connectSlotCalls answers) (0, mysqlNew T n)
  { s with race := { s.race with pool := { s.race.pool with activeCount := ok } } }

/-- One iteration of the loop in `db_mysql_pool_destroy`. -/
def closeSlot (s : MysqlState T n) (i : Fin n) : MysqlState T n :=
  { s with
    race := (s.race.close (s.race.pool.slots i).conn).setSlot i
      { s.race.pool.slots i with conn := none }
    log := s.log ++ closeCalls (s.race.pool.slots i).conn }

/-- `db_mysql_pool_destroy` -/
def dbMysqlPoolDestroy (s : MysqlState T n) : MysqlState T n :=
  (List.finRange n).foldl closeSlot s

/-! ## Section 2: What is held -/

/-- The objects that are still to be released. -/
def MysqlState.Held (s : MysqlState T n) : MysqlObject → Prop
  | .conn h => s.race.allocated h = true
  | .result r => ∃ t, s.results t = some r
  | .null => False

/-- Every connection is found in a slot, and what a slot points to although it
    is closed is not allocated. -/
structure Owned (s : RaceState T n) : Prop where
  slot : ∀ h, s.allocated h = true → ∃ i, (s.pool.slots i).conn = some h
  closed : ∀ t i h, (s.threads t).closed = some i → (s.pool.slots i).conn = some h →
    s.allocated h = false

structure LedgerInv (s : MysqlState T n) : Prop where
  slots : SlotInv s.race
  owned : Owned s.race
  results : ∀ t u r, s.results t = some r → s.results u = some r → t = u
  accounts : Accounts s.log s.Held

/-! ## Section 3: Steps of the pool -/

/-- Calls that only read live connections. -/
def LiveUses (s : RaceState T n) (calls : List (Event MysqlObject)) : Prop :=
  ∀ e ∈ calls, ∃ h, s.allocated h = true ∧ e = .use (.conn h)

/-- What a step of thread `t` does to the connections, with its calls. -/
inductive ObjectStep (s r : RaceState T n) (t : T) : List (Event MysqlObject) → Prop where
  | kept (calls : List (Event MysqlObject)) (huses : LiveUses s calls)
      (hconn : ∀ i, (r.pool.slots i).conn = (s.pool.slots i).conn)
      (halloc : r.allocated = s.allocated)
      (hclosed : ∀ i, (r.threads t).closed = some i →
        (s.threads t).closed = some i ∨ (s.pool.slots i).conn = none) :
      ObjectStep s r t calls
  | closed (calls : List (Event MysqlObject)) (i : Fin n) (h : Handle) (huses : LiveUses s calls)
      (hin : (s.threads t).inSection = true) (hi : (s.pool.slots i).conn = some h)
      (hlive : s.allocated h = true)
      (hconn : ∀ j, (r.pool.slots j).conn = (s.pool.slots j).conn)
      (halloc : r.allocated = Function.update s.allocated h false)
      (hclosed : (r.threads t).closed = some i) :
      ObjectStep s r t (calls ++ [.release (.conn h)])
  | forgotten (i : Fin n) (hpc : (s.threads t).closed = some i)
      (hi : (r.pool.slots i).conn = none)
      (hconn : ∀ j, j ≠ i → (r.pool.slots j).conn = (s.pool.slots j).conn)
      (halloc : r.allocated = s.allocated) (hclosed : (r.threads t).closed = none) :
      ObjectStep s r t []
  | made (i : Fin n) (h : Handle) (hpc : (s.threads t).closed = some i)
      (hnew : s.allocated h = false) (hi : (r.pool.slots i).conn = some h)
      (hconn : ∀ j, j ≠ i → (r.pool.slots j).conn = (s.pool.slots j).conn)
      (halloc : r.allocated = Function.update s.allocated h true)
      (hclosed : (r.threads t).closed = none) :
      ObjectStep s r t [.acquire (.conn h)]

variable {s r : RaceState T n} {t : T}

omit [DecidableEq T] in
theorem liveUses_nil : LiveUses s [] := nofun

omit [DecidableEq T] in
/-- A step that touches no connection. -/
theorem ObjectStep.quiet (hconn : ∀ i, (r.pool.slots i).conn = (s.pool.slots i).conn)
    (halloc : r.allocated = s.allocated) (hclosed : (r.threads t).closed = none) :
    ObjectStep s r t [] :=
  .kept [] liveUses_nil hconn halloc (by rw [hclosed]; exact nofun)

/-- `mysql_close` on the object of slot `i`, which is live if there is one. -/
theorem objectStep_close (hinv : SlotInv s) {i : Fin n} {pc : RacePc n}
    (calls : List (Event MysqlObject)) (huses : LiveUses s calls)
    (ht : (s.threads t).work = some i) (hnone : (s.threads t).closed = none)
    (hclosed : pc.closed = some i) :
    ObjectStep s ((s.close (s.pool.slots i).conn).goto t pc) t
      (calls ++ closeCalls (s.pool.slots i).conn) := by
  have hin := inSection_of_work ht
  have hconn (j : Fin n) : ((((s.close (s.pool.slots i).conn).goto t pc)).pool.slots j).conn =
      (s.pool.slots j).conn := by
    rw [goto_pool, close_pool]
  cases hi : (s.pool.slots i).conn with
  | none =>
    rw [hi] at hconn
    refine .kept _ (by simpa [closeCalls] using huses) hconn rfl fun j hj => ?_
    rw [goto_self, hclosed] at hj
    obtain rfl := Option.some.inj hj
    exact Or.inr hi
  | some h =>
    rw [hi] at hconn
    have hlive := hinv.isAllocated hin (by rw [hnone]; exact nofun) hi
    exact .closed calls i h huses hin hi hlive hconn rfl (by rw [goto_self, hclosed])

/-- **One statement** of the reconnecting thread. -/
theorem advance_objects (hinv : SlotInv s) (t : T) (answer : StepAnswer) :
    ObjectStep s (advance s t answer) t (advanceCalls s t answer) := by
  unfold advance advanceCalls
  cases hpc : s.threads t with
  | closeOld i ok =>
    exact objectStep_close hinv [] liveUses_nil (by rw [hpc]; rfl) (by rw [hpc]; rfl) rfl
  | mysqlInit i ok =>
    have hclosed : (s.threads t).closed = some i := by rw [hpc]; rfl
    cases hinit : s.mysqlInit answer.handle with
    | none =>
      refine .forgotten i hclosed ?_ (fun j hj => ?_) rfl (by rw [goto_self]; rfl)
      · simp [RaceState.setSlot]
      · simp [RaceState.setSlot, hj]
    | some h =>
      obtain ⟨-, hfree⟩ := Option.filter_eq_some_iff.mp hinit
      refine .made i h hclosed (by simpa using hfree) ?_ (fun j hj => ?_) rfl
        (by rw [goto_self]; rfl)
      · simp [RaceState.setSlot]
      · simp [RaceState.setSlot, hj]
  | realConnect i ok =>
    obtain ⟨h, hi⟩ := Option.ne_none_iff_exists'.mp (hinv.opened t i (by rw [hpc]; rfl))
    have hlive := hinv.isAllocated (inSection_of_opened (by rw [hpc]; rfl))
      (by simp [hpc, RacePc.closed]) hi
    have huses : LiveUses s [.use (connAt (s.pool.slots i).conn)] := by
      intro e he
      rw [List.mem_singleton.mp he, hi]
      exact ⟨h, hlive, rfl⟩
    dsimp only
    split
    · exact .kept _ huses (fun _ => rfl) rfl (by simp [RacePc.closed])
    · exact .kept _ huses (fun _ => rfl) rfl (by simp [RacePc.closed])
  | closeFailed i ok =>
    obtain ⟨h, hi⟩ := Option.ne_none_iff_exists'.mp (hinv.opened t i (by rw [hpc]; rfl))
    have hlive := hinv.isAllocated (inSection_of_opened (by rw [hpc]; rfl))
      (by simp [hpc, RacePc.closed]) hi
    have huses : LiveUses s [.use (connAt (s.pool.slots i).conn)] := by
      intro e he
      rw [List.mem_singleton.mp he, hi]
      exact ⟨h, hlive, rfl⟩
    exact objectStep_close hinv _ huses (by rw [hpc]; rfl) (by rw [hpc]; rfl) rfl
  | clearConn i ok =>
    refine .forgotten i (by rw [hpc]; rfl) ?_ (fun j hj => ?_) rfl (by rw [goto_self]; rfl)
    · simp [RaceState.setSlot]
    · simp [RaceState.setSlot, hj]
  | clearConnected i ok | setConnected i ok | clearInUse i ok =>
    refine .quiet (fun j => ?_) rfl (by rw [goto_self]; rfl)
    by_cases hj : j = i
    · subst hj
      simp [RaceState.setSlot]
    · simp [RaceState.setSlot, hj]
  | setReconnecting | setAttempt | setActiveCount | clearReconnecting | broadcast =>
    exact .quiet (fun _ => rfl) rfl (by rw [goto_self]; rfl)
  | testReconnecting | testBackoff | setBackoff | capBackoff =>
    dsimp only
    split
    · exact .quiet (fun _ => rfl) rfl (by rw [goto_self]; rfl)
    · exact .quiet (fun _ => rfl) rfl (by rw [goto_self]; rfl)
  | loop i ok =>
    dsimp only
    split
    · split
      · exact .quiet (fun _ => rfl) rfl (by rw [goto_self]; rfl)
      · exact .quiet (fun _ => rfl) rfl (by rw [goto_self]; rfl)
    · exact .quiet (fun _ => rfl) rfl (by rw [goto_self]; rfl)
  | idle | scanning | taken | holding | waiting =>
    exact .quiet (fun _ => rfl) rfl (by rw [hpc]; rfl)

/-- The thread that takes the step. -/
def raceThread : RaceOp T → T
  | .borrow t | .scan t | .readConn t | .wake t | .timeout t | .giveBack t | .advance t _ => t

theorem return_conn (pool : MysqlPool n) (h : Handle) (i : Fin n) :
    ((dbMysqlPoolReturn pool h).slots i).conn = (pool.slots i).conn := by
  unfold dbMysqlPoolReturn
  split
  · exact setInUse_conn pool _ i false
  · rfl

/-- A step from `pc` to `pc'`, neither of which closes an object. -/
theorem objectStep_goto {pool : MysqlPool n} {pc : RacePc n}
    (hconn : ∀ i, (pool.slots i).conn = (s.pool.slots i).conn) (hpc : pc.closed = none) :
    ObjectStep s ({ s with pool := pool }.goto t pc) t [] :=
  .quiet hconn rfl (by rw [goto_self]; exact hpc)

omit [DecidableEq T] in
theorem objectStep_refl : ObjectStep s s t [] :=
  .kept [] liveUses_nil (fun _ => rfl) rfl fun _ h => Or.inl h

theorem raceStep_objects (hinv : SlotInv s) (op : RaceOp T) :
    ObjectStep s (raceStep s op) (raceThread op) (raceCalls s op) := by
  cases op with
  | advance t answer => exact advance_objects hinv t answer
  | borrow t | wake t | timeout t =>
    show ObjectStep s (if _ then _ else _) t []
    split
    · exact objectStep_goto (fun _ => rfl) rfl
    · exact objectStep_refl
  | scan t =>
    show ObjectStep s (if _ then _ else _) t []
    split
    · split
      · next i _ => exact objectStep_goto (setInUse_conn s.pool i · true) rfl
      · split
        · exact objectStep_goto (fun _ => rfl) rfl
        · exact objectStep_goto (fun _ => rfl) rfl
    · exact objectStep_refl
  | readConn t =>
    unfold raceStep raceThread raceCalls
    dsimp only
    split
    · split
      · exact objectStep_goto (fun _ => rfl) rfl
      · exact objectStep_goto (fun _ => rfl) rfl
    · exact objectStep_refl
  | giveBack t =>
    unfold raceStep raceThread raceCalls
    dsimp only
    split
    · next h _ => exact objectStep_goto (return_conn s.pool h) rfl
    · exact objectStep_refl

theorem raceStep_others (s : RaceState T n) (op : RaceOp T) {u : T} (hu : u ≠ raceThread op) :
    (raceStep s op).threads u = s.threads u := by
  cases op with
  | advance t answer => exact advance_others s t answer hu
  | _ =>
    simp only [raceThread] at hu
    unfold raceStep
    dsimp only
    repeat' split
    all_goals first | rfl | exact goto_ne _ _ hu

/-! ## Section 4: The invariant -/

omit [DecidableEq T] in
/-- What a slot points to is open, unless the stepping thread has just closed it. -/
theorem Owned.step (hinv : SlotInv s) (howned : Owned s) {calls : List (Event MysqlObject)}
    (hstep : ObjectStep s r t calls) (hothers : ∀ u, u ≠ t → r.threads u = s.threads u) :
    Owned r := by
  -- only one thread has closed an object that a slot points to
  have hone (hin : (s.threads t).inSection = true) (hafter : (r.threads t).closed = none) :
      ∀ u i, (r.threads u).closed ≠ some i := by
    intro u i hu
    rcases pc_cases hothers u with heq | rfl
    · rw [heq] at hu
      obtain rfl := hinv.section_unique u t (inSection_of_closed hu) hin
      rw [← heq, hafter] at hu
      cases hu
    · rw [hafter] at hu
      cases hu
  cases hstep with
  | kept _ _ hconn halloc hclosed =>
    constructor
    case slot =>
      intro h hlive
      rw [halloc] at hlive
      obtain ⟨i, hi⟩ := howned.slot h hlive
      exact ⟨i, (hconn i).trans hi⟩
    case closed =>
      intro u i h hu hi
      rw [hconn] at hi
      rw [halloc]
      rcases pc_cases hothers u with heq | rfl
      · exact howned.closed u i h (heq ▸ hu) hi
      · rcases hclosed i hu with hbefore | hnone
        · exact howned.closed u i h hbefore hi
        · rw [hi] at hnone
          cases hnone
  | closed _ i h _ hin hi hlive hconn halloc hclosed =>
    constructor
    case slot =>
      intro h' hlive'
      by_cases hh : h' = h
      · rw [halloc, hh, Function.update_self] at hlive'
        cases hlive'
      · rw [halloc, Function.update_of_ne hh] at hlive'
        obtain ⟨j, hj⟩ := howned.slot h' hlive'
        exact ⟨j, (hconn j).trans hj⟩
    case closed =>
      intro u j h' hu hj
      obtain rfl : u = t := by
        rcases pc_cases hothers u with heq | heq
        · rw [heq] at hu
          exact hinv.section_unique u t (inSection_of_closed hu) hin
        · exact heq
      rw [hclosed] at hu
      obtain rfl := Option.some.inj hu
      rw [hconn, hi] at hj
      obtain rfl := Option.some.inj hj
      rw [halloc, Function.update_self]
  | forgotten i hpc hi hconn halloc hclosed =>
    constructor
    case slot =>
      intro h hlive
      rw [halloc] at hlive
      obtain ⟨j, hj⟩ := howned.slot h hlive
      -- the object that is forgotten is closed
      have hji : j ≠ i := by
        rintro rfl
        rw [howned.closed t j h hpc hj] at hlive
        cases hlive
      exact ⟨j, (hconn j hji).trans hj⟩
    case closed =>
      intro u j h hu
      exact absurd hu (hone (inSection_of_closed hpc) hclosed u j)
  | made i h hpc hnew hi hconn halloc hclosed =>
    constructor
    case slot =>
      intro h' hlive
      by_cases hh : h' = h
      · rw [hh]
        exact ⟨i, hi⟩
      · rw [halloc, Function.update_of_ne hh] at hlive
        obtain ⟨j, hj⟩ := howned.slot h' hlive
        have hji : j ≠ i := by
          rintro rfl
          rw [howned.closed t j h' hpc hj] at hlive
          cases hlive
        exact ⟨j, (hconn j hji).trans hj⟩
    case closed =>
      intro u j h' hu
      exact absurd hu (hone (inSection_of_closed hpc) hclosed u j)

variable {m m' : MysqlState T n}

omit [DecidableEq T] in
/-- Uses of live connections keep the account. -/
theorem accounts_uses {calls log : List (Event MysqlObject)} (huses : LiveUses m.race calls)
    (h : Accounts log m.Held) : Accounts (log ++ calls) m.Held := by
  induction calls generalizing log with
  | nil => simpa using h
  | cons e calls ih =>
    obtain ⟨handle, hlive, rfl⟩ := huses e List.mem_cons_self
    rw [List.append_cons]
    exact ih (fun e he => huses e (List.mem_cons_of_mem _ he)) (h.use hlive)

omit [DecidableEq T] in
/-- **Step lemma** for the account. -/
theorem accounts_step {calls : List (Event MysqlObject)} (h : Accounts m.log m.Held)
    (hstep : ObjectStep m.race m'.race t calls) (hresults : m'.results = m.results) :
    Accounts (m.log ++ calls) m'.Held := by
  cases hstep with
  | kept _ huses _ halloc _ =>
    refine (accounts_uses huses h).congr fun o => ?_
    cases o <;> simp [MysqlState.Held, halloc, hresults]
  | closed calls i handle huses _ _ hlive _ halloc _ =>
    rw [← List.append_assoc]
    refine (accounts_uses huses h).release hlive fun o => ?_
    cases o <;> simp [MysqlState.Held, halloc, hresults, Function.update_apply]
  | forgotten _ _ _ _ halloc _ =>
    rw [List.append_nil]
    refine h.congr fun o => ?_
    cases o <;> simp [MysqlState.Held, halloc, hresults]
  | made i handle _ hnew _ _ halloc _ =>
    refine h.acquire (by simp [MysqlState.Held, hnew]) fun o => ?_
    cases o <;> simp [MysqlState.Held, halloc, hresults, Function.update_apply]

theorem ledgerInv_race (hinv : LedgerInv m) (op : RaceOp T) (horder : OneReconnects m.race op) :
    LedgerInv { m with race := raceStep m.race op, log := m.log ++ raceCalls m.race op } where
  slots := slotInv_step hinv.slots op horder
  owned := hinv.owned.step hinv.slots (raceStep_objects hinv.slots op)
    fun _ hu => raceStep_others m.race op hu
  results := hinv.results
  accounts := accounts_step hinv.accounts (raceStep_objects hinv.slots op) rfl

omit [DecidableEq T] in
/-- A call on an object that is held. -/
theorem LedgerInv.use (hinv : LedgerInv m) {o : MysqlObject} (ho : m.Held o) :
    LedgerInv (m.call (.use o)) where
  slots := hinv.slots
  owned := hinv.owned
  results := hinv.results
  accounts := (hinv.accounts.use ho).congr fun o => by cases o <;> rfl

omit [DecidableEq T] in
/-- What a thread holds is live: the thread that closes connections works on
    slots that are not connected. -/
theorem LedgerInv.holding (hinv : LedgerInv m) {h : Handle} (ht : m.race.threads t = .holding h) :
    m.Held (.conn h) := by
  obtain ⟨i, hi⟩ := hinv.slots.holding t h ht
  rcases hinv.slots.allocated i h hi with hlive | ⟨u, hu⟩
  · exact hlive
  · have hon := hinv.slots.held t i (Or.inr ⟨h, ht, hi⟩)
    have hwork : (m.race.threads u).work = some i := by
      cases hpc : m.race.threads u <;> rw [hpc] at hu <;> first | exact hu | cases hu
    rw [hinv.slots.work u i hwork] at hon
    cases hon

omit [DecidableEq T] in
theorem mem_storeResult {result : Option Nat} {a : Nat} (haccounts : Accounts m.log m.Held)
    (h : m.storeResult result = some a) : ¬ m.Held (.result a) := by
  obtain ⟨held, hheld, hiff⟩ := haccounts
  obtain ⟨-, hfree⟩ := Option.filter_eq_some_iff.mp h
  rw [show Ownership.run ∅ m.log = some held from hheld] at hfree
  rw [← hiff]
  simpa using hfree

/-- A thread gets a result set. -/
theorem exists_update_some {f : T → Option Nat} (hnone : f t = none) (a b : Nat) :
    (∃ u, Function.update f t (some a) u = some b) ↔ b = a ∨ ∃ u, f u = some b := by
  constructor
  · rintro ⟨u, hu⟩
    by_cases hut : u = t
    · rw [hut, Function.update_self] at hu
      exact Or.inl (Option.some.inj hu).symm
    · rw [Function.update_of_ne hut] at hu
      exact Or.inr ⟨u, hu⟩
  · rintro (rfl | ⟨u, hu⟩)
    · exact ⟨t, Function.update_self _ _ _⟩
    · have hut : u ≠ t := by
        rintro rfl
        rw [hnone] at hu
        cases hu
      exact ⟨u, by rw [Function.update_of_ne hut, hu]⟩

/-- A thread gives its result set up, which nobody else has. -/
theorem exists_update_none {f : T → Option Nat} {a : Nat} (ha : f t = some a)
    (hinj : ∀ u v r, f u = some r → f v = some r → u = v) (b : Nat) :
    (∃ u, Function.update f t none u = some b) ↔ b ≠ a ∧ ∃ u, f u = some b := by
  constructor
  · rintro ⟨u, hu⟩
    have hut : u ≠ t := by
      rintro rfl
      rw [Function.update_self] at hu
      cases hu
    rw [Function.update_of_ne hut] at hu
    refine ⟨?_, u, hu⟩
    rintro rfl
    exact hut (hinj u t b hu ha)
  · rintro ⟨hne, u, hu⟩
    have hut : u ≠ t := by
      rintro rfl
      exact hne (Option.some.inj (hu.symm.trans ha))
    exact ⟨u, by rw [Function.update_of_ne hut, hu]⟩

theorem ledgerInv_statement (hinv : LedgerInv m) {h : Handle}
    (ht : m.race.threads t = .holding h) (hnone : m.results t = none) (answer : StatementAnswer) :
    LedgerInv (m.statement t h answer) := by
  have htwice : LedgerInv ((m.call (.use (.conn h))).call (.use (.conn h))) :=
    (hinv.use (hinv.holding ht)).use (LedgerInv.holding (hinv.use (hinv.holding ht)) ht)
  cases answer with
  | failed | affected => exact htwice
  | stored result =>
    unfold MysqlState.statement
    generalize hm : (m.call (.use (.conn h))).call (.use (.conn h)) = k at htwice
    have hkt : k.race.threads t = .holding h := by rw [← hm]; exact ht
    have hknone : k.results t = none := by rw [← hm]; exact hnone
    dsimp only
    split
    · exact htwice.use (htwice.holding hkt)
    · next a hstore =>
      have hfresh := mem_storeResult htwice.accounts hstore
      refine ⟨htwice.slots, htwice.owned, ?_, ?_⟩
      · intro u v b hu hv
        simp only [Function.update_apply] at hu hv
        split at hu <;> split at hv
        · next hu' hv' => rw [hu', hv']
        · cases hu
          exact absurd ⟨v, hv⟩ hfresh
        · cases hv
          exact absurd ⟨u, hu⟩ hfresh
        · exact htwice.results u v b hu hv
      · refine htwice.accounts.acquire hfresh fun o => ?_
        cases o with
        | conn _ | null => simp [MysqlState.Held, MysqlState.call]
        | result b => simpa [MysqlState.Held, MysqlState.call] using exists_update_some hknone a b

theorem ledgerInv_free (hinv : LedgerInv m) {a : Nat} (ha : m.results t = some a) :
    LedgerInv { m.call (.release (.result a)) with
      results := Function.update m.results t none } := by
  refine ⟨hinv.slots, hinv.owned, ?_, ?_⟩
  · intro u v b hu hv
    simp only [Function.update_apply] at hu hv
    split at hu <;> split at hv
    · next hu' hv' => rw [hu', hv']
    · cases hu
    · cases hv
    · exact hinv.results u v b hu hv
  · refine Accounts.release hinv.accounts ⟨t, ha⟩ fun o => ?_
    cases o with
    | conn _ | null => simp [MysqlState.Held, MysqlState.call]
    | result b =>
      simpa [MysqlState.Held, MysqlState.call] using exists_update_none ha hinv.results b

/-- One thread reconnects at a time. -/
def MysqlOrderly (m : MysqlState T n) : MysqlOp T n → Prop
  | .race op => OneReconnects m.race op
  | _ => True

instance [Fintype T] (m : MysqlState T n) : ∀ op, Decidable (MysqlOrderly m op)
  | .race op => inferInstanceAs (Decidable (OneReconnects m.race op))
  | .statement .. | .readResult _ | .freeResult _ => inferInstanceAs (Decidable True)

/-- **Step lemma.** -/
theorem ledgerInv_step (hinv : LedgerInv m) (op : MysqlOp T n) (horder : MysqlOrderly m op) :
    LedgerInv (mysqlStep m op) := by
  unfold mysqlStep
  split
  · next t =>
    split
    · have hborrow := ledgerInv_race hinv (.borrow t) trivial
      simpa [raceCalls] using hborrow
    · exact hinv
  · next op _ => exact ledgerInv_race hinv op horder
  · split
    · next ht hnone => exact ledgerInv_statement hinv ht hnone _
    · exact hinv
  · split
    · next ha => exact LedgerInv.use hinv ⟨_, ha⟩
    · exact hinv
  · split
    · next ha => exact ledgerInv_free hinv ha
    · exact hinv

/-! ## Section 5: The start and the end -/

/-- The pool while `db_mysql_pool_connect_all` works on it. -/
structure StartInv (m : MysqlState T n) : Prop where
  partly : PartlyConnected m.race
  slot : ∀ h, m.race.allocated h = true → ∃ i, (m.race.pool.slots i).conn = some h
  results : ∀ t, m.results t = none
  accounts : Accounts m.log m.Held

omit [DecidableEq T] in
theorem StartInv.ledgerInv (h : StartInv m) : LedgerInv m where
  slots := slotInv_init h.partly
  owned := by
    refine ⟨h.slot, fun t i handle ht => ?_⟩
    rw [h.partly.idle t] at ht
    cases ht
  results := by
    intro t u r ht
    rw [h.results t] at ht
    cases ht
  accounts := h.accounts

theorem startInv_new (T : Type*) [DecidableEq T] (n : Nat) : StartInv (mysqlNew T n) where
  partly := {
    idle := fun _ => rfl
    conn_iff := fun _ => rfl
    allocated := nofun
    distinct := nofun
    free := fun _ => rfl
    notReconnecting := rfl }
  slot := nofun
  results := fun _ => rfl
  accounts := accounts_nil fun o => by cases o <;> simp [MysqlState.Held, mysqlNew]

omit [DecidableEq T] in
/-- A slot without a connection is written. -/
theorem StartInv.assign (h : StartInv m) {i : Fin n} (hnone : (m.race.pool.slots i).conn = none)
    {slot : Slot} {allocated : Handle → Bool} {log : List (Event MysqlObject)}
    (hiff : slot.conn.isSome = slot.connected) (hfree : slot.inUse = false)
    (hnew : ∀ handle, slot.conn = some handle → m.race.allocated handle = false)
    (halloc : ∀ handle, allocated handle = true ↔
      slot.conn = some handle ∨ m.race.allocated handle = true)
    (haccounts : Accounts log (MysqlState.Held ⟨{ m.race with
      pool := m.race.pool.setSlot i slot, allocated := allocated }, m.results, log⟩)) :
    StartInv ⟨{ m.race with pool := m.race.pool.setSlot i slot, allocated := allocated },
      m.results, log⟩ := by
  have hslot (j : Fin n) : (m.race.pool.setSlot i slot).slots j =
      if j = i then slot else m.race.pool.slots j := by
    by_cases hj : j = i <;> simp [hj]
  -- the connection of another slot was allocated before
  have hother {j : Fin n} {handle : Handle} (hj : (m.race.pool.slots j).conn = some handle) :
      slot.conn ≠ some handle := by
    intro hi
    have hlive := h.partly.allocated j handle hj
    rw [hnew handle hi] at hlive
    cases hlive
  refine ⟨⟨h.partly.idle, ?_, ?_, ?_, ?_, h.partly.notReconnecting⟩, ?_, h.results, haccounts⟩
  · intro j
    show ((m.race.pool.setSlot i slot).slots j).conn.isSome = _
    rw [hslot]
    split
    · exact hiff
    · exact h.partly.conn_iff j
  · intro j handle hj
    rw [hslot] at hj
    split at hj
    · exact (halloc handle).mpr (Or.inl hj)
    · exact (halloc handle).mpr (Or.inr (h.partly.allocated j handle hj))
  · intro j k handle hj hk
    rw [hslot] at hj hk
    split at hj <;> split at hk
    · next hji hki => rw [hji, hki]
    · exact absurd hj (hother hk)
    · exact absurd hk (hother hj)
    · exact h.partly.distinct j k handle hj hk
  · intro j
    show ((m.race.pool.setSlot i slot).slots j).inUse = false
    rw [hslot]
    split
    · exact hfree
    · exact h.partly.free j
  · intro handle hlive
    rcases (halloc handle).mp hlive with hi | hold
    · exact ⟨i, by rw [hslot, if_pos rfl, hi]⟩
    · obtain ⟨j, hj⟩ := h.slot handle hold
      have hji : j ≠ i := by
        rintro rfl
        rw [hnone] at hj
        cases hj
      exact ⟨j, by rw [hslot, if_neg hji, hj]⟩

omit [DecidableEq T] in
/-- `slot_connect` on a slot that is not connected. -/
theorem startInv_connect (h : StartInv m) {i : Fin n}
    (hoff : (m.race.pool.slots i).connected = false) (answer : StepAnswer) :
    StartInv (slotConnectCalls m i answer).2 ∧ ∀ j, j ≠ i →
      (slotConnectCalls m i answer).2.race.pool.slots j = m.race.pool.slots j := by
  have hnone : (m.race.pool.slots i).conn = none := by
    have hiff := h.partly.conn_iff i
    rw [hoff] at hiff
    simpa using hiff
  have hfree := h.partly.free i
  unfold slotConnectCalls
  rw [hnone]
  simp only [closeCalls, Option.toList_none, List.map_nil, List.append_nil, RaceState.close]
  cases hinit : m.race.mysqlInit answer.handle with
  | none =>
    refine ⟨?_, fun j hj => by simp [slotConnect, hj]⟩
    exact h.assign hnone (by simp [hoff]) hfree (by simp) (by simp) h.accounts
  | some handle =>
    obtain ⟨-, hnew⟩ := Option.filter_eq_some_iff.mp hinit
    have hnew : m.race.allocated handle = false := by simpa using hnew
    have hfresh : ¬ m.Held (.conn handle) := by simp [MysqlState.Held, hnew]
    dsimp only
    split
    · refine ⟨?_, fun j hj => by simp [slotConnect, hj]⟩
      refine h.assign hnone rfl rfl ?_ ?_ ?_
      · rintro _ ⟨⟩
        exact hnew
      · intro handle'
        by_cases hh : handle' = handle
        · simp [hh]
        · simp [hh, Ne.symm hh]
      · refine (h.accounts.acquire hfresh fun o => ?_).use (by simp [MysqlState.Held])
        cases o <;> simp [MysqlState.Held, MysqlState.call, Function.update_apply]
    · refine ⟨?_, fun j hj => by simp [slotConnect, hj]⟩
      -- the object is closed again
      have hmade : Accounts (m.log ++ [.acquire (.conn handle)])
          fun o => o = .conn handle ∨ m.Held o := h.accounts.acquire hfresh fun _ => Iff.rfl
      refine h.assign hnone rfl hfree (by simp) (by simp) ?_
      refine ((hmade.use (Or.inl rfl)).use (Or.inl rfl)).release (Or.inl rfl) fun o => ?_
      by_cases ho : o = .conn handle
      · rw [ho]
        simp [MysqlState.Held, hnew]
      · cases o <;> simp_all [MysqlState.Held, MysqlState.call]

omit [DecidableEq T] in
theorem startInv_foldl (answers : Fin n → StepAnswer) {slots : List (Fin n)} (hnd : slots.Nodup)
    (acc : Nat × MysqlState T n) (h : StartInv acc.2)
    (hoff : ∀ i ∈ slots, (acc.2.race.pool.slots i).connected = false) :
    StartInv (slots.foldl (connectSlotCalls answers) acc).2 := by
  induction slots generalizing acc with
  | nil => exact h
  | cons i slots ih =>
    rw [List.nodup_cons] at hnd
    obtain ⟨hnext, hothers⟩ := startInv_connect h (hoff i List.mem_cons_self) (answers i)
    have hsnd : (connectSlotCalls answers acc i).2 = (slotConnectCalls acc.2 i (answers i)).2 := by
      unfold connectSlotCalls
      split
      · next heq => rw [heq]
      · next heq => rw [heq]
    rw [List.foldl_cons]
    refine ih hnd.2 _ (hsnd ▸ hnext) fun j hj => ?_
    have hji : j ≠ i := fun heq => hnd.1 (heq ▸ hj)
    rw [hsnd, hothers j hji]
    exact hoff j (List.mem_cons_of_mem _ hj)

/-- How `mysql_init` and `mysql_real_connect` end. -/
def connectAnswer (s : RaceState T n) (i : Fin n) (answer : StepAnswer) : ConnectAnswer :=
  match (s.close (s.pool.slots i).conn).mysqlInit answer.handle with
  | none => .initFailed
  | some h => if answer.connects then .established h else .connectFailed

omit [DecidableEq T] in
/-- To the pool the calls do what `connectSlot` does. -/
theorem connectSlotCalls_pool {answers : Fin n → StepAnswer} {made : Fin n → ConnectAnswer}
    (acc : Nat × MysqlState T n) (i : Fin n)
    (hmade : made i = connectAnswer acc.2.race i (answers i)) :
    ((connectSlotCalls answers acc i).1, (connectSlotCalls answers acc i).2.race.pool) =
      connectSlot made (acc.1, acc.2.race.pool) i := by
  unfold connectSlotCalls connectSlot slotConnectCalls
  rw [hmade]
  unfold connectAnswer
  dsimp only
  cases (acc.2.race.close (acc.2.race.pool.slots i).conn).mysqlInit (answers i).handle with
  | none => simp [slotConnect, close_pool]
  | some h =>
    by_cases hconnects : (answers i).connects = true
    · simp [slotConnect, close_pool, hconnects]
    · simp [slotConnect, close_pool, hconnects]

omit [DecidableEq T] in
theorem foldl_connectSlotCalls (answers : Fin n → StepAnswer) {slots : List (Fin n)}
    (hnd : slots.Nodup) (acc : Nat × MysqlState T n) : ∃ made : Fin n → ConnectAnswer,
      ((slots.foldl (connectSlotCalls answers) acc).1,
        (slots.foldl (connectSlotCalls answers) acc).2.race.pool) =
      slots.foldl (connectSlot made) (acc.1, acc.2.race.pool) := by
  induction slots generalizing acc with
  | nil => exact ⟨fun _ => .initFailed, rfl⟩
  | cons i slots ih =>
    rw [List.nodup_cons] at hnd
    obtain ⟨made, hmade⟩ := ih hnd.2 (connectSlotCalls answers acc i)
    refine ⟨Function.update made i (connectAnswer acc.2.race i (answers i)), ?_⟩
    rw [List.foldl_cons, List.foldl_cons, hmade, connectSlotCalls_pool acc i
      (Function.update_self i _ made)]
    -- the other slots have the answers they had
    refine List.foldl_ext _ _ _ fun acc j hj => ?_
    have hji : j ≠ i := fun heq => hnd.1 (heq ▸ hj)
    unfold connectSlot
    rw [Function.update_of_ne hji]

/-- The pool is the one of `dbMysqlPoolConnectAll`. -/
theorem mysqlStart_pool (T : Type*) [DecidableEq T] (answers : Fin n → StepAnswer) :
    ∃ made, (mysqlStart T answers).race.pool =
      dbMysqlPoolConnectAll (dbMysqlPoolCreate n) made := by
  obtain ⟨made, hmade⟩ := foldl_connectSlotCalls answers (List.nodup_finRange n) (0, mysqlNew T n)
  refine ⟨made, ?_⟩
  unfold dbMysqlPoolConnectAll
  rw [show (0, dbMysqlPoolCreate n) = ((0, mysqlNew T n).1, (mysqlNew T n).race.pool) from rfl,
    ← hmade]
  rfl

theorem ledgerInv_start (T : Type*) [DecidableEq T] (answers : Fin n → StepAnswer) :
    LedgerInv (mysqlStart T answers) := by
  have h := startInv_foldl answers (List.nodup_finRange n) (0, mysqlNew T n) (startInv_new T n)
    fun _ _ => rfl
  refine StartInv.ledgerInv ⟨?_, h.slot, h.results, h.accounts.congr fun o => ?_⟩
  · exact ⟨h.partly.idle, h.partly.conn_iff, h.partly.allocated, h.partly.distinct, h.partly.free,
      h.partly.notReconnecting⟩
  · cases o <;> rfl

/-- While `db_mysql_pool_destroy` closes the slots, every connection is still
    in one of them. -/
structure EndInv (m : MysqlState T n) : Prop where
  live : ∀ i h, (m.race.pool.slots i).conn = some h → m.race.allocated h = true
  slot : ∀ h, m.race.allocated h = true → ∃ i, (m.race.pool.slots i).conn = some h
  distinct : ∀ i j h, (m.race.pool.slots i).conn = some h → (m.race.pool.slots j).conn = some h →
    i = j
  results : ∀ t, m.results t = none
  accounts : Accounts m.log m.Held

omit [DecidableEq T] in
theorem endInv_close (h : EndInv m) (i : Fin n) : EndInv (closeSlot m i) ∧
    ∀ j, ((closeSlot m i).race.pool.slots j).conn =
      if j = i then none else (m.race.pool.slots j).conn := by
  have hconn (j : Fin n) : ((closeSlot m i).race.pool.slots j).conn =
      if j = i then none else (m.race.pool.slots j).conn := by
    by_cases hj : j = i
    · subst hj
      simp [closeSlot, RaceState.setSlot]
    · simp [closeSlot, RaceState.setSlot, close_pool, hj]
  have halloc (handle : Handle) : (closeSlot m i).race.allocated handle = true ↔
      m.race.allocated handle = true ∧ (m.race.pool.slots i).conn ≠ some handle := by
    cases hi : (m.race.pool.slots i).conn with
    | none => simp [closeSlot, RaceState.setSlot, RaceState.close, hi]
    | some a =>
      by_cases ha : handle = a
      · simp [closeSlot, RaceState.setSlot, RaceState.close, hi, ha]
      · simp [closeSlot, RaceState.setSlot, RaceState.close, hi, ha, Ne.symm ha]
  refine ⟨⟨?_, ?_, ?_, h.results, ?_⟩, hconn⟩
  · intro j handle hj
    rw [hconn] at hj
    split at hj
    · cases hj
    · next hji =>
      exact (halloc handle).mpr ⟨h.live j handle hj, fun hi => hji (h.distinct j i handle hj hi)⟩
  · intro handle hlive
    obtain ⟨hlive, hother⟩ := (halloc handle).mp hlive
    obtain ⟨j, hj⟩ := h.slot handle hlive
    have hji : j ≠ i := by
      rintro rfl
      exact hother hj
    exact ⟨j, by rw [hconn, if_neg hji, hj]⟩
  · intro j k handle hj hk
    rw [hconn] at hj hk
    split at hj
    · cases hj
    · split at hk
      · cases hk
      · exact h.distinct j k handle hj hk
  · cases hi : (m.race.pool.slots i).conn with
    | none =>
      have hlog : (closeSlot m i).log = m.log := by simp [closeSlot, closeCalls, hi]
      rw [hlog]
      refine h.accounts.congr fun o => ?_
      cases o with
      | conn handle => simp [MysqlState.Held, halloc, hi]
      | _ => rfl
    | some a =>
      have hlog : (closeSlot m i).log = m.log ++ [.release (.conn a)] := by
        simp [closeSlot, closeCalls, hi]
      rw [hlog]
      have hheld : m.Held (.conn a) := h.live i a hi
      refine h.accounts.release hheld fun o => ?_
      cases o with
      | conn handle =>
        simp only [MysqlState.Held, halloc, hi, ne_eq, Option.some.injEq, MysqlObject.conn.injEq]
        rw [and_comm, eq_comm]
      | result _ => simp [MysqlState.Held, closeSlot]
      | null => simp [MysqlState.Held]

omit [DecidableEq T] in
theorem endInv_foldl (h : EndInv m) (slots : List (Fin n)) : EndInv (slots.foldl closeSlot m) ∧
    ∀ j, ((slots.foldl closeSlot m).race.pool.slots j).conn =
      if j ∈ slots then none else (m.race.pool.slots j).conn := by
  induction slots generalizing m with
  | nil => exact ⟨h, fun j => by simp⟩
  | cons i slots ih =>
    obtain ⟨hnext, hconn⟩ := endInv_close h i
    obtain ⟨hend, hrest⟩ := ih hnext
    refine ⟨hend, fun j => ?_⟩
    rw [List.foldl_cons, hrest, hconn]
    by_cases hj : j = i <;> simp [hj]

omit [DecidableEq T] in
/-- Closing the slots releases all that is held. -/
theorem endInv_destroy (h : EndInv m) : Ownership.Holds (dbMysqlPoolDestroy m).log ∅ := by
  obtain ⟨hend, hconn⟩ := endInv_foldl h (List.finRange n)
  refine hend.accounts.none fun o ho => ?_
  cases o with
  | conn handle =>
    obtain ⟨i, hi⟩ := hend.slot handle ho
    simp [hconn] at hi
  | result a =>
    obtain ⟨t, ht⟩ := ho
    rw [hend.results t] at ht
    cases ht
  | null => exact ho

/-! ## Section 6: Runs -/

omit [DecidableEq T] in
theorem LedgerInv.endInv (hinv : LedgerInv m)
    (hidle : ∀ t, m.race.threads t = .idle ∧ m.results t = none) : EndInv m where
  live := by
    intro i h hi
    rcases hinv.slots.allocated i h hi with hlive | ⟨t, ht⟩
    · exact hlive
    · rw [(hidle t).1] at ht
      cases ht
  slot := hinv.owned.slot
  distinct := hinv.slots.distinct
  results := fun t => (hidle t).2
  accounts := hinv.accounts

/-- **The objects of `libmysqlclient`**: in every run in which one thread
    reconnects at a time, no connection and no result set is used or released
    unless it is held, every open connection is in a slot, and once all
    threads are idle `db_mysql_pool_destroy` leaves nothing behind. -/
theorem mysql_ledger {answers : Fin n → StepAnswer} {ops : List (MysqlOp T n)}
    (hrun : Run (restrict (ofFun mysqlStep) MysqlOrderly) (mysqlStart T answers) ops m) :
    Accounts m.log m.Held ∧
      (∀ h, m.race.allocated h = true → ∃ i, (m.race.pool.slots i).conn = some h) ∧
      ((∀ t, m.race.threads t = .idle ∧ m.results t = none) →
        Ownership.Holds (dbMysqlPoolDestroy m).log ∅) := by
  have hinv : LedgerInv m := by
    apply hrun.invariant (ledgerInv_start T answers)
    rintro k op _ hinv ⟨horder, rfl⟩
    exact ledgerInv_step hinv op horder
  exact ⟨hinv.accounts, hinv.owned.slot, fun hidle => endInv_destroy (hinv.endInv hidle)⟩

/-- Three threads use the connections they have borrowed and return them. -/
def useRun (first second third : T) : List (MysqlOp T n) :=
  [.statement first (.stored (some 3)), .statement second .affected, .statement third .failed,
    .race (.giveBack first), .readResult first, .statement second (.stored (some 4)),
    .freeResult first, .race (.giveBack second), .freeResult second, .race (.giveBack third)]

/-- Of two slots the first one is connected at the start. -/
def oneConnects : Fin 2 → StepAnswer := fun i => ⟨0, if i.val = 0 then some 5 else none, true⟩

/-- Two threads borrow one connection and a third one the other; every
    connection and every result is released once. -/
theorem mysql_ledger_shared :
    ∃ m, Run (restrict (ofFun mysqlStep) MysqlOrderly) (mysqlStart (Fin 3) oneConnects)
      (windowRun.map MysqlOp.race ++ useRun 0 1 2) m ∧
      Event.acquire (.result 3) ∈ m.log ∧ Ownership.Holds (dbMysqlPoolDestroy m).log ∅ := by
  have hrun : Run (restrict (ofFun mysqlStep) MysqlOrderly) (mysqlStart (Fin 3) oneConnects)
      (windowRun.map MysqlOp.race ++ useRun 0 1 2)
      ((windowRun.map MysqlOp.race ++ useRun 0 1 2).foldl mysqlStep
        (mysqlStart (Fin 3) oneConnects)) :=
    Run.of_meets (by decide)
  exact ⟨_, hrun, by decide, (mysql_ledger hrun).2.2 (by decide)⟩

/-- Two threads find no connection and pass both tests before either of them
    sets `reconnecting`. -/
def twoReconnect : List (MysqlOp Bool 1) :=
  let step (t : Bool) := MysqlOp.race (.advance t ⟨1, some 7, true⟩)
  [.race (.borrow false), .race (.scan false), .race (.borrow true), .race (.scan true),
    step false, step false, step true, step true,
    -- up to `mysql_init` in the first thread, up to `mysql_close` in the second one
    step false, step false, step false, step false, step false,
    step true, step true, step true, step true,
    -- `mysql_real_connect`
    step false]

/-- Without the rule a connection is closed while another thread opens it. -/
theorem closed_while_connecting :
    ∃ m : MysqlState Bool 1,
      Run (ofFun mysqlStep) (mysqlStart Bool fun _ => ⟨0, none, false⟩) twoReconnect m ∧
        ¬ ∃ held, Ownership.Holds m.log held := by
  refine ⟨_, run_ofFun_iff.mpr rfl, ?_⟩
  rintro ⟨held, hheld⟩
  have hbad : Ownership.run ∅ (twoReconnect.foldl mysqlStep
      (mysqlStart Bool fun _ => ⟨0, none, false⟩)).log = none := by decide
  rw [Ownership.Holds, hbad] at hheld
  cases hheld

end DbMysql
