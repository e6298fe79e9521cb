import CallCenter.EventLoop.Frame
import Mathlib.Algebra.Group.Int.Defs

/-! # How Long a Connection Can Be Idle

    `el_run` checks for idle connections every `IDLE_CHECK_INTERVAL_SEC`
    seconds at most, by its own reading of the clock, and the sweep reads the
    clock again.  `idle_bound`: at the end of an iteration no connection has
    been idle for `idle_timeout_sec` and a check interval, and none was closed
    for idleness before `idle_timeout_sec`.

    The bound holds under any callbacks, listening sockets apart, and does
    not depend on how the kernel answers.  It rests on the clock: the readings
    do not decrease, and `(int)(now - last_active)` does not overflow. -/

namespace EpollServer

open Descriptors Transition

variable {n : Nat}

/-! ## Section 1: The clock -/

/-- The times that `accept` and its callbacks read. -/
def AcceptAnswer.readings : AcceptAnswer → List Int
  | .accepted _ _ now _ => [now]
  | _ => []

/-- The readings of the clock in a step, in order. -/
def TableOp.readings : TableOp n → List Int
  | .add _ _ _ now _ => [now]
  | .loop (.event _ _ s) => s.now :: s.accepts.flatMap AcceptAnswer.readings
  | .loop (.idleCheck now sweepNow _) => [now, sweepNow]
  | _ => []

/-- The event loop at a time. -/
structure Clocked (n : Nat) where
  el : EventLoop n
  clock : Int

/-- A step whose readings lie between two times, the second one less than 68
    years after the last idle check. -/
def clockedStep (s : Clocked n) (op : TableOp n) (t : Clocked n) : Prop :=
  t.el = tableStep s.el op ∧ (s.clock :: op.readings ++ [t.clock]).Pairwise (· ≤ ·) ∧
    t.clock + s.el.config.idleTimeoutSec < s.el.lastIdleCheck + 2 ^ 31

/-! ## Section 2: What a step makes of a slot -/

/-- Between the times `lo` and `hi` a slot is freed, used or left alone. -/
def Aged (lo hi : Int) (c c' : Connection) : Prop :=
  c'.type = .free ∨ (c'.state = .active ∧ lo ≤ c'.lastActive ∧ c'.lastActive ≤ hi) ∨
    (c'.type = c.type ∧ c'.state = c.state ∧ c'.lastActive = c.lastActive)

variable {lo hi : Int} {c c' c'' : Connection}

theorem Aged.refl (c : Connection) : Aged lo hi c c := Or.inr (Or.inr ⟨rfl, rfl, rfl⟩)

theorem Aged.trans (h : Aged lo hi c c') (h' : Aged lo hi c' c'') : Aged lo hi c c'' := by
  rcases h' with hfree | hused | ⟨htype, hstate, htime⟩
  · exact Or.inl hfree
  · exact Or.inr (Or.inl hused)
  · unfold Aged at h ⊢
    rw [htype, hstate, htime]
    exact h

/-- Every slot has aged, and the idle check was not made. -/
structure Ages (lo hi : Int) (el el' : EventLoop n) : Prop where
  slots : ∀ i, Aged lo hi (el.connections i) (el'.connections i)
  config : el'.config = el.config
  lastIdleCheck : el'.lastIdleCheck = el.lastIdleCheck

variable {el el' el'' : EventLoop n} {i : Fin n}

theorem Ages.refl (el : EventLoop n) : Ages lo hi el el := ⟨fun _ => Aged.refl _, rfl, rfl⟩

theorem Ages.trans (h : Ages lo hi el el') (h' : Ages lo hi el' el'') : Ages lo hi el el'' where
  slots := fun i => (h.slots i).trans (h'.slots i)
  config := h'.config.trans h.config
  lastIdleCheck := h'.lastIdleCheck.trans h.lastIdleCheck

/-- One slot and the kernel change. -/
theorem ages_setConn (el : EventLoop n) (i : Fin n) {c : Connection} {kernel : Kernel}
    (hc : Aged lo hi (el.connections i) c) :
    Ages lo hi el { el.setConn i c with kernel := kernel } := by
  refine ⟨fun j => ?_, rfl, rfl⟩
  by_cases hj : j = i
  · subst hj
    simpa using hc
  · simpa [hj] using Aged.refl (el.connections j)

theorem ages_kernel (el : EventLoop n) (kernel : Kernel) :
    Ages lo hi el { el with kernel := kernel } := ⟨fun _ => Aged.refl _, rfl, rfl⟩

theorem ages_elRemoveConnection (el : EventLoop n) (i : Fin n) (delOk : Bool) :
    Ages lo hi el (elRemoveConnection el i delOk) := by
  unfold elRemoveConnection
  dsimp only
  split
  · exact Ages.refl el
  · refine ⟨fun j => ?_, rfl, rfl⟩
    by_cases hj : j = i
    · subst hj
      exact Or.inl (by simp [EventLoop.setConn, freeConnection])
    · simpa [EventLoop.setConn, hj] using Aged.refl (el.connections j)

theorem ages_callOnClose (el : EventLoop n) (i : Fin n) (delOk : Bool) :
    Ages lo hi el (callOnClose el i delOk) := by
  unfold callOnClose
  split
  · exact ages_elRemoveConnection el i delOk
  · exact Ages.refl el

/-- Whatever `on_close` does, the slot is free in the end. -/
theorem ages_defaultOnError (el : EventLoop n) (i : Fin n) (delOk : Bool) :
    Ages lo hi el (defaultOnError el i delOk) := by
  have hlocal := local_defaultOnError el i delOk
  have hages : Ages lo hi (el.setConn i { el.connections i with state := .error })
      (defaultOnError el i delOk) :=
    (ages_callOnClose _ i delOk).trans (ages_elRemoveConnection _ i delOk)
  refine ⟨fun j => ?_, hages.config, hages.lastIdleCheck⟩
  by_cases hj : j = i
  · subst hj
    exact Or.inl (by rw [defaultOnError, type_elRemoveConnection, if_pos rfl])
  · rw [hlocal.others j hj]
    exact Aged.refl _

theorem ages_callOnError (el : EventLoop n) (i : Fin n) (delOk : Bool) :
    Ages lo hi el (callOnError el i delOk) := by
  unfold callOnError
  split
  · exact ages_defaultOnError el i delOk
  · exact Ages.refl el

theorem ages_defaultOnWrite (el : EventLoop n) (i : Fin n) (s : EventScript) :
    Ages lo hi el (defaultOnWrite el i s) := by
  simp only [defaultOnWrite]
  split
  · exact ages_setConn el i (Or.inr (Or.inr ⟨rfl, rfl, rfl⟩))
  split
  -- the send fails
  · refine Ages.trans ?_ (ages_callOnError _ i s.delOk)
    exact ages_setConn el i (Or.inr (Or.inr ⟨rfl, rfl, rfl⟩))
  · split
    · exact ages_setConn el i (Or.inr (Or.inr ⟨rfl, rfl, rfl⟩))
    · exact ages_setConn el i (Or.inr (Or.inr ⟨rfl, rfl, rfl⟩))

theorem ages_readStream (el : EventLoop n) (i : Fin n) (delOk : Bool) (answers : List ReadAnswer) :
    Ages lo hi el (readStream el i delOk answers) := by
  induction answers generalizing el with
  | nil => exact Ages.refl el
  | cons answer rest ih =>
    cases answer with
    | bytes data replies =>
      cases data with
      | nil => exact ages_callOnClose el i delOk
      | cons b data => exact (ages_kernel el _).trans (ih _)
    | again => exact Ages.refl el
    | interrupted => exact ih el
    | failed => exact ages_callOnError el i delOk

theorem ages_callOnRead (el : EventLoop n) (i : Fin n) (s : EventScript) :
    Ages lo hi el (callOnRead el i s) := by
  have hdefault : Ages lo hi el (elDefaultOnRead el i s) := by
    simp only [elDefaultOnRead]
    split
    · exact ages_kernel el _
    · exact ages_readStream el i s.delOk _
  simp only [callOnRead, sipHandlerOnRead]
  split
  · exact Ages.refl el
  · exact hdefault
  · split
    · exact hdefault
    · exact ages_kernel el _

theorem ages_handleClientEvent (el : EventLoop n) (i : Fin n) (events : Mask) (s : EventScript)
    (hlo : lo ≤ s.now) (hhi : s.now ≤ hi) : Ages lo hi el (handleClientEvent el i events s) := by
  simp only [handleClientEvent]
  split
  · exact Ages.refl el
  next hstate =>
    have hstate : (el.connections i).state = .active := by simpa using hstate
    have htouch : Ages lo hi el (touch el i s.now) := by
      refine ages_setConn el i (Or.inr (Or.inl ⟨hstate, hlo, hhi⟩))
    refine htouch.trans ?_
    unfold touch
    split
    · exact ages_defaultOnError _ i s.delOk
    split
    · exact ages_elRemoveConnection _ i s.delOk
    split <;> split
    · exact (ages_defaultOnWrite _ i s).trans (ages_callOnRead _ i s)
    · exact ages_callOnRead _ i s
    · exact ages_defaultOnWrite _ i s
    · exact Ages.refl _

/-- A new connection is active since it was added. -/
theorem ages_elAddConnection (el : EventLoop n) (fd : Int) (type : ConnType) (events : Mask)
    {now : Int} (addOk : Bool) (hlo : lo ≤ now) (hhi : now ≤ hi) :
    Ages lo hi el (elAddConnection el fd type events now addOk).2 := by
  unfold elAddConnection
  split
  · exact Ages.refl el
  split
  · exact Ages.refl el
  split
  · exact Ages.refl el
  next k el' halloc =>
    obtain ⟨hfree, rfl⟩ := allocConnection_spec halloc
    simp only [setConn_self, setConn_kernel, setConn_setConn, setConn_activeCount]
    split
    · exact ages_setConn el k (Or.inl rfl)
    · have hage : Aged lo hi (el.connections k) { Connection.zero with
          fd := fd, type := type, state := .active, lastActive := now } :=
        Or.inr (Or.inl ⟨rfl, hlo, hhi⟩)
      exact ⟨(@ages_setConn _ _ _ el k _ el.kernel hage).slots, rfl, rfl⟩

theorem ages_defaultOnAccept (el : EventLoop n) (fd : Int) {now : Int} (addOk : Bool)
    (hlo : lo ≤ now) (hhi : now ≤ hi) : Ages lo hi el (defaultOnAccept el fd now addOk) := by
  have hadd : Ages lo hi el _ :=
    ages_elAddConnection el fd .tcpClient defaultTcpEvents addOk hlo hhi
  unfold defaultOnAccept
  split
  · next heq =>
    rw [heq] at hadd
    exact hadd.trans (ages_kernel _ _)
  · next heq =>
    rw [heq] at hadd
    exact hadd

theorem ages_handleAccept (el : EventLoop n) (listenFd : Int) (answers : List AcceptAnswer)
    (htimes : ∀ r ∈ answers.flatMap AcceptAnswer.readings, lo ≤ r ∧ r ≤ hi) :
    Ages lo hi el (handleAccept el listenFd answers) := by
  induction answers generalizing el with
  | nil => exact Ages.refl el
  | cons answer rest ih =>
    rw [List.flatMap_cons] at htimes
    cases answer with
    | again | failed => exact Ages.refl el
    | interrupted => exact ih el htimes
    | accepted fd nonblockOk now addOk =>
      obtain ⟨hlo, hhi⟩ := htimes now (by simp [AcceptAnswer.readings])
      have hrest (el : EventLoop n) : Ages lo hi el (handleAccept el listenFd rest) :=
        ih el fun r hr => htimes r (List.mem_append_right _ hr)
      simp only [handleAccept]
      split
      · exact Ages.refl el
      · split
        · exact (ages_kernel el _).trans (hrest _)
        split
        · exact (ages_kernel el _).trans (hrest _)
        split
        · exact ((ages_kernel el _).trans (ages_defaultOnAccept _ fd addOk hlo hhi)).trans (hrest _)
        · exact (ages_kernel el _).trans (hrest _)

theorem ages_dispatchEvent (el : EventLoop n) (i : Fin n) (events : Mask) (s : EventScript)
    (htimes : ∀ r ∈ s.now :: s.accepts.flatMap AcceptAnswer.readings, lo ≤ r ∧ r ≤ hi) :
    Ages lo hi el (dispatchEvent el i events s) := by
  obtain ⟨hlo, hhi⟩ := htimes s.now List.mem_cons_self
  simp only [dispatchEvent]
  split
  · exact Ages.refl el
  split
  · split
    · exact ages_handleAccept el _ _ fun r hr => htimes r (List.mem_cons_of_mem _ hr)
    · exact Ages.refl el
  · exact ages_handleClientEvent el i events s hlo hhi

theorem ages_elSendData (el : EventLoop n) (i : Fin n) (data : List UInt8) (answer : SendAnswer)
    (modOk : Bool) : Ages lo hi el (elSendData el i data answer modOk).2 := by
  have hset (c : Connection) (kernel : Kernel) (htype : c.type = (el.connections i).type)
      (hstate : c.state = (el.connections i).state)
      (htime : c.lastActive = (el.connections i).lastActive) :
      Ages lo hi el { el.setConn i c with kernel := kernel } :=
    ages_setConn el i (Or.inr (Or.inr ⟨htype, hstate, htime⟩))
  simp only [elSendData]
  split
  · exact Ages.refl el
  split
  · exact Ages.refl el
  split
  · exact hset _ _ rfl rfl rfl
  · split
    · exact hset _ _ rfl rfl rfl
    · exact hset _ _ rfl rfl rfl
  · exact hset _ _ rfl rfl rfl

/-! ## Section 3: The sweep -/

/-- The sweep at `now` closes slot `i`. -/
structure Expired (now : Int) (el : EventLoop n) (i : Fin n) : Prop where
  live : (el.connections i).type ≠ .free
  notListen : (el.connections i).type ≠ .tcpListen
  active : (el.connections i).state = .active
  idle : el.config.idleTimeoutSec ≤ idleSec now (el.connections i)

theorem Expired.congr {now : Int} (hslot : el'.connections i = el.connections i)
    (hconfig : el'.config = el.config) : Expired now el' i ↔ Expired now el i := by
  constructor
  · rintro ⟨hlive, hlisten, hactive, hidle⟩
    rw [hslot] at hlive hlisten hactive hidle
    exact ⟨hlive, hlisten, hactive, hconfig ▸ hidle⟩
  · rintro ⟨hlive, hlisten, hactive, hidle⟩
    rw [← hslot] at hlive hlisten hactive hidle
    exact ⟨hlive, hlisten, hactive, hconfig ▸ hidle⟩

theorem sweepSlot_expired {now : Int} (delOk : Fin n → Bool) (h : Expired now el i) :
    ((sweepSlot now delOk el i).connections i).type = .free := by
  simp only [sweepSlot, h.live, h.notListen, h.active, h.idle, ne_eq, not_true, if_true, if_false]
  rw [type_elRemoveConnection, if_pos rfl]

theorem sweepSlot_spared {now : Int} (delOk : Fin n → Bool) (h : ¬ Expired now el i) :
    sweepSlot now delOk el i = el := by
  simp only [sweepSlot]
  split
  · rfl
  next hlive =>
    split
    · rfl
    next hlisten =>
      split
      · rfl
      next hactive =>
        split
        · next hidle => exact absurd ⟨hlive, hlisten, by simpa using hactive, hidle⟩ h
        · rfl

theorem foldl_sweepSlot_spared {now : Int} (delOk : Fin n → Bool) (slots : List (Fin n))
    (h : ¬ Expired now el i) :
    (slots.foldl (sweepSlot now delOk) el).connections i = el.connections i := by
  induction slots generalizing el with
  | nil => rfl
  | cons j slots ih =>
    rw [List.foldl_cons]
    by_cases hj : j = i
    · subst hj
      rw [sweepSlot_spared delOk h]
      exact ih h
    · have hlocal := local_sweepSlot now delOk el j
      have hslot := hlocal.others i (Ne.symm hj)
      rw [ih (fun hexp => h ((Expired.congr hslot hlocal.config).mp hexp)), hslot]

/-- A slot that has expired is free when its turn has come, and stays free. -/
theorem foldl_sweepSlot_expired {now : Int} (delOk : Fin n → Bool) {slots : List (Fin n)}
    (hi : i ∈ slots) (h : Expired now el i) :
    ((slots.foldl (sweepSlot now delOk) el).connections i).type = .free := by
  induction slots generalizing el with
  | nil => cases hi
  | cons j slots ih =>
    rw [List.foldl_cons]
    by_cases hj : j = i
    · subst hj
      have hfree := sweepSlot_expired delOk h
      rw [foldl_sweepSlot_spared delOk slots fun hexp => hexp.live hfree]
      exact hfree
    · have hlocal := local_sweepSlot now delOk el j
      have hrest : i ∈ slots := (List.mem_cons.mp hi).resolve_left (Ne.symm hj)
      exact ih hrest ((Expired.congr (hlocal.others i (Ne.symm hj)) hlocal.config).mpr h)

theorem config_cleanup (el : EventLoop n) (now : Int) (delOk : Fin n → Bool) :
    (cleanupIdleConnections el now delOk).config = el.config := by
  unfold cleanupIdleConnections
  generalize List.finRange n = slots
  induction slots generalizing el with
  | nil => rfl
  | cons i slots ih => exact (ih _).trans (local_sweepSlot now delOk el i).config

/-! ## Section 4: The invariant -/

/-- What holds at any time under the configured timeout. -/
structure IdleInv (timeout : Int) (s : Clocked n) : Prop where
  config : s.el.config.idleTimeoutSec = timeout
  pos : 0 < timeout
  check : s.el.lastIdleCheck ≤ s.clock
  active : ∀ i, (s.el.connections i).type ≠ .free → (s.el.connections i).state = .active
  used : ∀ i, (s.el.connections i).type ≠ .free → (s.el.connections i).lastActive ≤ s.clock
  /-- No connection was too old at the last check. -/
  recent : ∀ i, (s.el.connections i).type ≠ .free → (s.el.connections i).type ≠ .tcpListen →
    s.el.lastIdleCheck - (s.el.connections i).lastActive < timeout

variable {timeout : Int} {s t : Clocked n}

theorem IdleInv.ages (h : IdleInv timeout s) (hages : Ages s.clock t.clock s.el t.el)
    (hclock : s.clock ≤ t.clock) : IdleInv timeout t := by
  have hcheck := h.check
  refine ⟨?_, h.pos, ?_, fun i hlive => ?_, fun i hlive => ?_, fun i hlive hlisten => ?_⟩
  · rw [hages.config]
    exact h.config
  · rw [hages.lastIdleCheck]
    exact hcheck.trans hclock
  · rcases hages.slots i with hfree | ⟨hactive, -, -⟩ | ⟨htype, hstate, -⟩
    · exact absurd hfree hlive
    · exact hactive
    · rw [hstate]
      exact h.active i (htype ▸ hlive)
  · rcases hages.slots i with hfree | ⟨-, -, hhi⟩ | ⟨htype, -, htime⟩
    · exact absurd hfree hlive
    · exact hhi
    · rw [htime]
      exact (h.used i (htype ▸ hlive)).trans hclock
  · rw [hages.lastIdleCheck]
    rcases hages.slots i with hfree | ⟨-, hlo, -⟩ | ⟨htype, -, htime⟩
    · exact absurd hfree hlive
    · have hpos := h.pos
      omega
    · rw [htime]
      exact h.recent i (htype ▸ hlive) (htype ▸ hlisten)

/-- The idle time as the sweep computes it. -/
theorem idleSec_eq {now : Int} {c : Connection} (hle : c.lastActive ≤ now)
    (hlt : now - c.lastActive < 2 ^ 31) : idleSec now c = now - c.lastActive := by
  unfold idleSec
  rw [Int.bmod_eq_of_le (by omega) (by omega)]

/-- **The idle check.**  What is left was used within `idle_timeout_sec` and a
    check interval; what is closed was not used for `idle_timeout_sec`. -/
theorem idleCheck_bound (h : IdleInv timeout s) {now sweepNow : Int} {delOk : Fin n → Bool}
    (hstep : clockedStep s (.loop (.idleCheck now sweepNow delOk)) t) : IdleInv timeout t ∧
      ∀ i, (s.el.connections i).type ≠ .free → (s.el.connections i).type ≠ .tcpListen →
        ((t.el.connections i).type ≠ .free → t.el.connections i = s.el.connections i ∧
          now - (t.el.connections i).lastActive < timeout + idleCheckIntervalSec) ∧
        ((t.el.connections i).type = .free →
          timeout ≤ sweepNow - (s.el.connections i).lastActive) := by
  obtain ⟨hel, htimes, hyears⟩ := hstep
  simp only [TableOp.readings, List.cons_append, List.nil_append, List.pairwise_cons,
    List.mem_cons, List.not_mem_nil, or_false, forall_eq_or_imp, forall_eq] at htimes
  obtain ⟨⟨hnow, hsweep, hclock⟩, ⟨hle, -⟩, hend, -⟩ := htimes
  have hcheck := h.check
  rw [h.config] at hyears
  replace hel : t.el = idleCheck s.el now sweepNow delOk := hel
  unfold idleCheck at hel
  split at hel
  · -- the sweep decides by the time it reads
    have hidle (i : Fin n) (hlive : (s.el.connections i).type ≠ .free)
        (hlisten : (s.el.connections i).type ≠ .tcpListen) :
        idleSec sweepNow (s.el.connections i) = sweepNow - (s.el.connections i).lastActive := by
      have hused := h.used i hlive
      have hrecent := h.recent i hlive hlisten
      exact idleSec_eq (by omega) (by omega)
    have hspared (i : Fin n) (hexp : ¬ Expired sweepNow s.el i) :
        t.el.connections i = s.el.connections i := by
      rw [hel]
      exact foldl_sweepSlot_spared delOk _ hexp
    have hclosed (i : Fin n) (hexp : Expired sweepNow s.el i) :
        (t.el.connections i).type = .free := by
      rw [hel]
      exact foldl_sweepSlot_expired delOk (List.mem_finRange i) hexp
    -- a slot that is left was used within the timeout
    have hleft (i : Fin n) (hlive : (t.el.connections i).type ≠ .free) :
        t.el.connections i = s.el.connections i ∧ ((t.el.connections i).type ≠ .tcpListen →
          sweepNow - (t.el.connections i).lastActive < timeout) := by
      have hexp : ¬ Expired sweepNow s.el i := fun hexp => hlive (hclosed i hexp)
      have hsame := hspared i hexp
      refine ⟨hsame, fun hlisten => ?_⟩
      rw [hsame] at hlive hlisten ⊢
      by_contra hlong
      refine hexp ⟨hlive, hlisten, h.active i hlive, ?_⟩
      rw [h.config, hidle i hlive hlisten]
      omega
    have hconfig : t.el.config = s.el.config := by
      rw [hel]
      exact config_cleanup s.el sweepNow delOk
    have hchecked : t.el.lastIdleCheck = now := by rw [hel]
    refine ⟨⟨?_, h.pos, ?_, fun i hlive => ?_, fun i hlive => ?_, fun i hlive hlisten => ?_⟩,
      fun i hlive hlisten => ⟨fun hkept => ?_, fun hfree => ?_⟩⟩
    · rw [hconfig]
      exact h.config
    · rw [hchecked]
      omega
    · have hsame := (hleft i hlive).1
      rw [hsame] at hlive ⊢
      exact h.active i hlive
    · have hsame := (hleft i hlive).1
      rw [hsame] at hlive ⊢
      have hused := h.used i hlive
      omega
    · have hlast := (hleft i hlive).2 hlisten
      rw [hchecked]
      omega
    · obtain ⟨hsame, hlast⟩ := hleft i hkept
      have hlast := hlast (hsame ▸ hlisten)
      refine ⟨hsame, ?_⟩
      unfold idleCheckIntervalSec
      omega
    · have hexp : Expired sweepNow s.el i := by
        by_contra hexp
        rw [hspared i hexp] at hfree
        exact hlive hfree
      rw [← hidle i hlive hlisten, ← h.config]
      exact hexp.idle
  · next hdue =>
    have hdue : now - s.el.lastIdleCheck < idleCheckIntervalSec := by
      simpa [idleCheckDue] using hdue
    have hages : Ages s.clock t.clock s.el t.el := by
      rw [hel]
      exact Ages.refl s.el
    refine ⟨h.ages hages (by omega), fun i hlive hlisten => ⟨fun _ => ?_, ?_⟩⟩
    · have hrecent := h.recent i hlive hlisten
      rw [hel]
      exact ⟨rfl, by omega⟩
    · intro hfree
      rw [hel] at hfree
      exact absurd hfree hlive

/-- **Step lemma.** -/
theorem idleInv_step (h : IdleInv timeout s) {op : TableOp n} (hstep : clockedStep s op t) :
    IdleInv timeout t := by
  have hstep' := hstep
  obtain ⟨hel, htimes, -⟩ := hstep
  rw [List.pairwise_append, List.pairwise_cons] at htimes
  obtain ⟨⟨hlo, -⟩, -, hhi⟩ := htimes
  have hclock : s.clock ≤ t.clock := hhi _ List.mem_cons_self _ (List.mem_singleton_self _)
  have hread (r : Int) (hr : r ∈ op.readings) : s.clock ≤ r ∧ r ≤ t.clock :=
    ⟨hlo r hr, hhi r (List.mem_cons_of_mem _ hr) _ (List.mem_singleton_self _)⟩
  have hages (hages : Ages s.clock t.clock s.el (tableStep s.el op)) : IdleInv timeout t :=
    h.ages (hel ▸ hages) hclock
  cases op with
  | callerOpen fd => exact hages (ages_kernel s.el _)
  | callerClose fd =>
    apply hages
    show Ages _ _ _ (if _ then _ else _)
    split
    · exact ages_kernel s.el _
    · exact Ages.refl s.el
  | add fd type events now addOk =>
    obtain ⟨hlo, hhi⟩ := hread now (List.mem_singleton_self now)
    exact hages (ages_elAddConnection s.el fd type events addOk hlo hhi)
  | remove i delOk => exact hages (ages_elRemoveConnection s.el i delOk)
  | send i data answer modOk => exact hages (ages_elSendData s.el i data answer modOk)
  | loop op =>
    cases op with
    | event i events script => exact hages (ages_dispatchEvent s.el i events script hread)
    | idleCheck now sweepNow delOk => exact (idleCheck_bound h hstep').1

theorem ages_createSipSocket (el : EventLoop n) (script : CreateScript) :
    Ages script.addTime script.addTime el (createSipSocket el script) := by
  unfold createSipSocket
  split
  · exact ages_kernel el _
  · next fd kernel _ =>
    have hadd : Ages script.addTime script.addTime { el with kernel := kernel } _ :=
      ages_elAddConnection _ fd .udpSip defaultUdpEvents script.addOk le_rfl le_rfl
    split
    · next heq =>
      rw [heq] at hadd
      exact ((ages_kernel el kernel).trans hadd).trans (ages_kernel _ _)
    · next heq =>
      rw [heq] at hadd
      have hages := (ages_kernel el kernel).trans hadd
      exact ⟨hages.slots, hages.config, hages.lastIdleCheck⟩

theorem timeout_pos (config : ServerConfig) : 0 < config.normalize.idleTimeoutSec := by
  simp only [ServerConfig.normalize]
  split
  · decide
  · omega

/-- `el_create` takes less than the timeout. -/
theorem idleInv_elCreate {openFds : Nat → Bool} {config : ServerConfig} {script : CreateScript}
    {el : EventLoop config.capacity} (hcreate : elCreate openFds config script = some el)
    (hle : script.addTime ≤ script.startTime)
    (hlt : script.startTime < script.addTime + config.normalize.idleTimeoutSec)
    (callbacks : Callbacks) :
    IdleInv config.normalize.idleTimeoutSec ⟨elSetCallbacks el callbacks, script.startTime⟩ := by
  have hages : ∃ el', Ages script.addTime script.addTime (emptyLoop openFds config) el' ∧
      el = { el' with lastIdleCheck := script.startTime } := by
    simp only [elCreate] at hcreate
    split at hcreate
    · cases hcreate
    · refine ⟨_, ?_, (Option.some.inj hcreate).symm⟩
      split
      · exact ages_createSipSocket _ script
      · exact Ages.refl _
  obtain ⟨el', hages, rfl⟩ := hages
  -- the only connection is the SIP socket
  have hused (i : Fin config.capacity) (hlive : (el'.connections i).type ≠ .free) :
      (el'.connections i).state = .active ∧ (el'.connections i).lastActive = script.addTime := by
    rcases hages.slots i with hfree | ⟨hactive, hlo, hhi⟩ | ⟨htype, -, -⟩
    · exact absurd hfree hlive
    · exact ⟨hactive, le_antisymm hhi hlo⟩
    · exact absurd htype hlive
  have hconfig : el'.config = config.normalize := hages.config
  refine ⟨congrArg ServerConfig.idleTimeoutSec hconfig, timeout_pos config, le_rfl,
    fun i hlive => (hused i hlive).1, fun i hlive => ?_, fun i hlive _ => ?_⟩
  · show (el'.connections i).lastActive ≤ script.startTime
    rw [(hused i hlive).2]
    exact hle
  · show script.startTime - (el'.connections i).lastActive < _
    rw [(hused i hlive).2]
    omega

/-! ## Section 5: Runs -/

/-- **How long a connection can be idle**: over any run, and at the end of any
    iteration of `el_run`, with the clock at `now`, a connection that is still
    there was used less than `idle_timeout_sec + IDLE_CHECK_INTERVAL_SEC` ago,
    and one that the idle check has closed was not used for
    `idle_timeout_sec`. -/
theorem idle_bound {openFds : Nat → Bool} {config : ServerConfig} {script : CreateScript}
    {el : EventLoop config.capacity} (hcreate : elCreate openFds config script = some el)
    (hle : script.addTime ≤ script.startTime)
    (hlt : script.startTime < script.addTime + config.normalize.idleTimeoutSec)
    {callbacks : Callbacks} {ops : List (TableOp config.capacity)} {s t : Clocked config.capacity}
    (hrun : Run clockedStep ⟨elSetCallbacks el callbacks, script.startTime⟩ ops s)
    {now sweepNow : Int} {delOk : Fin config.capacity → Bool}
    (hcheck : clockedStep s (.loop (.idleCheck now sweepNow delOk)) t)
    (i : Fin config.capacity) (hlive : (s.el.connections i).type ≠ .free)
    (hlisten : (s.el.connections i).type ≠ .tcpListen) :
    ((t.el.connections i).type ≠ .free → t.el.connections i = s.el.connections i ∧
      now - (t.el.connections i).lastActive <
        config.normalize.idleTimeoutSec + idleCheckIntervalSec) ∧
    ((t.el.connections i).type = .free →
      config.normalize.idleTimeoutSec ≤ sweepNow - (s.el.connections i).lastActive) := by
  have hinv : IdleInv config.normalize.idleTimeoutSec s :=
    hrun.invariant (idleInv_elCreate hcreate hle hlt callbacks) fun _ _ _ h hstep =>
      idleInv_step h hstep
  exact (idleCheck_bound hinv hcheck).2 i hlive hlisten

/-- A server for one connection, created at 100. -/
def demoConfig : ServerConfig := { startServerConfig with maxConnections := 1 }

def demoScript : CreateScript := ⟨true, some 5, true, true, 100, 100⟩

def demoSlot : Fin demoConfig.capacity := ⟨0, by decide⟩

/-- The SIP socket reports a datagram at 150. -/
def demoEvent : TableOp demoConfig.capacity :=
  .loop (.event demoSlot EPOLLIN ⟨150, true, true, .again, [], []⟩)

/-- The check at 455 closes the SIP socket. -/
theorem idle_bound_sip : ∃ el, elCreate (fun _ => false) demoConfig demoScript = some el ∧
    300 ≤ 455 -
      ((tableStep (elSetCallbacks el sipCallbacks) demoEvent).connections demoSlot).lastActive := by
  refine ⟨_, rfl, ?_⟩
  exact (@idle_bound (fun _ => false) demoConfig demoScript _ rfl (by decide) (by decide)
    sipCallbacks [demoEvent] ⟨_, 150⟩ ⟨_, 455⟩
    (Run.single ⟨rfl, by decide, by decide⟩) 455 455 (fun _ => true)
    ⟨rfl, by decide, by decide⟩ demoSlot (by decide) (by decide)).2 (by decide)

end EpollServer
