import CallCenter.EventLoop.Table

/-! # The Server's Own Socket

    Whether the SIP socket stays in its slot while the loop runs with the
    callbacks of `start_server_mode`.

    No event can remove it, since `on_error` and `on_close` are NULL.  The
    idle sweep can: it passes over `CONN_TYPE_TCP_LISTEN`, but the SIP socket
    has the type `CONN_TYPE_UDP_SIP` and goes like any other idle connection
    once no datagram has come for `idle_timeout_sec`.  `sip_socket_held_iff`
    says that this is the only way to lose it. -/

namespace EpollServer

open Descriptors

variable {n : Nat}

/-! ## Section 1: The socket and the sweep -/

/-- Slot `i` is a live UDP SIP slot with the descriptor of `el_get_sip_fd`. -/
def SipHeldBy (el : EventLoop n) (i : Fin n) : Prop :=
  (el.connections i).type = .udpSip ∧ (el.connections i).fd = elGetSipFd el

def SipHeld (el : EventLoop n) : Prop := ∃ i, SipHeldBy el i

/-- The step is not an idle check that is due and finds the SIP socket idle
    for `idle_timeout_sec` or longer. -/
def SweepSpares (el : EventLoop n) : LoopOp n → Prop
  | .event .. => True
  | .idleCheck now sweepNow _ =>
    idleCheckDue el now → ∀ i, SipHeldBy el i →
      idleSec sweepNow (el.connections i) < el.config.idleTimeoutSec

/-- The server's loop while slot `k` holds the SIP socket: it is the only
    live slot, and no callback but `on_read` is installed. -/
structure SipLoop (el : EventLoop n) (k : Fin n) : Prop where
  callbacks : el.callbacks = sipCallbacks
  held : SipHeldBy el k
  active : (el.connections k).state = .active
  others : ∀ j, j ≠ k → (el.connections j).type = .free

theorem SipLoop.sipHeld {el : EventLoop n} {k : Fin n} (h : SipLoop el k) : SipHeld el :=
  ⟨k, h.held⟩

theorem SipLoop.eq_of_heldBy {el : EventLoop n} {k i : Fin n} (h : SipLoop el k)
    (hi : SipHeldBy el i) : i = k := by
  by_contra hne
  have hfree := h.others i hne
  rw [hi.1] at hfree
  cases hfree

/-- A change to the kernel, the clock and a slot's `last_active` keeps the socket. -/
theorem SipLoop.touch {el : EventLoop n} {k : Fin n} (h : SipLoop el k) (i : Fin n) (now : Int)
    (kernel : Kernel) :
    SipLoop { el.setConn i { el.connections i with lastActive := now } with kernel := kernel }
      k := by
  have hconn : ∀ j, ∃ t, (el.setConn i { el.connections i with lastActive := now }).connections j =
      { el.connections j with lastActive := t } := by
    intro j
    by_cases hj : j = i
    · subst hj
      exact ⟨now, by simp⟩
    · exact ⟨(el.connections j).lastActive, by simp [hj]⟩
  refine ⟨h.callbacks, ?_, ?_, ?_⟩
  · obtain ⟨t, ht⟩ := hconn k
    have hheld := h.held
    simp only [SipHeldBy, elGetSipFd] at hheld ⊢
    rw [ht]
    exact hheld
  · obtain ⟨t, ht⟩ := hconn k
    show ((el.setConn i _).connections k).state = .active
    rw [ht]
    exact h.active
  · intro j hj
    obtain ⟨t, ht⟩ := hconn j
    show ((el.setConn i _).connections j).type = .free
    rw [ht]
    exact h.others j hj

/-! ## Section 2: Events -/

theorem callOnClose_sip {el : EventLoop n} (hcb : el.callbacks = sipCallbacks) (i : Fin n)
    (delOk : Bool) : callOnClose el i delOk = el := by
  have hclose : el.callbacks.onClose = false := by
    rw [hcb]
    rfl
  simp [callOnClose, hclose]

theorem callOnError_sip {el : EventLoop n} (hcb : el.callbacks = sipCallbacks) (i : Fin n)
    (delOk : Bool) : callOnError el i delOk = el := by
  have herror : el.callbacks.onError = false := by
    rw [hcb]
    rfl
  simp [callOnError, herror]

/-- Without `on_close` and `on_error` reading a stream changes only the kernel. -/
theorem readStream_sip {el : EventLoop n} (hcb : el.callbacks = sipCallbacks) (i : Fin n)
    (delOk : Bool) (answers : List ReadAnswer) :
    ∃ kernel, readStream el i delOk answers = { el with kernel := kernel } := by
  induction answers generalizing el with
  | nil => exact ⟨el.kernel, rfl⟩
  | cons answer rest ih =>
    cases answer with
    | bytes data replies =>
      cases data with
      | nil => exact ⟨el.kernel, callOnClose_sip hcb i delOk⟩
      | cons b data => exact ih hcb
    | again => exact ⟨el.kernel, rfl⟩
    | interrupted => exact ih hcb
    | failed => exact ⟨el.kernel, callOnError_sip hcb i delOk⟩

theorem callOnRead_sip {el : EventLoop n} (hcb : el.callbacks = sipCallbacks) (i : Fin n)
    (s : EventScript) : ∃ kernel, callOnRead el i s = { el with kernel := kernel } := by
  have hread : el.callbacks.onRead = some .sipHandlerOnRead := by
    rw [hcb]
    rfl
  simp only [callOnRead, hread, sipHandlerOnRead, elDefaultOnRead]
  split
  · split
    · exact ⟨_, rfl⟩
    · exact readStream_sip hcb i s.delOk _
  · exact ⟨_, rfl⟩

/-- An event of the server's loop touches at most one slot's `last_active`. -/
theorem dispatchEvent_sip {el : EventLoop n} {k : Fin n} (h : SipLoop el k) (i : Fin n)
    (events : Mask) (s : EventScript) : SipLoop (dispatchEvent el i events s) k := by
  have hlisten : (el.connections i).type ≠ .tcpListen := by
    by_cases hi : i = k
    · rw [hi, h.held.1]
      decide
    · rw [h.others i hi]
      decide
  simp only [dispatchEvent]
  split
  · exact h
  simp only [handleClientEvent, setConn_callbacks, h.callbacks, sipCallbacks, and_false, if_false,
    Bool.false_eq_true]
  split
  · exact h
  have htouched := h.touch i s.now el.kernel
  split
  · obtain ⟨kernel, hkernel⟩ := callOnRead_sip htouched.callbacks i s
    have heq : callOnRead (el.setConn i { el.connections i with lastActive := s.now }) i s =
        { el.setConn i { el.connections i with lastActive := s.now } with kernel := kernel } :=
      hkernel
    rw [heq]
    exact h.touch i s.now kernel
  · exact htouched

/-! ## Section 3: The sweep -/

theorem foldl_sweepSlot_free {el : EventLoop n} (now : Int) (delOk : Fin n → Bool)
    {slots : List (Fin n)} (hfree : ∀ j ∈ slots, (el.connections j).type = .free) :
    slots.foldl (sweepSlot now delOk) el = el := by
  induction slots with
  | nil => rfl
  | cons j slots ih =>
    have hj : sweepSlot now delOk el j = el := by simp [sweepSlot, hfree j List.mem_cons_self]
    rw [List.foldl_cons, hj]
    exact ih fun i hi => hfree i (List.mem_cons_of_mem _ hi)

/-- The sweep of the server's table is the sweep of the SIP slot. -/
theorem cleanup_sip {el : EventLoop n} {k : Fin n} (h : SipLoop el k) (now : Int)
    (delOk : Fin n → Bool) :
    cleanupIdleConnections el now delOk =
      if el.config.idleTimeoutSec ≤ idleSec now (el.connections k) then
        elRemoveConnection el k (delOk k)
      else el := by
  have hslot : sweepSlot now delOk el k =
      if el.config.idleTimeoutSec ≤ idleSec now (el.connections k) then
        elRemoveConnection el k (delOk k)
      else el := by
    simp [sweepSlot, h.held.1, h.active, callOnClose_sip h.callbacks]
  obtain ⟨pre, post, hsplit⟩ := List.append_of_mem (List.mem_finRange k)
  have hnd := List.nodup_finRange n
  rw [hsplit] at hnd
  have hmid := List.nodup_cons.mp (List.nodup_middle.mp hnd)
  have hpre : ∀ j ∈ pre, (el.connections j).type = .free := fun j hj =>
    h.others j fun hjk => hmid.1 (List.mem_append_left _ (hjk ▸ hj))
  have hpost : ∀ j ∈ post, j ≠ k := fun j hj hjk =>
    hmid.1 (List.mem_append_right _ (hjk ▸ hj))
  unfold cleanupIdleConnections
  rw [hsplit, List.foldl_append, foldl_sweepSlot_free now delOk hpre, List.foldl_cons, hslot]
  refine foldl_sweepSlot_free now delOk fun j hj => ?_
  split
  · rw [type_elRemoveConnection, if_neg (hpost j hj)]
    exact h.others j (hpost j hj)
  · exact h.others j (hpost j hj)

/-- A due check that finds the SIP socket idle for too long removes it. -/
theorem not_sipHeld_of_expired {el : EventLoop n} {k : Fin n} (h : SipLoop el k)
    {now sweepNow : Int} (delOk : Fin n → Bool) (hdue : idleCheckDue el now)
    (hidle : el.config.idleTimeoutSec ≤ idleSec sweepNow (el.connections k)) :
    ¬ SipHeld (idleCheck el now sweepNow delOk) := by
  rw [idleCheck, if_pos hdue, cleanup_sip h, if_pos hidle]
  intro hheld
  obtain ⟨i, hi, -⟩ := hheld
  have hi' : ((elRemoveConnection el k (delOk k)).connections i).type = .udpSip := hi
  rw [type_elRemoveConnection] at hi'
  split at hi'
  · cases hi'
  · next hik =>
    rw [h.others i hik] at hi'
    cases hi'

theorem SipLoop.clock {el : EventLoop n} {k : Fin n} (h : SipLoop el k) (now : Int) :
    SipLoop { el with lastIdleCheck := now } k :=
  ⟨h.callbacks, h.held, h.active, h.others⟩

/-- **Step lemma**: the socket survives a step exactly when the sweep spares it. -/
theorem sipLoop_step {el : EventLoop n} {k : Fin n} (h : SipLoop el k) (op : LoopOp n) :
    (SweepSpares el op ∧ SipLoop (loopStep el op) k) ∨
      (¬ SweepSpares el op ∧ ¬ SipHeld (loopStep el op)) := by
  cases op with
  | event i events s => exact Or.inl ⟨trivial, dispatchEvent_sip h i events s⟩
  | idleCheck now sweepNow delOk =>
    by_cases hdue : idleCheckDue el now
    · by_cases hidle : el.config.idleTimeoutSec ≤ idleSec sweepNow (el.connections k)
      · right
        refine ⟨?_, not_sipHeld_of_expired h delOk hdue hidle⟩
        intro hspares
        have hlt := hspares hdue k h.held
        omega
      · left
        refine ⟨?_, ?_⟩
        · intro _ i hi
          rw [h.eq_of_heldBy hi]
          omega
        · show SipLoop (idleCheck el now sweepNow delOk) k
          rw [idleCheck, if_pos hdue, cleanup_sip h, if_neg hidle]
          exact h.clock now
    · left
      refine ⟨fun hdue' => absurd hdue' hdue, ?_⟩
      show SipLoop (idleCheck el now sweepNow delOk) k
      rw [idleCheck, if_neg hdue]
      exact h

/-! ## Section 4: Creation -/

/-- `el_add_connection` fills one free slot or leaves every slot's type alone. -/
theorem elAddConnection_cases (el : EventLoop n) (fd : Int) (type : ConnType) (events : Mask)
    (now : Int) (addOk : Bool) :
    (∃ el', elAddConnection el fd type events now addOk = (none, el') ∧
      ∀ j, (el'.connections j).type = (el.connections j).type) ∨
    (∃ i el', elAddConnection el fd type events now addOk = (some i, el') ∧
      el'.connections i =
        { Connection.zero with fd := fd, type := type, state := .active, lastActive := now } ∧
      ∀ j, j ≠ i → el'.connections j = el.connections j) := by
  unfold elAddConnection
  split
  · exact Or.inl ⟨el, rfl, fun _ => rfl⟩
  split
  · exact Or.inl ⟨el, rfl, fun _ => rfl⟩
  split
  · exact Or.inl ⟨el, rfl, fun _ => rfl⟩
  next i el' halloc =>
    obtain ⟨hfree, rfl⟩ := allocConnection_spec halloc
    simp only [setConn_self, setConn_kernel, setConn_setConn, setConn_activeCount]
    rcases addFd_cases el.kernel fd events addOk with hfail | ⟨-, -, hok⟩
    · rw [hfail]
      left
      refine ⟨_, rfl, fun j => ?_⟩
      by_cases hj : j = i
      · subst hj
        simp [EventLoop.setConn, freeConnection, hfree]
      · simp [EventLoop.setConn, hj]
    · rw [hok]
      right
      exact ⟨i, _, rfl, by simp [EventLoop.setConn], fun j hj => by simp [EventLoop.setConn, hj]⟩

theorem not_sipHeld_of_free {el : EventLoop n} (hfree : ∀ j, (el.connections j).type = .free) :
    ¬ SipHeld el := by
  intro hheld
  obtain ⟨i, hi, -⟩ := hheld
  rw [hfree i] at hi
  cases hi

/-- What `el_create` leaves if it could register the socket. -/
theorem sipLoop_createSipSocket {el : EventLoop n} {s : CreateScript} (hnil : ∀ j,
    (el.connections j).type = .free) (hheld : SipHeld (createSipSocket el s)) :
    ∃ k, SipLoop (elSetCallbacks (createSipSocket el s) sipCallbacks) k := by
  unfold createSipSocket at hheld ⊢
  cases hsocket : esCreateUdpServer el.kernel s with
  | mk created kernel =>
    cases created with
    | none =>
      simp only [hsocket] at hheld
      exact absurd hheld (not_sipHeld_of_free hnil)
    | some fd =>
      simp only [hsocket] at hheld ⊢
      rcases elAddConnection_cases { el with kernel := kernel } fd .udpSip defaultUdpEvents
        s.addTime s.addOk with ⟨el', hadd, htypes⟩ | ⟨i, el', hadd, hslot, hothers⟩
      · simp only [hadd] at hheld
        refine absurd hheld (not_sipHeld_of_free fun j => ?_)
        exact (htypes j).trans (hnil j)
      · simp only [hadd]
        refine ⟨i, rfl, ⟨?_, ?_⟩, ?_, ?_⟩
        · show (el'.connections i).type = .udpSip
          rw [hslot]
        · show (el'.connections i).fd = fd
          rw [hslot]
        · show (el'.connections i).state = .active
          rw [hslot]
        · intro j hj
          show (el'.connections j).type = .free
          rw [hothers j hj]
          exact hnil j

theorem sipLoop_create {openFds : Nat → Bool} {config : ServerConfig} {s : CreateScript}
    {el : EventLoop config.capacity} (hcreate : elCreate openFds config s = some el)
    (hheld : SipHeld el) : ∃ k, SipLoop (elSetCallbacks el sipCallbacks) k := by
  have hnil : ∀ j, ((emptyLoop openFds config).connections j).type = .free := fun _ => rfl
  simp only [elCreate] at hcreate
  split at hcreate
  · cases hcreate
  obtain rfl := Option.some.inj hcreate
  split at hheld
  · next hport =>
    rw [if_pos hport]
    obtain ⟨k, hk⟩ := sipLoop_createSipSocket hnil hheld
    exact ⟨k, hk.clock s.startTime⟩
  · exact absurd hheld (not_sipHeld_of_free hnil)

/-- A registration that nothing stands in the way of. -/
theorem elAddConnection_ok {el : EventLoop n} {fd : Int} {i : Fin n} (hfd : 0 ≤ fd)
    (hroom : el.activeCount < n) (hfree : (el.connections i).type = .free)
    (hopen : el.kernel.isOpen fd = true) (hnone : el.kernel.interest fd = none)
    (type : ConnType) (events : Mask) (now : Int) :
    ∃ j el', elAddConnection el fd type events now true = (some j, el') ∧
      el'.config = el.config ∧
      el'.connections j =
        { Connection.zero with fd := fd, type := type, state := .active, lastActive := now } ∧
      ∀ k, k ≠ j → el'.connections k = el.connections k := by
  have hadd : addFd el.kernel fd events true = (true, (addFd el.kernel fd events true).2) := by
    simp [addFd, hopen, hnone]
  cases hfind : (List.finRange n).find? fun i => (el.connections i).type = .free with
  | none =>
    rw [List.find?_eq_none] at hfind
    exact absurd hfree (by simpa using hfind i (List.mem_finRange i))
  | some j =>
    have halloc :
        allocConnection el = some (j, el.setConn j { Connection.zero with fd := -1 }) := by
      simp [allocConnection, hfind]
    rw [elAddConnection, if_neg (by omega), if_neg (by omega)]
    simp only [halloc, setConn_self, setConn_kernel, setConn_setConn, setConn_activeCount]
    rw [hadd]
    exact ⟨j, _, rfl, rfl, by simp [EventLoop.setConn], fun k hk => by simp [EventLoop.setConn, hk]⟩

theorem capacity_pos (config : ServerConfig) : 0 < config.capacity := by
  unfold ServerConfig.capacity ServerConfig.normalize maxConcurrentCalls
  dsimp only
  split <;> omega

/-- `el_create` when every system call works. -/
theorem elCreate_ok {openFds : Nat → Bool} {config : ServerConfig} (hport : 0 < config.sipPort)
    {fd : Nat} (hclosed : openFds fd = false) (addTime startTime : Int) :
    ∃ el, elCreate openFds config ⟨true, some fd, true, true, addTime, startTime⟩ = some el ∧
      SipHeld el ∧ el.lastIdleCheck = startTime ∧ el.config = config.normalize ∧
      ∀ i, SipHeldBy el i → (el.connections i).lastActive = addTime := by
  have hfresh : 0 ≤ (fd : Int) ∧ (boot openFds).isOpen fd = false := by
    simp [boot, hclosed]
  have hroom : (emptyLoop openFds config).activeCount < config.capacity := by
    have hpos := capacity_pos config
    show (0 : Int) < config.capacity
    omega
  have hopened : openFd (boot openFds) fd = (true, (openFd (boot openFds) fd).2) := by
    simp [openFd, hfresh]
  have hnone : (openFd (boot openFds) fd).2.interest fd = none := by
    simp only [openFd, if_pos hfresh]
    rfl
  have hopen : (openFd (boot openFds) fd).2.isOpen fd = true := by
    simp [openFd, hfresh, Kernel.record]
  obtain ⟨j, el', hadd, hconfig, hslot, hothers⟩ := @elAddConnection_ok _
    { emptyLoop openFds config with kernel := (openFd (boot openFds) fd).2 } fd
    ⟨0, capacity_pos config⟩ hfresh.1 hroom rfl hopen hnone .udpSip defaultUdpEvents addTime
  have hsocket : esCreateUdpServer (emptyLoop openFds config).kernel
      ⟨true, some fd, true, true, addTime, startTime⟩ =
      (some (fd : Int), (openFd (boot openFds) fd).2) := by
    unfold esCreateUdpServer
    dsimp only [emptyLoop]
    rw [hopened]
    rfl
  have hsip : createSipSocket (emptyLoop openFds config)
      ⟨true, some fd, true, true, addTime, startTime⟩ = { el' with sipListenFd := fd } := by
    unfold createSipSocket
    rw [hsocket]
    dsimp only
    rw [hadd]
  refine ⟨{ el' with sipListenFd := fd, lastIdleCheck := startTime }, ?_, ?_, rfl, hconfig, ?_⟩
  · simp only [elCreate, if_pos hport, hsip]
    rfl
  · exact ⟨j, by rw [hslot], by rw [hslot]; rfl⟩
  · intro i hi
    by_cases hij : i = j
    · show (el'.connections i).lastActive = addTime
      rw [hij, hslot]
    · have htype : (el'.connections i).type = .udpSip := hi.1
      rw [hothers i hij] at htype
      cases htype

/-! ## Section 5: Whole runs -/

/-- Either the sweep spared the socket at every step and it is in its slot, or
    it was already gone after some shorter run. -/
theorem sipLoop_run {el : EventLoop n} {k : Fin n} (h : SipLoop el k) (ops : List (LoopOp n)) :
    (SipLoop (ops.foldl loopStep el) k ∧
      ∀ pre op, pre ++ [op] <+: ops → SweepSpares (pre.foldl loopStep el) op) ∨
    (∃ pre op, pre ++ [op] <+: ops ∧ ¬ SweepSpares (pre.foldl loopStep el) op ∧
      ¬ SipHeld ((pre ++ [op]).foldl loopStep el)) := by
  induction ops using List.reverseRecOn with
  | nil =>
    left
    refine ⟨h, fun pre op hpre => ?_⟩
    have hlen := hpre.length_le
    simp at hlen
  | append_singleton ops op ih =>
    rcases ih with ⟨hloop, hspared⟩ | ⟨pre, op', hpre, hlost⟩
    · rcases sipLoop_step hloop op with ⟨hsp, hnext⟩ | ⟨hsp, hgone⟩
      · left
        refine ⟨by simpa [List.foldl_append] using hnext, ?_⟩
        intro pre op' hpre
        rcases List.prefix_concat_iff.mp hpre with heq | hshort
        · obtain ⟨rfl, hop⟩ := List.append_inj' heq rfl
          obtain rfl := List.singleton_inj.mp hop
          exact hsp
        · exact hspared pre op' hshort
      · right
        exact ⟨ops, op, List.prefix_rfl, hsp, by simpa [List.foldl_append] using hgone⟩
    · exact Or.inr ⟨pre, op', hpre.trans (List.prefix_append _ _), hlost⟩

/-- **When the server keeps its socket.**  In a server that could register
    its SIP socket, the socket is in its slot after every prefix of a run if
    and only if no due idle check of the run finds it idle for
    `idle_timeout_sec`.  Events of any kind and the clock are arbitrary. -/
theorem sip_socket_held_iff {openFds : Nat → Bool} {config : ServerConfig} {s : CreateScript}
    {el : EventLoop config.capacity} (hcreate : elCreate openFds config s = some el)
    (hheld : SipHeld el) (ops : List (LoopOp config.capacity)) :
    (∀ pre, pre <+: ops → SipHeld (pre.foldl loopStep (elSetCallbacks el sipCallbacks))) ↔
      ∀ pre op, pre ++ [op] <+: ops →
        SweepSpares (pre.foldl loopStep (elSetCallbacks el sipCallbacks)) op := by
  obtain ⟨k, hloop⟩ := sipLoop_create hcreate hheld
  constructor
  · intro hall
    rcases sipLoop_run hloop ops with ⟨-, hspared⟩ | ⟨pre, op, hpre, -, hgone⟩
    · exact hspared
    · exact absurd (hall _ hpre) hgone
  · intro hspared pre hpre
    rcases sipLoop_run hloop pre with ⟨hkept, -⟩ | ⟨pre', op, hpre', hlost, -⟩
    · exact hkept.sipHeld
    · exact absurd (hspared pre' op (hpre'.trans hpre)) hlost

/-- The theorem at a server whose first idle check comes after 20 seconds. -/
theorem sip_socket_held_iff_early :
    ∃ el, elCreate (fun _ => false) startServerConfig ⟨true, some 5, true, true, 0, 0⟩ = some el ∧
      ∀ pre, pre <+: [.idleCheck 20 20 fun _ => true] →
        SipHeld (pre.foldl loopStep (elSetCallbacks el sipCallbacks)) := by
  obtain ⟨el, hcreate, hheld, -, hconfig, hactive⟩ :=
    @elCreate_ok (fun _ => false) startServerConfig (by decide) 5 rfl 0 0
  refine ⟨el, hcreate, (sip_socket_held_iff hcreate hheld _).mpr ?_⟩
  intro pre op hpre
  rcases List.prefix_concat_iff.mp (show pre ++ [op] <+: [] ++ [_] from hpre) with heq | hnil
  · obtain ⟨rfl, hop⟩ := List.append_inj' heq rfl
    obtain rfl := List.singleton_inj.mp hop
    intro _ i hi
    show idleSec 20 (el.connections i) < el.config.idleTimeoutSec
    rw [hconfig, idleSec, hactive i hi]
    decide
  · have hlen := hnil.length_le
    simp at hlen

/-- The clock readings of a step of the server's loop, in order. -/
def LoopOp.readings : LoopOp n → List Int
  | .event _ _ s => [s.now]
  | .idleCheck now sweepNow _ => [now, sweepNow]

/-- **The server loses its socket**: after 300 seconds without a datagram the
    idle check removes it. -/
theorem sip_socket_swept :
    ¬ ∀ (openFds : Nat → Bool) (s : CreateScript) (el : EventLoop startServerConfig.capacity)
        (ops : List (LoopOp startServerConfig.capacity)),
      startServerMode openFds s = some el → SipHeld el →
      (s.addTime :: s.startTime :: ops.flatMap LoopOp.readings).Pairwise (· ≤ ·) →
      SipHeld (ops.foldl loopStep el) := by
  intro h
  obtain ⟨el, hcreate, hheld, hcheck, hconfig, hactive⟩ :=
    @elCreate_ok (fun _ => false) startServerConfig (by decide) 5 rfl 0 0
  have hstart : startServerMode (fun _ => false) ⟨true, some 5, true, true, 0, 0⟩ =
      some (elSetCallbacks el sipCallbacks) := by
    simp only [startServerMode]
    rw [show (some 5 : Option Int) = some ((5 : Nat) : Int) from rfl, hcreate]
    rfl
  obtain ⟨k, hloop⟩ := sipLoop_create hcreate hheld
  have hlost := h _ _ _ [.idleCheck 300 300 fun _ => true] hstart hheld (by decide)
  refine not_sipHeld_of_expired hloop (fun _ => true) ?_ ?_ hlost
  · show idleCheckIntervalSec ≤ 300 - el.lastIdleCheck
    rw [hcheck]
    decide
  · show el.config.idleTimeoutSec ≤ idleSec 300 (el.connections k)
    rw [hconfig, idleSec, hactive k hloop.held]
    decide

end EpollServer
