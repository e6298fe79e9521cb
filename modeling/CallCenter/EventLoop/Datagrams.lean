import CallCenter.EventLoop.CallbackTrace

/-! # Sending Datagrams

    A UDP socket is shared by all peers: `el_send_data` is given a destination
    with each payload, but what it cannot send at once is kept without it.
    `default_on_write` sends the rest to NULL.

    Here the model of `el_send_data` and `default_on_write` is completed by
    the destinations.  `elSendDataTo_fst` and `defaultOnWriteTo_fst` say that
    nothing else changes.  The kernel takes a datagram as a whole or not at
    all, and on a socket that is not connected it refuses one without a
    destination for good (`kernelAnswer`).

    Every datagram that is accepted is a payload on its way to its own
    destination; but a deferred datagram makes the next writable event close
    the socket (`datagrams_iff`). -/

namespace EpollServer

open Descriptors

variable {n : Nat} {Addr : Type*}

/-! ## Section 1: Destinations -/

/-- What `sendto` was called with; NULL is `none`. -/
structure Datagram (Addr : Type*) where
  dest : Option Addr
  data : List UInt8
  deriving DecidableEq

/-- What the kernel reports, given that it would report `answer` for a call
    on a stream or with a destination. -/
def kernelAnswer (isUdp : Bool) (dest : Option Addr) (len : Int) (answer : SendAnswer) :
    SendAnswer :=
  if isUdp then
    match dest, answer with
    -- `EDESTADDRREQ`
    | none, _ => .failed
    -- a datagram is not split
    | some _, .accepted _ => .accepted len.toNat
    | some _, answer => answer
  else answer

/-- `es_send_all`, with the datagram that the kernel accepts. -/
def esSendAllTo (kernel : Kernel) (fd : Int) (buf : List UInt8) (offset len : Int) (isUdp : Bool)
    (dest : Option Addr) (answer : SendAnswer) :
    (EsSend × Int × Kernel) × List (Datagram Addr) :=
  if len ≤ 0 ∨ offset < 0 then ((.sendErr, 0, kernel), [])
  else if kernel.isOpen fd = false then ((.sendErr, 0, kernel), [])
  else match kernelAnswer isUdp dest len answer with
    | .again => ((.sendPartial, 0, kernel), [])
    | .interrupted => ((.sendPartial, 0, kernel), [])
    | .failed => ((.sendErr, 0, kernel), [])
    | .accepted count =>
      let data := ((buf.drop offset.toNat).take len.toNat).take count
      ((if len ≤ count then .sendDone else .sendPartial, count, kernel.record (.sent fd data)),
        [⟨dest, data⟩])

/-- `el_send_data`, with the datagrams that the kernel accepts. -/
def elSendDataTo (el : EventLoop n) (i : Fin n) (data : List UInt8) (isUdp : Bool)
    (dest : Option Addr) (answer : SendAnswer) (modOk : Bool) :
    (ElSend × EventLoop n) × List (Datagram Addr) :=
  match handedBySend data with
  | none => ((if data.length = 0 then .errParam else .errFull, el), [])
  | some r =>
    -- the destination is not kept with the payload
    let conn := loadBuffer (el.connections i) data
    let (out, accepted) :=
      esSendAllTo el.kernel conn.fd conn.sendBuf r.offset r.len isUdp dest answer
    (finishSend el i conn modOk out, accepted)

/-- `default_on_write`, with the datagrams that the kernel accepts. -/
def defaultOnWriteTo (el : EventLoop n) (i : Fin n) (s : EventScript) :
    EventLoop n × List (Datagram Addr) :=
  let conn := el.connections i
  match handedByWrite conn with
  | none => (stopWriting el i el.kernel s.modOk, [])
  | some r =>
    let (out, accepted) :=
      esSendAllTo el.kernel conn.fd conn.sendBuf r.offset r.len (isUdp conn.type) none s.send
    (finishWrite el i s out, accepted)

theorem esSendAllTo_fst (kernel : Kernel) (fd : Int) (buf : List UInt8) (offset len : Int)
    (isUdp : Bool) (dest : Option Addr) (answer : SendAnswer) :
    (esSendAllTo kernel fd buf offset len isUdp dest answer).1 =
      esSendAll kernel fd buf offset len (kernelAnswer isUdp dest len answer) := by
  unfold esSendAllTo esSendAll
  split_ifs
  · rfl
  · rfl
  · cases kernelAnswer isUdp dest len answer with
    | again | interrupted | failed | accepted => rfl

/-- But for the destination it is the model's `el_send_data`. -/
theorem elSendDataTo_fst (el : EventLoop n) (i : Fin n) (data : List UInt8) (isUdp : Bool)
    (dest : Option Addr) (answer : SendAnswer) (modOk : Bool) :
    (elSendDataTo el i data isUdp dest answer modOk).1 =
      elSendData el i data (kernelAnswer isUdp dest data.length answer) modOk := by
  rw [elSendData_eq]
  unfold elSendDataTo handedBySend
  split_ifs
  · rfl
  · rfl
  · dsimp only
    rw [esSendAllTo_fst]

theorem kernelAnswer_none (isUdp : Bool) (len : Int) (answer : SendAnswer) :
    kernelAnswer isUdp (none : Option Addr) len answer = if isUdp then .failed else answer := by
  cases isUdp <;> cases answer <;> rfl

/-- But for the destination it is the model's `default_on_write`. -/
theorem defaultOnWriteTo_fst (el : EventLoop n) (i : Fin n) (s : EventScript) :
    (defaultOnWriteTo el i s : EventLoop n × List (Datagram Addr)).1 =
      defaultOnWrite el i { s with
        send := if isUdp (el.connections i).type then .failed else s.send } := by
  rw [defaultOnWrite_eq]
  unfold defaultOnWriteTo
  dsimp only
  rcases handedByWrite (el.connections i) with - | r
  · rfl
  · dsimp only
    rw [← @kernelAnswer_none Addr _ r.len, ← esSendAllTo_fst]
    rfl

/-- Without a destination every call for a datagram fails. -/
theorem esSendAllTo_none (kernel : Kernel) (fd : Int) (buf : List UInt8) (offset len : Int)
    (answer : SendAnswer) :
    esSendAllTo kernel fd buf offset len true (none : Option Addr) answer =
      ((.sendErr, 0, kernel), []) := by
  unfold esSendAllTo
  rw [kernelAnswer_none, if_pos rfl, ite_self, ite_self]

/-! ## Section 2: Runs on one socket -/

/-- The loop, the datagrams accepted so far, and the payloads given to
    `el_send_data` with their destinations. -/
structure UdpState (n : Nat) (Addr : Type*) where
  el : EventLoop n
  accepted : List (Datagram Addr)
  given : List (Addr × List UInt8)

inductive UdpLabel (Addr : Type*) where
  | sendData (data : List UInt8) (dest : Addr) (answer : SendAnswer) (modOk : Bool)
  | writable (s : EventScript)

/-- A call for the socket in slot `i`, or a writable event of it. -/
def udpStep (i : Fin n) (st : UdpState n Addr) : UdpLabel Addr → UdpState n Addr
  | .sendData data dest answer modOk =>
    let ((_, el), accepted) := elSendDataTo st.el i data true (some dest) answer modOk
    { el, accepted := st.accepted ++ accepted, given := st.given ++ [(dest, data)] }
  | .writable s =>
    let (el, accepted) := defaultOnWriteTo st.el i s
    { st with el, accepted := st.accepted ++ accepted }

/-- Slot `i` holds an open UDP socket. -/
structure UdpSlot (el : EventLoop n) (i : Fin n) : Prop where
  isUdp : isUdp (el.connections i).type = true
  fd_nonneg : 0 ≤ (el.connections i).fd
  isOpen : el.kernel.isOpen (el.connections i).fd = true

/-- Each payload as one datagram to its destination. -/
def datagrams (given : List (Addr × List UInt8)) : List (Datagram Addr) :=
  given.map fun p => ⟨some p.1, p.2⟩

/-- Payloads go out whole and to their own destinations, none twice, and the
    socket stays open. -/
structure UdpOk (fd : Int) (st : UdpState n Addr) : Prop where
  delivered : st.accepted.Sublist (datagrams st.given)
  isOpen : st.el.kernel.isOpen fd = true

/-- A datagram is deferred: it waits for a writable event. -/
def Deferred (conn : Connection) : Prop :=
  0 < conn.sendLen ∧ conn.sendOffset < conn.sendLen

/-- No writable event comes while a datagram is deferred, or nobody is told
    about the error. -/
def Undeferred (i : Fin n) (st : UdpState n Addr) : UdpLabel Addr → Prop
  | .sendData .. => True
  | .writable _ => Deferred (st.el.connections i) → st.el.callbacks.onError = false

/-- What a run keeps as long as its steps are `Undeferred`. -/
structure UdpInv (el₀ : EventLoop n) (i : Fin n) (st : UdpState n Addr) : Prop where
  fd_eq : (st.el.connections i).fd = (el₀.connections i).fd
  type_eq : (st.el.connections i).type = (el₀.connections i).type
  isOpen : st.el.kernel.isOpen = el₀.kernel.isOpen
  delivered : st.accepted.Sublist (datagrams st.given)

section Step

variable {el₀ : EventLoop n} {i : Fin n} {st : UdpState n Addr}

theorem callbacks_elSendData (el : EventLoop n) (i : Fin n) (data : List UInt8)
    (answer : SendAnswer) (modOk : Bool) :
    (elSendData el i data answer modOk).2.callbacks = el.callbacks := by
  unfold elSendData
  dsimp only
  split
  · rfl
  split
  · rfl
  split
  · rfl
  · split <;> rfl
  · rfl

/-- A datagram is accepted as a whole, for its own destination. -/
theorem elSendDataTo_accepted (el : EventLoop n) (i : Fin n) (data : List UInt8) (dest : Addr)
    (answer : SendAnswer) (modOk : Bool) :
    (elSendDataTo el i data true (some dest) answer modOk).2.Sublist [⟨some dest, data⟩] := by
  unfold elSendDataTo handedBySend
  split_ifs
  · exact List.nil_sublist _
  · exact List.nil_sublist _
  dsimp only
  unfold esSendAllTo
  split_ifs
  · exact List.nil_sublist _
  · exact List.nil_sublist _
  cases answer with
  | again | interrupted | failed => exact List.nil_sublist _
  | accepted count =>
    -- the buffer begins with the payload
    simp [kernelAnswer, loadBuffer]

/-- Without a destination nothing is accepted. -/
theorem defaultOnWriteTo_accepted {el : EventLoop n} {i : Fin n}
    (hudp : isUdp (el.connections i).type = true) (s : EventScript) :
    (defaultOnWriteTo el i s : EventLoop n × List (Datagram Addr)).2 = [] := by
  unfold defaultOnWriteTo
  dsimp only
  rcases handedByWrite (el.connections i) with - | r
  · rfl
  dsimp only
  rw [hudp, esSendAllTo_none]

/-- `el_send_data` leaves the socket in its slot. -/
theorem elSendData_keeps (el : EventLoop n) (i : Fin n) (data : List UInt8) (answer : SendAnswer)
    (modOk : Bool) :
    ((elSendData el i data answer modOk).2.connections i).fd = (el.connections i).fd ∧
      ((elSendData el i data answer modOk).2.connections i).type = (el.connections i).type ∧
      (elSendData el i data answer modOk).2.kernel.isOpen = el.kernel.isOpen := by
  by_cases hpos : data.length = 0
  · simp [elSendData, hpos]
  by_cases hfits : elSendBufSize < data.length
  · simp [elSendData, hpos, hfits]
  obtain ⟨_, haccepts, -⟩ := elSendData_spec el i hpos hfits answer modOk
  exact ⟨haccepts.fd_eq, haccepts.type_eq, haccepts.isOpen⟩

/-- A write without a destination: the slot is idle, or the datagram is given
    up and `on_error` is called. -/
theorem defaultOnWriteTo_cases {el : EventLoop n} {i : Fin n}
    (hudp : isUdp (el.connections i).type = true) (s : EventScript) :
    (¬ Deferred (el.connections i) ∧
        (defaultOnWriteTo el i s : EventLoop n × List (Datagram Addr)).1 =
          stopWriting el i el.kernel s.modOk) ∨
      (Deferred (el.connections i) ∧
        (defaultOnWriteTo el i s : EventLoop n × List (Datagram Addr)).1 =
          callOnError (el.setConn i (clearSend (el.connections i))) i s.delOk) := by
  unfold defaultOnWriteTo handedByWrite Deferred
  dsimp only
  split_ifs with hidle
  · left
    exact ⟨by omega, rfl⟩
  · right
    refine ⟨by omega, ?_⟩
    dsimp only
    rw [hudp, esSendAllTo_none]
    rfl

theorem UdpInv.udpSlot (h : UdpInv el₀ i st) (hslot : UdpSlot el₀ i) : UdpSlot st.el i where
  isUdp := by rw [h.type_eq]; exact hslot.isUdp
  fd_nonneg := by rw [h.fd_eq]; exact hslot.fd_nonneg
  isOpen := by rw [h.fd_eq, h.isOpen]; exact hslot.isOpen

/-- **Step lemma.** -/
theorem UdpInv.step (hslot : UdpSlot el₀ i) (hinv : UdpInv el₀ i st) {label : UdpLabel Addr}
    (hok : Undeferred i st label) :
    UdpInv el₀ i (udpStep i st label) ∧
      (udpStep i st label).el.callbacks = st.el.callbacks := by
  cases label with
  | sendData data dest answer modOk =>
    have hfst := elSendDataTo_fst st.el i data true (some dest) answer modOk
    have haccepted := elSendDataTo_accepted st.el i data dest answer modOk
    obtain ⟨hfd, htype, hopen⟩ := elSendData_keeps st.el i data
      (kernelAnswer true (some dest) data.length answer) modOk
    have hcb := callbacks_elSendData st.el i data
      (kernelAnswer true (some dest) data.length answer) modOk
    rw [← hfst] at hfd htype hopen hcb
    refine ⟨⟨hfd.trans hinv.fd_eq, htype.trans hinv.type_eq, hopen.trans hinv.isOpen, ?_⟩, hcb⟩
    show (st.accepted ++ _).Sublist (datagrams (st.given ++ [(dest, data)]))
    unfold datagrams
    rw [List.map_append]
    exact hinv.delivered.append haccepted
  | writable s =>
    have hudp := (hinv.udpSlot hslot).isUdp
    have hnone := @defaultOnWriteTo_accepted _ Addr _ _ hudp s
    have hdelivered : (st.accepted ++ (defaultOnWriteTo st.el i s).2).Sublist
        (datagrams st.given) := by
      rw [hnone, List.append_nil]
      exact hinv.delivered
    have hkeeps : ∀ (el : EventLoop n),
        (defaultOnWriteTo st.el i s : EventLoop n × List (Datagram Addr)).1 = el →
        (el.connections i).fd = (st.el.connections i).fd →
        (el.connections i).type = (st.el.connections i).type →
        el.kernel.isOpen = st.el.kernel.isOpen → el.callbacks = st.el.callbacks →
        UdpInv el₀ i (udpStep i st (.writable s)) ∧
          (udpStep i st (.writable s)).el.callbacks = st.el.callbacks := by
      intro el heq hfd htype hopen hcb
      rw [← heq] at hfd htype hopen hcb
      exact ⟨⟨hfd.trans hinv.fd_eq, htype.trans hinv.type_eq, hopen.trans hinv.isOpen,
        hdelivered⟩, hcb⟩
    rcases @defaultOnWriteTo_cases _ Addr _ _ hudp s with ⟨-, heq⟩ | ⟨hdeferred, heq⟩
    · exact hkeeps _ heq (by simp [stopWriting, clearSend]) (by simp [stopWriting, clearSend])
        (quiet_modFd _ _ _ _).isOpen rfl
    · -- nobody is told, so the socket stays
      have hnull : st.el.callbacks.onError = false := hok hdeferred
      have hcall : callOnError (st.el.setConn i (clearSend (st.el.connections i))) i s.delOk =
          st.el.setConn i (clearSend (st.el.connections i)) := by
        rw [callOnError, if_neg (by simp [hnull])]
      rw [hcall] at heq
      exact hkeeps _ heq (by simp [clearSend]) (by simp [clearSend]) rfl rfl

theorem isOpen_elRemoveConnection {el : EventLoop n} {i : Fin n}
    (hlive : (el.connections i).type ≠ .free) (hfd : 0 ≤ (el.connections i).fd) (delOk : Bool) :
    (elRemoveConnection el i delOk).kernel.isOpen (el.connections i).fd = false := by
  unfold elRemoveConnection
  dsimp only
  rw [if_neg hlive, if_pos hfd]
  show (closeFd _ _).isOpen _ = false
  unfold closeFd
  split
  · simp [Kernel.record]
  · next hclosed => simpa [Kernel.record] using hclosed

/-- `on_error` closes the descriptor of a live slot, also if `on_close` is NULL. -/
theorem isOpen_callOnError {el : EventLoop n} {i : Fin n}
    (hlive : (el.connections i).type ≠ .free) (hfd : 0 ≤ (el.connections i).fd)
    (herror : el.callbacks.onError = true) (delOk : Bool) :
    (callOnError el i delOk).kernel.isOpen (el.connections i).fd = false := by
  rw [callOnError, if_pos herror]
  unfold defaultOnError callOnClose defaultOnClose
  dsimp only
  generalize hmarked : el.setConn i { el.connections i with state := .error } = marked
  have hconn : marked.connections i = { el.connections i with state := .error } := by
    rw [← hmarked, setConn_self]
  have hmlive : (marked.connections i).type ≠ .free := by rw [hconn]; exact hlive
  have hmfd : 0 ≤ (marked.connections i).fd := by rw [hconn]; exact hfd
  have hclosed := isOpen_elRemoveConnection hmlive hmfd delOk
  have hsame : (marked.connections i).fd = (el.connections i).fd := by rw [hconn]
  rw [hsame] at hclosed
  split
  · have hfree : ((elRemoveConnection marked i delOk).connections i).type = .free := by
      rw [(elRemoveConnection_of_live hmlive delOk).2]
      rfl
    rw [elRemoveConnection_of_free hfree]
    exact hclosed
  · exact hclosed

/-- A deferred datagram makes a writable event close the socket. -/
theorem udpStep_closes (hslot : UdpSlot st.el i) {s : EventScript}
    (hdeferred : Deferred (st.el.connections i)) (herror : st.el.callbacks.onError = true) :
    (udpStep i st (.writable s)).el.kernel.isOpen (st.el.connections i).fd = false := by
  rcases @defaultOnWriteTo_cases _ Addr _ _ hslot.isUdp s with ⟨hidle, -⟩ | ⟨-, heq⟩
  · exact absurd hdeferred hidle
  show (defaultOnWriteTo st.el i s).1.kernel.isOpen _ = false
  rw [heq]
  have hconn : (st.el.setConn i (clearSend (st.el.connections i))).connections i =
      clearSend (st.el.connections i) := setConn_self _ _ _
  have hlive : (st.el.connections i).type ≠ .free := by
    intro hfree
    have hudp := hslot.isUdp
    rw [hfree] at hudp
    cases hudp
  have hclosed := isOpen_callOnError (i := i)
    (show ((st.el.setConn i (clearSend (st.el.connections i))).connections i).type ≠ .free by
      rw [hconn]; exact hlive)
    (by rw [hconn]; exact hslot.fd_nonneg) herror s.delOk
  rw [hconn] at hclosed
  exact hclosed

end Step

/-! ## Section 3: The exact condition -/

theorem udpInv_run {el : EventLoop n} {i : Fin n} (hslot : UdpSlot el i)
    {labels : List (UdpLabel Addr)}
    (hok : ∀ pre label, pre ++ [label] <+: labels →
      Undeferred i (pre.foldl (udpStep i) ⟨el, [], []⟩) label) :
    UdpInv el i (labels.foldl (udpStep i) ⟨el, [], []⟩) := by
  induction labels using List.reverseRecOn with
  | nil => exact ⟨rfl, rfl, rfl, List.Sublist.refl _⟩
  | append_singleton labels label ih =>
    rw [List.foldl_append]
    refine (UdpInv.step hslot (ih ?_) (hok labels label List.prefix_rfl)).1
    intro pre l hpre
    exact hok pre l (hpre.trans (List.prefix_append _ _))

/-- **When datagrams can share the socket.**  On an open UDP socket, over any
    interleaving of calls of `el_send_data` and writable events, every
    datagram that the kernel accepts is a whole payload on its way to its own
    destination and the socket stays open, if and only if no writable event
    comes while a datagram is deferred (or `on_error` is NULL). -/
theorem datagrams_iff {el : EventLoop n} {i : Fin n} (hslot : UdpSlot el i)
    (labels : List (UdpLabel Addr)) :
    (∀ pre, pre <+: labels →
        UdpOk (el.connections i).fd (pre.foldl (udpStep i) ⟨el, [], []⟩)) ↔
      ∀ pre label, pre ++ [label] <+: labels →
        Undeferred i (pre.foldl (udpStep i) ⟨el, [], []⟩) label := by
  constructor
  · intro hall
    induction labels using List.reverseRecOn with
    | nil => simp
    | append_singleton labels l ih =>
      have hearlier := ih fun pre hpre => hall pre (hpre.trans (List.prefix_append _ _))
      have hinv := udpInv_run hslot hearlier
      have hlast := hall (labels ++ [l]) List.prefix_rfl
      intro pre label hpre
      rcases List.prefix_concat_iff.mp hpre with heq | hshort
      swap
      · exact hearlier pre label hshort
      obtain ⟨rfl, hl⟩ := List.append_inj' heq rfl
      obtain rfl := List.singleton_inj.mp hl
      cases label with
      | sendData data dest answer modOk => trivial
      | writable s =>
        intro hdeferred
        by_contra herror
        have hopen := hlast.isOpen
        rw [List.foldl_append, List.foldl_cons, List.foldl_nil, ← hinv.fd_eq] at hopen
        rw [udpStep_closes (hinv.udpSlot hslot) hdeferred (by simpa using herror)] at hopen
        cases hopen
  · intro hok pre hpre
    have hinv : UdpInv el i (pre.foldl (udpStep i) ⟨el, [], []⟩) := by
      apply udpInv_run hslot
      intro pre' label hpre'
      exact hok pre' label (hpre'.trans hpre)
    exact ⟨hinv.delivered, by rw [hinv.isOpen]; exact hslot.isOpen⟩

/-- One slot with a UDP socket on descriptor 5. -/
def udpLoop : EventLoop 1 where
  config := ⟨5060, 128, 1, 300, 100, 1024⟩
  callbacks := defaultCallbacks
  connections := fun _ => { Connection.zero with fd := 5, type := .udpSip }
  activeCount := 1
  sipListenFd := 5
  lastIdleCheck := 0
  kernel :=
    { isOpen := fun fd => fd = 5
      interest := fun fd => if fd = 5 then some defaultUdpEvents else none
      log := [] }

theorem udpSlot_udpLoop : UdpSlot udpLoop 0 where
  isUdp := rfl
  fd_nonneg := by decide
  isOpen := by decide

/-- A datagram is deferred, and replaced by the next one. -/
theorem datagrams_iff_replaced :
    UdpOk 5 ([.sendData [1, 2, 3] 7 .again true, .sendData [4, 5] 8 (.accepted 2) true].foldl
      (udpStep 0) (⟨udpLoop, [], []⟩ : UdpState 1 Nat)) := by
  refine (datagrams_iff udpSlot_udpLoop _).mpr ?_ _ List.prefix_rfl
  intro pre label hpre
  have hmem := hpre.subset (List.mem_append_right pre (List.mem_singleton_self label))
  cases label with
  | sendData data dest answer modOk => trivial
  | writable s => simp at hmem

/-- **A deferred datagram closes the socket** of all peers at the next
    writable event. -/
theorem deferred_closes_socket :
    ¬ ∀ (n : Nat) (el : EventLoop n) (i : Fin n) (labels : List (UdpLabel Nat)),
      el.callbacks = defaultCallbacks → UdpSlot el i →
      UdpOk (el.connections i).fd (labels.foldl (udpStep i) ⟨el, [], []⟩) := by
  intro h
  have hopen := (h 1 udpLoop 0 [.sendData [1, 2, 3] 7 .again true, .writable (writes 3)] rfl
    udpSlot_udpLoop).isOpen
  revert hopen
  decide

end EpollServer
