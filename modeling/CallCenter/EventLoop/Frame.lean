import CallCenter.EventLoop.CallbackTrace

/-! # What a Step Leaves Alone

    Frame lemmas of the event loop.

    * `Reads`, `Mute`: which bytes a call reads from a descriptor.
    * `Local`: a function of one slot that reads nothing.
    * `Elsewhere`: a step that neither touches slot `i` nor reads from its
      descriptor; `elsewhere_dispatchEvent` for the events of other slots. -/

namespace EpollServer

open Descriptors

variable {n : Nat}

/-! ## Section 1: What is read -/

/-- The bytes read from a descriptor, in order. -/
def receivedOn (fd : Int) (log : List Event) : List UInt8 :=
  log.flatMap fun
    | .received fd' data => if fd' = fd then data else []
    | _ => []

/-- What the event loop appended to the log since `el`. -/
def logSince (el el' : EventLoop n) : List Event :=
  el'.kernel.log.drop el.kernel.log.length

@[simp] theorem receivedOn_append (fd : Int) (log events : List Event) :
    receivedOn fd (log ++ events) = receivedOn fd log ++ receivedOn fd events :=
  List.flatMap_append

theorem receivedOn_received (g fd : Int) (data : List UInt8) :
    receivedOn g [.received fd data] = if fd = g then data else [] := by
  simp [receivedOn]

/-- The bytes read from `fd` between two states of the kernel. -/
def Reads (fd : Int) (k k' : Kernel) (data : List UInt8) : Prop :=
  ∃ events, k'.log = k.log ++ events ∧ receivedOn fd events = data

theorem Reads.refl (fd : Int) (k : Kernel) : Reads fd k k [] := ⟨[], by simp, rfl⟩

theorem Reads.trans {fd : Int} {k k' k'' : Kernel} {data data' : List UInt8}
    (h : Reads fd k k' data) (h' : Reads fd k' k'' data') : Reads fd k k'' (data ++ data') := by
  obtain ⟨events, hlog, hread⟩ := h
  obtain ⟨events', hlog', hread'⟩ := h'
  refine ⟨events ++ events', by rw [hlog', hlog, List.append_assoc], ?_⟩
  rw [receivedOn_append, hread, hread']

theorem Reads.logSince {fd : Int} {el el' : EventLoop n} {data : List UInt8}
    (h : Reads fd el.kernel el'.kernel data) : receivedOn fd (logSince el el') = data := by
  obtain ⟨events, hlog, hread⟩ := h
  rw [EpollServer.logSince, hlog, List.drop_left, hread]

/-- Nothing is read from any descriptor. -/
def Mute (k k' : Kernel) : Prop := ∀ fd, Reads fd k k' []

theorem Mute.refl (k : Kernel) : Mute k k := fun fd => Reads.refl fd k

theorem Mute.trans {k k' k'' : Kernel} (h : Mute k k') (h' : Mute k' k'') : Mute k k'' :=
  fun fd => (h fd).trans (h' fd)

theorem mute_modFd (k : Kernel) (fd : Int) (mask : Mask) (ok : Bool) :
    Mute k (modFd k fd mask ok).2 := by
  unfold modFd
  split
  · exact fun _ => ⟨[.modified fd mask], rfl, rfl⟩
  · exact Mute.refl k

theorem mute_of_modFd {k k' : Kernel} {fd : Int} {mask : Mask} {ok b : Bool}
    (h : modFd k fd mask ok = (b, k')) : Mute k k' := by
  have hmute := mute_modFd k fd mask ok
  rwa [h] at hmute

theorem mute_delFd (k : Kernel) (fd : Int) (ok : Bool) : Mute k (delFd k fd ok).2 := by
  unfold delFd
  split
  · exact fun _ => ⟨[.removed fd], rfl, rfl⟩
  · exact Mute.refl k

theorem mute_closeFd (k : Kernel) (fd : Int) : Mute k (closeFd k fd) := by
  unfold closeFd
  split <;> exact fun _ => ⟨[.closed fd], rfl, rfl⟩

theorem mute_openFd (k : Kernel) (fd : Int) : Mute k (openFd k fd).2 := by
  unfold openFd
  split
  · exact fun _ => ⟨[.opened fd], rfl, rfl⟩
  · exact Mute.refl k

theorem mute_addFd (k : Kernel) (fd : Int) (mask : Mask) (ok : Bool) :
    Mute k (addFd k fd mask ok).2 := by
  unfold addFd
  split
  · exact fun _ => ⟨[.added fd], rfl, rfl⟩
  · exact Mute.refl k

theorem mute_esSendAll {k k' : Kernel} {fd : Int} {buf : List UInt8} {offset len sent : Int}
    {answer : SendAnswer} {code : EsSend}
    (h : esSendAll k fd buf offset len answer = (code, sent, k')) : Mute k k' := by
  unfold esSendAll at h
  split_ifs at h
  · cases h
    exact Mute.refl k
  · cases h
    exact Mute.refl k
  · cases answer with
    | accepted count =>
      cases h
      exact fun _ => ⟨[.sent fd _], rfl, rfl⟩
    | again | interrupted | failed =>
      cases h
      exact Mute.refl k

/-! ## Section 2: Functions of one slot -/

/-- A function of slot `j` that reads nothing. -/
structure Local (el el' : EventLoop n) (j : Fin n) : Prop where
  mute : Mute el.kernel el'.kernel
  others : ∀ k, k ≠ j → el'.connections k = el.connections k
  config : el'.config = el.config

section Local

variable {el el' el'' : EventLoop n} {j : Fin n}

theorem Local.refl (el : EventLoop n) (j : Fin n) : Local el el j :=
  ⟨Mute.refl _, fun _ _ => rfl, rfl⟩

theorem Local.trans (h : Local el el' j) (h' : Local el' el'' j) : Local el el'' j where
  mute := h.mute.trans h'.mute
  others := fun k hk => (h'.others k hk).trans (h.others k hk)
  config := h'.config.trans h.config

/-- Slot `j` changes, and the kernel without a read. -/
theorem Local.edit (c : Connection) {kernel : Kernel} (h : Mute el.kernel kernel) :
    Local el { el.setConn j c with kernel := kernel } j :=
  ⟨h, fun _ hk => setConn_ne el c hk, rfl⟩

theorem Local.setConn (c : Connection) : Local el (el.setConn j c) j :=
  Local.edit c (Mute.refl _)

theorem local_elRemoveConnection (el : EventLoop n) (j : Fin n) (delOk : Bool) :
    Local el (elRemoveConnection el j delOk) j := by
  unfold elRemoveConnection
  dsimp only
  split
  · exact Local.refl el j
  · refine ⟨?_, fun _ hk => setConn_ne el _ hk, rfl⟩
    dsimp only
    -- the descriptor is unregistered and closed, if there is one
    split
    · exact (mute_delFd _ _ _).trans (mute_closeFd _ _)
    · exact Mute.refl _

theorem local_callOnClose (el : EventLoop n) (j : Fin n) (delOk : Bool) :
    Local el (callOnClose el j delOk) j := by
  unfold callOnClose
  split
  · exact local_elRemoveConnection el j delOk
  · exact Local.refl el j

theorem local_defaultOnError (el : EventLoop n) (j : Fin n) (delOk : Bool) :
    Local el (defaultOnError el j delOk) j :=
  ((Local.setConn _).trans (local_callOnClose _ j delOk)).trans
    (local_elRemoveConnection _ j delOk)

theorem local_callOnError (el : EventLoop n) (j : Fin n) (delOk : Bool) :
    Local el (callOnError el j delOk) j := by
  unfold callOnError
  split
  · exact local_defaultOnError el j delOk
  · exact Local.refl el j

theorem local_defaultOnWrite (el : EventLoop n) (j : Fin n) (s : EventScript) :
    Local el (defaultOnWrite el j s) j := by
  simp only [defaultOnWrite]
  split
  -- nothing is pending: `EPOLLOUT` is taken out of the events
  · exact Local.edit _ (mute_modFd _ _ _ _)
  split
  -- the send fails
  · next hsend => exact (Local.edit _ (mute_esSendAll hsend)).trans (local_callOnError _ j s.delOk)
  · next hsend =>
    have hmute := mute_esSendAll hsend
    split
    · exact Local.edit _ (hmute.trans (mute_modFd _ _ _ _))
    · exact Local.edit _ hmute

theorem local_elSendData (el : EventLoop n) (j : Fin n) (data : List UInt8) (answer : SendAnswer)
    (modOk : Bool) : Local el (elSendData el j data answer modOk).2 j := by
  simp only [elSendData]
  split
  · exact Local.refl el j
  split
  · exact Local.refl el j
  split
  · next hsend => exact Local.edit _ (mute_esSendAll hsend)
  · next hsend =>
    have hmute := mute_esSendAll hsend
    split
    · next hmod => exact Local.edit _ (hmute.trans (mute_of_modFd hmod))
    · next hmod => exact Local.edit _ (hmute.trans (mute_of_modFd hmod))
  · next hsend => exact Local.edit _ (mute_esSendAll hsend)

theorem local_sweepSlot (now : Int) (delOk : Fin n → Bool) (el : EventLoop n) (j : Fin n) :
    Local el (sweepSlot now delOk el j) j := by
  simp only [sweepSlot]
  -- only an active slot that has been idle for too long is touched
  split_ifs
  · exact Local.refl el j
  · exact Local.refl el j
  · exact Local.refl el j
  · exact (local_callOnClose el j _).trans (local_elRemoveConnection _ j _)
  · exact Local.refl el j

end Local

/-! ### `handle_client_event` under the default callbacks -/

/-- The slot has been looked at. -/
def touch (el : EventLoop n) (j : Fin n) (now : Int) : EventLoop n :=
  el.setConn j { el.connections j with lastActive := now }

/-- `on_write`, if the event is writable. -/
def afterWrite (el : EventLoop n) (j : Fin n) (events : Mask) (s : EventScript) : EventLoop n :=
  if has events EPOLLOUT then defaultOnWrite el j s else el

theorem handleClientEvent_eq {el : EventLoop n} (hcb : el.callbacks = defaultCallbacks)
    (j : Fin n) (events : Mask) (s : EventScript) :
    handleClientEvent el j events s =
      if (el.connections j).state ≠ .active then el
      else if has events (EPOLLERR ||| EPOLLHUP) then defaultOnError (touch el j s.now) j s.delOk
      else if has events EPOLLRDHUP then elRemoveConnection (touch el j s.now) j s.delOk
      else if has events EPOLLIN then
        callOnRead (afterWrite (touch el j s.now) j events s) j s
      else afterWrite (touch el j s.now) j events s := by
  simp only [handleClientEvent, setConn_callbacks, hcb, defaultCallbacks, and_true]
  rfl

theorem callOnRead_eq {el : EventLoop n} (hcb : el.callbacks = defaultCallbacks) (j : Fin n)
    (s : EventScript) : callOnRead el j s = elDefaultOnRead el j s := by
  simp only [callOnRead, hcb, defaultCallbacks]

section Touch

variable {el : EventLoop n} {j : Fin n}

theorem local_touch (el : EventLoop n) (j : Fin n) (now : Int) : Local el (touch el j now) j :=
  Local.setConn _

theorem tableInv_touch (hinv : TableInv el) (j : Fin n) (now : Int) :
    TableInv (touch el j now) :=
  hinv.edit j rfl rfl fun hfree => (hinv.free_clean j hfree).2

theorem local_afterWrite (el : EventLoop n) (j : Fin n) (events : Mask) (s : EventScript) :
    Local el (afterWrite el j events s) j := by
  unfold afterWrite
  split
  · exact local_defaultOnWrite el j s
  · exact Local.refl el j

theorem tableInv_afterWrite (hinv : TableInv el) (j : Fin n) (events : Mask) (s : EventScript) :
    TableInv (afterWrite el j events s) := by
  unfold afterWrite
  split
  · exact tableInv_defaultOnWrite hinv j s
  · exact hinv

end Touch

/-! ## Section 3: Steps of other slots -/

/-- Slot `i` stays as it is, and nothing is read from its descriptor. -/
structure Elsewhere (el el' : EventLoop n) (i : Fin n) : Prop where
  slot : el'.connections i = el.connections i
  reads : Reads (el.connections i).fd el.kernel el'.kernel []

section Elsewhere

variable {el el' el'' : EventLoop n} {i j : Fin n}

theorem Elsewhere.refl (el : EventLoop n) (i : Fin n) : Elsewhere el el i :=
  ⟨rfl, Reads.refl _ _⟩

theorem Elsewhere.trans (h : Elsewhere el el' i) (h' : Elsewhere el' el'' i) :
    Elsewhere el el'' i where
  slot := h'.slot.trans h.slot
  reads := h.reads.trans (h.slot ▸ h'.reads)

theorem Local.elsewhere (h : Local el el' j) (hij : i ≠ j) : Elsewhere el el' i :=
  ⟨h.others i hij, h.mute _⟩

theorem Elsewhere.of_mute {kernel : Kernel} (h : Mute el.kernel kernel) :
    Elsewhere el { el with kernel := kernel } i := ⟨rfl, h _⟩

theorem reads_record {fd g : Int} (hne : g ≠ fd) (k : Kernel) (data : List UInt8) :
    Reads fd k (k.record (.received g data)) [] := by
  refine ⟨[.received g data], rfl, ?_⟩
  rw [receivedOn_received, if_neg hne]

theorem reads_readDatagrams {fd g : Int} (hne : g ≠ fd) (k : Kernel)
    (answers : List ReadAnswer) : Reads fd k (readDatagrams k g answers) [] := by
  induction answers generalizing k with
  | nil => exact Reads.refl fd k
  | cons answer rest ih =>
    cases answer with
    | bytes data replies => exact (reads_record hne k data).trans (ih _)
    | interrupted => exact ih k
    | again | failed => exact Reads.refl fd k

theorem elsewhere_readStream (hij : i ≠ j)
    (hne : (el.connections j).fd ≠ (el.connections i).fd) (delOk : Bool)
    (answers : List ReadAnswer) : Elsewhere el (readStream el j delOk answers) i := by
  induction answers generalizing el with
  | nil => exact Elsewhere.refl el i
  | cons answer rest ih =>
    cases answer with
    | bytes data replies =>
      cases data with
      | nil => exact (local_callOnClose el j delOk).elsewhere hij
      | cons b data =>
        have hread : Elsewhere el
            { el with
              kernel := el.kernel.record (.received (el.connections j).fd (b :: data)) } i :=
          -- the descriptor is that of `j`, which is another one
          ⟨rfl, reads_record hne _ _⟩
        exact hread.trans (ih hne)
    | again => exact Elsewhere.refl el i
    | interrupted => exact ih hne
    | failed => exact (local_callOnError el j delOk).elsewhere hij

theorem elsewhere_callOnRead (hinv : TableInv el) (hij : i ≠ j)
    (hlive : (el.connections i).type ≠ .free) (s : EventScript) :
    Elsewhere el (callOnRead el j s) i := by
  have hne := (hinv.fd_ne hij hlive).symm
  rw [callOnRead_eq hinv.callbacks]
  simp only [elDefaultOnRead]
  -- datagrams leave the slots alone, a stream may close slot `j`
  split
  · exact ⟨rfl, reads_readDatagrams hne _ _⟩
  · exact elsewhere_readStream hij hne s.delOk _

theorem elsewhere_handleClientEvent (hinv : TableInv el) (hij : i ≠ j)
    (hlive : (el.connections i).type ≠ .free) (events : Mask) (s : EventScript) :
    Elsewhere el (handleClientEvent el j events s) i := by
  have htouch := local_touch el j s.now
  have hwrite := htouch.trans (local_afterWrite _ j events s)
  have htable := tableInv_afterWrite (tableInv_touch hinv j s.now) j events s
  rw [handleClientEvent_eq hinv.callbacks]
  split
  · exact Elsewhere.refl el i
  split
  · exact (htouch.trans (local_defaultOnError _ j s.delOk)).elsewhere hij
  split
  · exact (htouch.trans (local_elRemoveConnection _ j s.delOk)).elsewhere hij
  have hslot := hwrite.elsewhere hij
  split
  · exact hslot.trans (elsewhere_callOnRead htable hij (by rw [hslot.slot]; exact hlive) s)
  · exact hslot

/-- A new connection goes to a slot that was free. -/
theorem elsewhere_elAddConnection (hlive : (el.connections i).type ≠ .free) (fd : Int)
    (type : ConnType) (events : Mask) (now : Int) (addOk : Bool) :
    Elsewhere el (elAddConnection el fd type events now addOk).2 i := by
  unfold elAddConnection
  split
  · exact Elsewhere.refl el i
  split
  · exact Elsewhere.refl el i
  split
  · exact Elsewhere.refl el i
  next k el' halloc =>
    obtain ⟨hfree, rfl⟩ := allocConnection_spec halloc
    have hik : i ≠ k := by
      intro heq
      rw [heq] at hlive
      exact hlive hfree
    simp only [setConn_self, setConn_kernel, setConn_setConn, setConn_activeCount]
    have hmute := mute_addFd el.kernel fd events addOk
    rcases hadd : addFd el.kernel fd events addOk with ⟨ok, kernel⟩
    rw [hadd] at hmute
    cases ok with
    -- the slot is freed again
    | false => exact (Local.edit _ hmute).elsewhere hik
    | true => exact ⟨setConn_ne el _ hik, hmute _⟩

theorem elsewhere_defaultOnAccept (hlive : (el.connections i).type ≠ .free) (fd now : Int)
    (addOk : Bool) : Elsewhere el (defaultOnAccept el fd now addOk) i := by
  have hadd := elsewhere_elAddConnection hlive fd .tcpClient defaultTcpEvents now addOk
  unfold defaultOnAccept
  split
  · next heq =>
    rw [heq] at hadd
    exact hadd.trans (Elsewhere.of_mute (mute_closeFd _ _))
  · next heq =>
    rw [heq] at hadd
    exact hadd

theorem elsewhere_handleAccept (hlive : (el.connections i).type ≠ .free) (listenFd : Int)
    (answers : List AcceptAnswer) : Elsewhere el (handleAccept el listenFd answers) i := by
  induction answers generalizing el with
  | nil => exact Elsewhere.refl el i
  | cons answer rest ih =>
    cases answer with
    | again | failed => exact Elsewhere.refl el i
    | interrupted => exact ih hlive
    | accepted fd nonblockOk now addOk =>
      simp only [handleAccept]
      have hopen := mute_openFd el.kernel fd
      rcases hok : openFd el.kernel fd with ⟨ok, kernel⟩
      rw [hok] at hopen
      cases ok with
      | false => exact Elsewhere.refl el i
      | true =>
        have hopened : Elsewhere el { el with kernel := kernel } i := Elsewhere.of_mute hopen
        have hclosed : Elsewhere el { el with kernel := closeFd kernel fd } i :=
          Elsewhere.of_mute (hopen.trans (mute_closeFd kernel fd))
        dsimp only
        split
        -- the table is full
        · exact hclosed.trans (ih hlive)
        split
        -- the descriptor could not be set to non-blocking
        · exact hclosed.trans (ih hlive)
        split
        · have haccept : Elsewhere { el with kernel := kernel }
              (defaultOnAccept { el with kernel := kernel } fd now addOk) i := by
            apply elsewhere_defaultOnAccept
            exact hlive
          have hsofar := hopened.trans haccept
          exact hsofar.trans (ih (by rw [hsofar.slot]; exact hlive))
        · exact hopened.trans (ih hlive)

/-- An event of another slot. -/
theorem elsewhere_dispatchEvent (hinv : TableInv el) (hij : i ≠ j)
    (hlive : (el.connections i).type ≠ .free) (events : Mask) (s : EventScript) :
    Elsewhere el (dispatchEvent el j events s) i := by
  simp only [dispatchEvent]
  split
  · exact Elsewhere.refl el i
  split
  · split
    · exact elsewhere_handleAccept hlive _ _
    · exact Elsewhere.refl el i
  · exact elsewhere_handleClientEvent hinv hij hlive events s

end Elsewhere

end EpollServer
