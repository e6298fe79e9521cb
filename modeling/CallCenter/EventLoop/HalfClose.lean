import CallCenter.EventLoop.Frame
import CallCenter.Framework.Transition

/-! # A Peer That Shuts Down Its Side

    The bytes that a TCP client sends wait in the receive queue of its
    descriptor until `on_read` takes them.  A hang-up comes in the same event
    as the last of them, and `handle_client_event` looks at it first.

    The state is the event loop with the queue of one client connection; the
    loop's steps for any slot, `el_send_data`, arrivals and the shutdown come
    in any order, and each event has any flags that the state of the socket
    allows.  Bytes that arrive while `on_read` is reading are taken to have
    arrived before it began, which leaves every sequence of answers possible.

    * `dispatchEvent_client`, `idleCheck_client`: what a step of the server
      makes of the connection and its queue.
    * `all_read_iff`: in which runs every byte is read before the slot is
      released.
    * `unread_dropped`: a run in which the last bytes are not. -/

namespace EpollServer

open Descriptors Transition

variable {n : Nat}

/-! ## Section 1: The peer and its queue -/

structure PeerState (n : Nat) where
  el : EventLoop n
  /-- The bytes that the peer has sent. -/
  sent : List UInt8
  /-- Those of them that are still in the receive queue. -/
  unread : List UInt8
  /-- The peer has shut down its side. -/
  fin : Bool

/-- `data` are bytes that arrive; `send` is a call of `el_send_data`. -/
inductive PeerLabel (n : Nat) where
  | arrive (data : List UInt8)
  | shutdown
  | send (j : Fin n) (data : List UInt8) (answer : SendAnswer) (modOk : Bool)
  | loop (op : LoopOp n)

/-- The server has made a step. -/
def PeerState.serve (i : Fin n) (s : PeerState n) (el : EventLoop n) : PeerState n :=
  let read := receivedOn (s.el.connections i).fd (logSince s.el el)
  { s with el, unread := s.unread.drop read.length }

def peerStep (i : Fin n) (s : PeerState n) : PeerLabel n → PeerState n
  | .arrive data => { s with sent := s.sent ++ data, unread := s.unread ++ data }
  | .shutdown => { s with fin := true }
  | .send j data answer modOk => s.serve i (elSendData s.el j data answer modOk).2
  | .loop op => s.serve i (loopStep s.el op)

/-- Slot `i` has the client connection. -/
def Held (el : EventLoop n) (i : Fin n) : Prop := (el.connections i).type = .tcpClient

instance (el : EventLoop n) (i : Fin n) : Decidable (Held el i) :=
  inferInstanceAs (Decidable (_ = _))

/-- What `read` answers until it has no bytes left: all that is in the
    queue, in pieces of any size; then that there is no more yet, the end of
    the stream behind a shutdown, or an error. -/
def Drains (unread : List UInt8) (fin : Bool) : List ReadAnswer → Prop
  | [] => False
  | .again :: _ => unread = [] ∧ fin = false
  | .interrupted :: rest => Drains unread fin rest
  | .failed :: _ => unread = []
  | .bytes [] _ :: _ => unread = [] ∧ fin = true
  | .bytes (b :: data) _ :: rest =>
    (b :: data) <+: unread ∧ Drains (unread.drop (data.length + 1)) fin rest

/-- An event of slot `i` reports a shutdown only after it, and its reads drain
    the queue.  Once the slot is released the connection sees no more steps
    of the server. -/
def Admits (i : Fin n) (s : PeerState n) : PeerLabel n → Prop
  | .arrive _ => s.fin = false
  | .shutdown => s.fin = false
  | .send _ _ _ _ => Held s.el i
  | .loop (.event j events script) => Held s.el i ∧
    (j = i → (has events EPOLLRDHUP = true → s.fin = true) ∧ Drains s.unread s.fin script.reads)
  | .loop (.idleCheck _ _ _) => Held s.el i

/-- The flags make `handle_client_event` close the connection before it reads. -/
def ClosesFirst (el : EventLoop n) (i : Fin n) (events : Mask) (script : EventScript) : Prop :=
  has events (EPOLLERR ||| EPOLLHUP) = true ∨ has events EPOLLRDHUP = true ∨
    has events EPOLLOUT = true ∧ WriteFails el i script

/-- No byte is left in the queue of a slot that is closed before it is read,
    by an event or by the idle sweep, and none arrives after the release. -/
def Lossless (i : Fin n) (s : PeerState n) : PeerLabel n → Prop
  | .arrive data => Held s.el i ∨ data = []
  | .shutdown => True
  | .send _ _ _ _ => True
  | .loop (.event j events script) =>
    j = i → ClosesFirst s.el i events script → s.unread = []
  | .loop (.idleCheck now sweepNow _) =>
    idleCheckDue s.el now → s.el.config.idleTimeoutSec ≤ idleSec sweepNow (s.el.connections i) →
      s.unread = []

/-- Once the slot is released, everything that the peer has sent was read. -/
def AllRead (i : Fin n) (el₀ : EventLoop n) (s : PeerState n) : Prop :=
  ¬ Held s.el i → receivedOn (el₀.connections i).fd (logSince el₀ s.el) = s.sent

/-! ## Section 2: Events of the client's slot -/

/-- A client connection in its slot, ready for events. -/
structure Client (el : EventLoop n) (i : Fin n) : Prop where
  table : TableInv el
  held : Held el i
  active : (el.connections i).state = .active

/-- The slot has the connection that it had. -/
structure SameClient (el el' : EventLoop n) (i : Fin n) : Prop where
  fd_eq : (el'.connections i).fd = (el.connections i).fd
  type_eq : (el'.connections i).type = (el.connections i).type
  state_eq : (el'.connections i).state = (el.connections i).state

/-- A step after which `rest` is left of the bytes in the queue; the
    connection is still there or its slot was released. -/
structure Served (i : Fin n) (unread rest : List UInt8) (el el' : EventLoop n) : Prop where
  reads : ∃ data, unread = data ++ rest ∧ Reads (el.connections i).fd el.kernel el'.kernel data
  slot : SameClient el el' i ∨ (el'.connections i).type = .free

section Own

variable {el el' el'' : EventLoop n} {i : Fin n} {unread : List UInt8} {fin : Bool}
  {s : EventScript}

theorem Client.live (h : Client el i) : (el.connections i).type ≠ .free := by
  have htype : (el.connections i).type = .tcpClient := h.held
  rw [htype]
  decide

theorem not_held_of_free (hfree : (el.connections i).type = .free) : ¬ Held el i := by
  intro hheld
  rw [Held, hfree] at hheld
  cases hheld

theorem SameClient.refl (el : EventLoop n) (i : Fin n) : SameClient el el i := ⟨rfl, rfl, rfl⟩

theorem SameClient.held (h : SameClient el el' i) (hheld : Held el i) : Held el' i :=
  h.type_eq.trans hheld

theorem SameClient.client (h : SameClient el el' i) (hclient : Client el i)
    (htable : TableInv el') : Client el' i :=
  ⟨htable, h.held hclient.held, h.state_eq.trans hclient.active⟩

theorem SameClient.trans (h : SameClient el el' i) (h' : SameClient el' el'' i) :
    SameClient el el'' i :=
  ⟨h'.fd_eq.trans h.fd_eq, h'.type_eq.trans h.type_eq, h'.state_eq.trans h.state_eq⟩

theorem Served.of_mute (hmute : Mute el.kernel el'.kernel)
    (hslot : SameClient el el' i ∨ (el'.connections i).type = .free) :
    Served i unread unread el el' :=
  ⟨⟨[], rfl, hmute _⟩, hslot⟩

/-- One step after another, the connection being still there in between. -/
theorem Served.trans {mid rest : List UInt8} (h : Served i unread mid el el')
    (hsame : SameClient el el' i) (h' : Served i mid rest el' el'') :
    Served i unread rest el el'' := by
  obtain ⟨data, rfl, hreads⟩ := h.reads
  obtain ⟨data', rfl, hreads'⟩ := h'.reads
  rw [hsame.fd_eq] at hreads'
  refine ⟨⟨data ++ data', by rw [List.append_assoc], hreads.trans hreads'⟩, ?_⟩
  exact h'.slot.imp hsame.trans id

theorem elRemoveConnection_free (el : EventLoop n) (i : Fin n) (delOk : Bool) :
    ((elRemoveConnection el i delOk).connections i).type = .free := by
  rw [type_elRemoveConnection, if_pos rfl]

theorem defaultOnError_free (el : EventLoop n) (i : Fin n) (delOk : Bool) :
    ((defaultOnError el i delOk).connections i).type = .free :=
  elRemoveConnection_free _ i delOk

theorem callOnClose_free (hcb : el.callbacks = defaultCallbacks) (delOk : Bool) :
    ((callOnClose el i delOk).connections i).type = .free := by
  have hset : el.callbacks.onClose = true := by rw [hcb]; rfl
  rw [callOnClose, if_pos hset]
  exact elRemoveConnection_free el i delOk

theorem callOnError_free (hcb : el.callbacks = defaultCallbacks) (delOk : Bool) :
    ((callOnError el i delOk).connections i).type = .free := by
  have hset : el.callbacks.onError = true := by rw [hcb]; rfl
  rw [callOnError, if_pos hset]
  exact defaultOnError_free el i delOk

/-! ### The write -/

theorem sameClient_touch (el : EventLoop n) (i : Fin n) (now : Int) :
    SameClient el (touch el i now) i := by
  unfold touch
  exact ⟨by simp, by simp, by simp⟩

theorem sameClient_defaultOnWrite (hfails : ¬ WriteFails el i s) :
    SameClient el (defaultOnWrite el i s) i := by
  simp only [defaultOnWrite]
  split
  · exact ⟨by simp, by simp, by simp⟩
  next hpending =>
    have herr := sendErr_iff_writeFails hpending s
    split
    · next hsend =>
      rw [hsend] at herr
      exact absurd (herr.mp rfl) hfails
    · split
      · exact ⟨by simp, by simp, by simp⟩
      · exact ⟨by simp, by simp, by simp⟩

theorem free_defaultOnWrite (hcb : el.callbacks = defaultCallbacks)
    (hlive : (el.connections i).type ≠ .free) (hfails : WriteFails el i s) :
    ((defaultOnWrite el i s).connections i).type = .free := by
  rw [← defaultOnWriteTraced_snd]
  exact (defaultOnWriteTraced_live hcb hlive s).2.1.mpr hfails

/-! ### The reads -/

/-- Reading drains the queue; at the end of the stream and behind an error
    the slot is released. -/
theorem readStream_drains (hcb : el.callbacks = defaultCallbacks) (delOk : Bool)
    {answers : List ReadAnswer} (hdrains : Drains unread fin answers) :
    Served i unread [] el (readStream el i delOk answers) := by
  induction answers generalizing el unread with
  | nil => exact hdrains.elim
  | cons answer rest ih =>
    cases answer with
    | again =>
      obtain ⟨rfl, -⟩ := hdrains
      exact Served.of_mute (Mute.refl _) (Or.inl (SameClient.refl el i))
    | interrupted => exact ih hcb hdrains
    | failed =>
      obtain rfl : unread = [] := hdrains
      exact Served.of_mute (local_callOnError el i delOk).mute (Or.inr (callOnError_free hcb delOk))
    | bytes data replies =>
      cases data with
      -- the end of the stream comes behind the last byte
      | nil =>
        obtain ⟨rfl, -⟩ := hdrains
        exact Served.of_mute (local_callOnClose el i delOk).mute
          (Or.inr (callOnClose_free hcb delOk))
      | cons b data =>
        obtain ⟨⟨left, rfl⟩, hrest⟩ := hdrains
        have hleft : ((b :: data) ++ left).drop (data.length + 1) = left := List.drop_left
        rw [hleft] at hrest
        let read : EventLoop n :=
          { el with kernel := el.kernel.record (.received (el.connections i).fd (b :: data)) }
        have hfirst : Served i ((b :: data) ++ left) left el read := by
          refine ⟨⟨b :: data, rfl, [.received (el.connections i).fd (b :: data)], rfl, ?_⟩, ?_⟩
          · rw [receivedOn_received, if_pos rfl]
          · exact Or.inl ⟨rfl, rfl, rfl⟩
        exact hfirst.trans ⟨rfl, rfl, rfl⟩ (ih hcb hrest)

/-- `on_read` for the client's slot. -/
theorem callOnRead_client (hclient : Client el i) (hdrains : Drains unread fin s.reads) :
    Served i unread [] el (callOnRead el i s) := by
  have htype : (el.connections i).type = .tcpClient := hclient.held
  have hopen := hclient.table.isOpen_of_live hclient.live
  rw [callOnRead_eq hclient.table.callbacks]
  simp only [elDefaultOnRead, readsFrom, hopen, htype, isUdp]
  exact readStream_drains hclient.table.callbacks s.delOk hdrains

/-- Descriptor -1 of a slot that the write has released gives nothing. -/
theorem callOnRead_released (htable : TableInv el) (hfree : (el.connections i).type = .free) :
    Mute el.kernel (callOnRead el i s).kernel ∧
      ((callOnRead el i s).connections i).type = .free := by
  have hclosed : el.kernel.isOpen (el.connections i).fd = false := by
    rw [(htable.free_clean i hfree).1]
    by_contra hopen
    have hnonneg := htable.kernel.open_nonneg (-1) (by simpa using hopen)
    omega
  rw [callOnRead_eq htable.callbacks]
  simp only [elDefaultOnRead, readsFrom, hclosed, hfree, isUdp]
  exact ⟨(local_callOnError el i s.delOk).mute, callOnError_free htable.callbacks s.delOk⟩

/-- What is kept of the queue is nothing, or the connection is still there,
    just if no byte was left when the slot was closed unread. -/
def Keeps (i : Fin n) (unread rest : List UInt8) (el' : EventLoop n) (closed : Prop) : Prop :=
  Held el' i ∨ rest = [] ↔ closed → unread = []

/-- A slot that is closed unread keeps the queue as it is. -/
theorem exists_served_of_closed {closed : Prop} (hmute : Mute el.kernel el'.kernel)
    (hfree : (el'.connections i).type = .free) (hclosed : closed) :
    ∃ rest, Served i unread rest el el' ∧ Keeps i unread rest el' closed := by
  have hnot := not_held_of_free hfree
  refine ⟨unread, Served.of_mute hmute (Or.inr hfree), ?_⟩
  unfold Keeps
  tauto

/-- So does one that is left alone. -/
theorem exists_served_of_spared {closed : Prop} (hmute : Mute el.kernel el'.kernel)
    (hsame : SameClient el el' i) (hheld : Held el i) (hspared : ¬ closed) :
    ∃ rest, Served i unread rest el el' ∧ Keeps i unread rest el' closed := by
  have hheld' := hsame.held hheld
  refine ⟨unread, Served.of_mute hmute (Or.inl hsame), ?_⟩
  unfold Keeps
  tauto

/-- **An event of the client's slot.** -/
theorem dispatchEvent_client (hclient : Client el i) (events : Mask)
    (hdrains : Drains unread fin s.reads) :
    ∃ rest, Served i unread rest el (dispatchEvent el i events s) ∧
      Keeps i unread rest (dispatchEvent el i events s) (ClosesFirst el i events s) := by
  have htype : (el.connections i).type = .tcpClient := hclient.held
  have hdispatch : dispatchEvent el i events s = handleClientEvent el i events s := by
    simp [dispatchEvent, hclient.active, htype]
  have hcb := hclient.table.callbacks
  have htouch := local_touch el i s.now
  have hsame := sameClient_touch el i s.now
  have htouched : Client (touch el i s.now) i :=
    hsame.client hclient (tableInv_touch hclient.table i s.now)
  rw [hdispatch, handleClientEvent_eq hcb, if_neg (not_not_intro hclient.active)]
  -- the flags in the order in which `handle_client_event` asks for them
  by_cases herror : has events (EPOLLERR ||| EPOLLHUP) = true
  · rw [if_pos herror]
    exact exists_served_of_closed (htouch.trans (local_defaultOnError _ i s.delOk)).mute
      (defaultOnError_free _ i s.delOk) (Or.inl herror)
  rw [if_neg herror]
  by_cases hhangup : has events EPOLLRDHUP = true
  · rw [if_pos hhangup]
    exact exists_served_of_closed (htouch.trans (local_elRemoveConnection _ i s.delOk)).mute
      (elRemoveConnection_free _ i s.delOk) (Or.inr (Or.inl hhangup))
  rw [if_neg hhangup]
  have hwrote := htouch.trans (local_afterWrite (touch el i s.now) i events s)
  have htable := tableInv_afterWrite htouched.table i events s
  by_cases hwrite : has events EPOLLOUT = true ∧ WriteFails el i s
  · -- the write has released the slot, and `on_read` finds nothing
    have hfails : WriteFails (touch el i s.now) i s := (WriteFails.touch s.now).mpr hwrite.2
    have hfree : ((afterWrite (touch el i s.now) i events s).connections i).type = .free := by
      rw [afterWrite, if_pos hwrite.1]
      exact free_defaultOnWrite htouched.table.callbacks htouched.live hfails
    split
    · obtain ⟨hmute, hfree'⟩ := callOnRead_released htable hfree
      exact exists_served_of_closed (hwrote.mute.trans hmute) hfree' (Or.inr (Or.inr hwrite))
    · exact exists_served_of_closed hwrote.mute hfree (Or.inr (Or.inr hwrite))
  · have hnot : ¬ ClosesFirst el i events s := by
      unfold ClosesFirst
      tauto
    have hslot : SameClient el (afterWrite (touch el i s.now) i events s) i := by
      apply hsame.trans
      unfold afterWrite
      split
      · next hout =>
        apply sameClient_defaultOnWrite
        intro hfails
        exact hwrite ⟨hout, (WriteFails.touch s.now).mp hfails⟩
      · exact SameClient.refl _ i
    split
    · have hserved : Served i unread unread el _ := Served.of_mute hwrote.mute (Or.inl hslot)
      have hread := callOnRead_client (hslot.client hclient htable) hdrains
      refine ⟨[], hserved.trans hslot hread, ?_⟩
      unfold Keeps
      tauto
    · exact exists_served_of_spared hwrote.mute hslot hclient.held hnot

/-! ### The idle sweep and `el_send_data` -/

theorem foldl_sweepSlot_skips (now : Int) (delOk : Fin n → Bool) {slots : List (Fin n)}
    (hi : i ∉ slots) (el : EventLoop n) :
    Mute el.kernel (slots.foldl (sweepSlot now delOk) el).kernel ∧
      (slots.foldl (sweepSlot now delOk) el).connections i = el.connections i ∧
      (slots.foldl (sweepSlot now delOk) el).config = el.config := by
  induction slots generalizing el with
  | nil => exact ⟨Mute.refl _, rfl, rfl⟩
  | cons j slots ih =>
    simp only [List.mem_cons, not_or] at hi
    obtain ⟨hij, hrest⟩ := hi
    have hswept := local_sweepSlot now delOk el j
    obtain ⟨hmute, hslot, hconfig⟩ := ih hrest (sweepSlot now delOk el j)
    exact ⟨hswept.mute.trans hmute, hslot.trans (hswept.others i hij),
      hconfig.trans hswept.config⟩

/-- The sweep releases the client's slot if it is idle, and leaves it alone
    if it is not. -/
theorem cleanup_client (hclient : Client el i) (now : Int) (delOk : Fin n → Bool) :
    Mute el.kernel (cleanupIdleConnections el now delOk).kernel ∧
      (el.config.idleTimeoutSec ≤ idleSec now (el.connections i) ∧
          ((cleanupIdleConnections el now delOk).connections i).type = .free ∨
        ¬ el.config.idleTimeoutSec ≤ idleSec now (el.connections i) ∧
          (cleanupIdleConnections el now delOk).connections i = el.connections i) := by
  obtain ⟨before, after, hslots⟩ := List.append_of_mem (List.mem_finRange i)
  have hnodup : (before ++ i :: after).Nodup := hslots ▸ List.nodup_finRange n
  have hbefore : i ∉ before := fun h => by
    exact (List.nodup_append.mp hnodup).2.2 i h i List.mem_cons_self rfl
  have hafter : i ∉ after := (List.nodup_cons.mp (List.nodup_append.mp hnodup).2.1).1
  unfold cleanupIdleConnections
  -- the slots before, the client's, and those behind it
  rw [hslots, List.foldl_append, List.foldl_cons]
  obtain ⟨hmute, hslot, hconfig⟩ := foldl_sweepSlot_skips now delOk hbefore el
  generalize before.foldl (sweepSlot now delOk) el = el₁ at hmute hslot hconfig
  obtain ⟨hmute', hslot', -⟩ := foldl_sweepSlot_skips now delOk hafter (sweepSlot now delOk el₁ i)
  refine ⟨(hmute.trans (local_sweepSlot now delOk el₁ i).mute).trans hmute', ?_⟩
  have htype : (el.connections i).type = .tcpClient := hclient.held
  rw [hslot']
  by_cases hidle : el.config.idleTimeoutSec ≤ idleSec now (el.connections i)
  · have hswept : sweepSlot now delOk el₁ i =
        elRemoveConnection (callOnClose el₁ i (delOk i)) i (delOk i) := by
      simp [sweepSlot, hslot, hconfig, htype, hclient.active, hidle]
    rw [hswept]
    exact Or.inl ⟨hidle, elRemoveConnection_free _ i _⟩
  · have hspared : sweepSlot now delOk el₁ i = el₁ := by
      simp [sweepSlot, hslot, hconfig, htype, hclient.active, hidle]
    rw [hspared]
    exact Or.inr ⟨hidle, hslot⟩

theorem SameClient.of_eq (h : el'.connections i = el.connections i) : SameClient el el' i := by
  refine ⟨?_, ?_, ?_⟩ <;> rw [h]

/-- **The idle check.** -/
theorem idleCheck_client (hclient : Client el i) (now sweepNow : Int) (delOk : Fin n → Bool) :
    ∃ rest, Served i unread rest el (idleCheck el now sweepNow delOk) ∧
      Keeps i unread rest (idleCheck el now sweepNow delOk) (idleCheckDue el now ∧
        el.config.idleTimeoutSec ≤ idleSec sweepNow (el.connections i)) := by
  unfold idleCheck
  split
  · next hdue =>
    obtain ⟨hmute, ⟨hidle, hfree⟩ | ⟨hidle, hslot⟩⟩ := cleanup_client hclient sweepNow delOk
    · exact exists_served_of_closed hmute hfree ⟨hdue, hidle⟩
    · have hsame : SameClient el
          { cleanupIdleConnections el sweepNow delOk with lastIdleCheck := now } i :=
        SameClient.of_eq hslot
      exact exists_served_of_spared hmute hsame hclient.held fun h => hidle h.2
  · next hdue =>
    exact exists_served_of_spared (Mute.refl _) (SameClient.refl el i) hclient.held
      fun h => hdue h.1

theorem sameClient_elSendData (el : EventLoop n) (i j : Fin n) (data : List UInt8)
    (answer : SendAnswer) (modOk : Bool) :
    SameClient el (elSendData el j data answer modOk).2 i := by
  by_cases hij : i = j
  · subst hij
    simp only [elSendData]
    split
    · exact SameClient.refl el i
    split
    · exact SameClient.refl el i
    split
    · exact ⟨by simp, by simp, by simp⟩
    · split
      · exact ⟨by simp, by simp, by simp⟩
      · exact ⟨by simp, by simp, by simp⟩
    · exact ⟨by simp, by simp, by simp⟩
  · exact SameClient.of_eq ((local_elSendData el j data answer modOk).others i hij)

/-! ## Section 3: Runs -/

/-- The connection is there, or no byte was left in its queue. -/
def Intact (i : Fin n) (s : PeerState n) : Prop := Held s.el i ∨ s.unread = []

/-- Every byte that was sent has been read or is in the queue. -/
structure PeerInv (el₀ : EventLoop n) (i : Fin n) (s : PeerState n) : Prop where
  client : Held s.el i →
    Client s.el i ∧ (s.el.connections i).fd = (el₀.connections i).fd
  received : ∃ data, Reads (el₀.connections i).fd el₀.kernel s.el.kernel data ∧
    data ++ s.unread = s.sent

variable {el₀ : EventLoop n} {st : PeerState n}

theorem PeerInv.allRead_iff (hinv : PeerInv el₀ i st) : AllRead i el₀ st ↔ Intact i st := by
  obtain ⟨data, hreads, hsent⟩ := hinv.received
  unfold AllRead Intact
  rw [hreads.logSince, ← hsent, List.self_eq_append_right]
  tauto

/-- A step of the server takes the bytes read from the queue. -/
theorem PeerInv.serve (hinv : PeerInv el₀ i st) (hheld : Held st.el i) (htable : TableInv el')
    {rest : List UInt8} (hserved : Served i st.unread rest st.el el') :
    PeerInv el₀ i (st.serve i el') ∧ (st.serve i el').unread = rest := by
  obtain ⟨hclient, hfd⟩ := hinv.client hheld
  obtain ⟨data, hdata, hreads⟩ := hserved.reads
  obtain ⟨before, hbefore, hsent⟩ := hinv.received
  have hrest : (st.serve i el').unread = rest := by
    show st.unread.drop _ = rest
    rw [hreads.logSince, hdata, List.drop_left]
  rw [hfd] at hreads
  refine ⟨⟨?_, before ++ data, hbefore.trans hreads, ?_⟩, hrest⟩
  · intro hheld'
    rcases hserved.slot with hsame | hfree
    · exact ⟨hsame.client hclient htable, hsame.fd_eq.trans hfd⟩
    · exact absurd hheld' (not_held_of_free hfree)
  · rw [hrest, List.append_assoc, ← hdata]
    exact hsent

/-- **Step lemma**: a step keeps the invariant, and leaves nothing unread
    behind just if it is lossless. -/
theorem PeerInv.step (hinv : PeerInv el₀ i st) {l : PeerLabel n} (hadm : Admits i st l) :
    PeerInv el₀ i (peerStep i st l) ∧
      (Intact i (peerStep i st l) ↔ Intact i st ∧ Lossless i st l) := by
  -- a step of the server from a connection that is there
  have hserve : ∀ {el' : EventLoop n} {rest : List UInt8} {closed : Prop}, Held st.el i →
      TableInv el' → Served i st.unread rest st.el el' → Keeps i st.unread rest el' closed →
      PeerInv el₀ i (st.serve i el') ∧
        (Intact i (st.serve i el') ↔ Intact i st ∧ (closed → st.unread = [])) := by
    intro el' rest closed hheld htable hserved hkeeps
    obtain ⟨hinv', hrest⟩ := hinv.serve hheld htable hserved
    refine ⟨hinv', ?_⟩
    have hintact : Intact i st := Or.inl hheld
    rw [Intact, hrest]
    exact hkeeps.trans (by tauto)
  cases l with
  | arrive data =>
    obtain ⟨before, hbefore, hsent⟩ := hinv.received
    refine ⟨⟨hinv.client, before, hbefore, ?_⟩, ?_⟩
    · show before ++ (st.unread ++ data) = st.sent ++ data
      rw [← List.append_assoc, hsent]
    · show Held st.el i ∨ st.unread ++ data = [] ↔ (Held st.el i ∨ st.unread = []) ∧
        (Held st.el i ∨ data = [])
      rw [List.append_eq_nil_iff, or_and_left]
  | shutdown =>
    refine ⟨⟨hinv.client, hinv.received⟩, ?_⟩
    show Intact i st ↔ Intact i st ∧ True
    rw [and_true]
  | send j data answer modOk =>
    obtain ⟨hclient, -⟩ := hinv.client hadm
    have hsame := sameClient_elSendData st.el i j data answer modOk
    have hserved : Served i st.unread st.unread st.el _ :=
      Served.of_mute (local_elSendData st.el j data answer modOk).mute (Or.inl hsame)
    obtain ⟨hinv', hrest⟩ :=
      hinv.serve hadm (tableInv_elSendData hclient.table j data answer modOk) hserved
    exact ⟨hinv', iff_of_true (Or.inl (hsame.held hadm)) ⟨Or.inl hadm, trivial⟩⟩
  | loop op =>
    cases op with
    | event j events script =>
      obtain ⟨hheld, hadm⟩ := hadm
      obtain ⟨hclient, -⟩ := hinv.client hheld
      have htable := tableInv_dispatchEvent hclient.table j events script
      by_cases hij : j = i
      · subst hij
        obtain ⟨rest, hserved, hkeeps⟩ := dispatchEvent_client hclient events (hadm rfl).2
        obtain ⟨hinv', hintact⟩ := hserve hheld htable hserved hkeeps
        exact ⟨hinv', hintact.trans (by unfold Lossless; tauto)⟩
      · have hslot := elsewhere_dispatchEvent hclient.table (Ne.symm hij) hclient.live events script
        have hsame := SameClient.of_eq hslot.slot
        have hserved : Served i st.unread st.unread st.el _ :=
          ⟨⟨[], rfl, hslot.reads⟩, Or.inl hsame⟩
        obtain ⟨hinv', -⟩ := hinv.serve hheld htable hserved
        exact ⟨hinv', iff_of_true (Or.inl (hsame.held hheld))
          ⟨Or.inl hheld, fun heq => absurd heq hij⟩⟩
    | idleCheck now sweepNow delOk =>
      obtain ⟨hclient, -⟩ := hinv.client hadm
      obtain ⟨rest, hserved, hkeeps⟩ := idleCheck_client hclient now sweepNow delOk
      obtain ⟨hinv', hintact⟩ :=
        hserve hadm (tableInv_idleCheck hclient.table now sweepNow delOk) hserved hkeeps
      exact ⟨hinv', hintact.trans (by unfold Lossless; tauto)⟩

end Own

/-- The connection has just been accepted. -/
def accepted (el : EventLoop n) : PeerState n := ⟨el, [], [], false⟩

theorem peerInv_accepted {el : EventLoop n} {i : Fin n} (h : Client el i) :
    PeerInv el i (accepted el) :=
  ⟨fun _ => ⟨h, rfl⟩, [], Reads.refl _ _, rfl⟩

/-- **When everything is read.**  Over every sequence of bytes from a client,
    every interleaving with the steps of the server and every choice of the
    flags of its events, under the default callbacks all bytes are read before
    the slot is released, if and only if each step is lossless. -/
theorem all_read_iff {el : EventLoop n} {i : Fin n} (h : Client el i)
    {labels : List (PeerLabel n)} {s : PeerState n}
    (hrun : Run (restrict (ofFun (peerStep i)) (Admits i)) (accepted el) labels s) :
    AllRead i el s ↔
      Run (restrict (restrict (ofFun (peerStep i)) (Admits i)) (Lossless i)) (accepted el) labels
        s := by
  have hinv : ∀ t l, PeerInv el i t → Admits i t l → PeerInv el i (peerStep i t l) :=
    fun t l ht hadm => (ht.step hadm).1
  have hintact : ∀ t l, PeerInv el i t → Admits i t l →
      (Intact i (peerStep i t l) ↔ Intact i t ∧ Lossless i t l) :=
    fun t l ht hadm => (ht.step hadm).2
  have hend : PeerInv el i s := by
    apply hrun.invariant (peerInv_accepted h)
    rintro t l u ht ⟨hadm, rfl⟩
    exact hinv t l ht hadm
  rw [hend.allRead_iff]
  exact Run.good_iff hinv hintact (peerInv_accepted h) (Or.inl h.held) hrun

/-! ### One connection -/

theorem client_clientLoop : Client clientLoop 0 where
  table := {
    callbacks := rfl
    count := by decide
    free_clean := fun i hfree => by cases hfree
    fd_injective := fun i j _ _ _ => Subsingleton.elim i j
    registered := by
      intro fd
      constructor
      · intro hsome
        refine ⟨0, by decide, ?_⟩
        by_contra hne
        have hnone : clientLoop.kernel.interest fd = none := if_neg (Ne.symm hne)
        rw [hnone] at hsome
        cases hsome
      · rintro ⟨i, -, rfl⟩
        rfl
    kernel := {
      open_nonneg := by
        intro fd hopen
        obtain rfl : fd = 5 := by simpa [clientLoop] using hopen
        decide
      interest_open := by
        intro fd hsome
        by_contra hclosed
        have hne : fd ≠ 5 := by simpa [clientLoop] using hclosed
        have hnone : clientLoop.kernel.interest fd = none := if_neg hne
        rw [hnone] at hsome
        cases hsome
      accounted := by
        intro before fd after hlog
        simp [clientLoop] at hlog
      closed_once := by
        intro before fd after hlog
        simp [clientLoop] at hlog } }
  held := rfl
  active := rfl

/-- An event at which `read` gives these answers. -/
def readsAnswers (reads : List ReadAnswer) : EventScript where
  now := 0
  delOk := true
  modOk := true
  send := .again
  reads := reads
  accepts := []

/-- The bytes are read in an event of their own, before the shutdown. -/
def separateEvents (i : Fin n) : List (PeerLabel n) :=
  [.arrive [1, 2], .loop (.event i EPOLLIN (readsAnswers [.bytes [1, 2] [], .again])), .shutdown,
    .loop (.event i (EPOLLIN ||| EPOLLRDHUP) (readsAnswers [.bytes [] []]))]

/-- The bytes and the shutdown come in one event. -/
def oneEvent (i : Fin n) : List (PeerLabel n) :=
  [.arrive [1, 2], .shutdown,
    .loop (.event i (EPOLLIN ||| EPOLLRDHUP) (readsAnswers [.bytes [1, 2] [], .bytes [] []]))]

theorem drains_bytes : Drains [1, 2] false [.bytes [1, 2] [], .again] :=
  ⟨List.prefix_rfl, rfl, rfl⟩

/-- Both events of a connection whose bytes came first. -/
theorem all_read_iff_separate :
    ∃ s, ¬ Held s.el 0 ∧ s.sent = [1, 2] ∧
      Run (restrict (ofFun (peerStep 0)) (Admits 0)) (accepted clientLoop) (separateEvents 0) s ∧
      (AllRead 0 clientLoop s ↔
        Run (restrict (restrict (ofFun (peerStep 0)) (Admits 0)) (Lossless 0))
          (accepted clientLoop) (separateEvents 0) s) := by
  have hrun : Run (restrict (ofFun (peerStep 0)) (Admits 0)) (accepted clientLoop)
      (separateEvents 0) ((separateEvents 0).foldl (peerStep 0) (accepted clientLoop)) :=
    .cons ⟨rfl, rfl⟩ <| .cons ⟨⟨rfl, fun _ => ⟨by decide, drains_bytes⟩⟩, rfl⟩ <|
      .cons ⟨rfl, rfl⟩ <| .cons ⟨⟨rfl, fun _ => ⟨fun _ => rfl, rfl, rfl⟩⟩, rfl⟩ <| .nil _
  exact ⟨_, by decide, rfl, hrun, all_read_iff client_clientLoop hrun⟩

/-- The event that brings the last bytes reports the shutdown too, and the
    connection is closed before it is read. -/
theorem unread_dropped :
    ¬ ∀ (n : Nat) (el : EventLoop n) (i : Fin n) (labels : List (PeerLabel n)) (s : PeerState n),
      Client el i → Run (restrict (ofFun (peerStep i)) (Admits i)) (accepted el) labels s →
      AllRead i el s := by
  intro h
  have hrun : Run (restrict (ofFun (peerStep 0)) (Admits 0)) (accepted clientLoop) (oneEvent 0)
      ((oneEvent 0).foldl (peerStep 0) (accepted clientLoop)) :=
    .cons ⟨rfl, rfl⟩ <| .cons ⟨rfl, rfl⟩ <|
      .cons ⟨⟨rfl, fun _ => ⟨fun _ => rfl, List.prefix_rfl, rfl, rfl⟩⟩, rfl⟩ <| .nil _
  have hread := h 1 clientLoop 0 (oneEvent 0) _ client_clientLoop hrun (by decide)
  revert hread
  decide

end EpollServer
