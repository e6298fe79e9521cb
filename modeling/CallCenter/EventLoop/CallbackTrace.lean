import CallCenter.EventLoop.SendState

/-! # The Callbacks of One Dispatch

    `handle_client_event` hands the same slot to one callback after another,
    and a callback may free it.  This module records every call of a callback
    together with the type the slot has at that moment, and says exactly when
    a callback gets a slot that is free by then: `EPOLLOUT` and `EPOLLIN` come
    together and the write of the pending bytes is refused.

    The functions named `…Traced` are those of the model with the record of
    their calls in front; `handleClientEventTraced_snd` says that the record
    changes nothing. -/

namespace EpollServer

open Descriptors Transition

variable {n : Nat}

/-! ## Section 1: The record -/

inductive CallbackName where
  | onRead
  | onWrite
  | onError
  | onClose
  deriving DecidableEq, Repr

/-- A call of a callback, with the type of its slot at that moment. -/
structure Call (n : Nat) where
  name : CallbackName
  slot : Fin n
  type : ConnType
  deriving DecidableEq

def callOf (name : CallbackName) (el : EventLoop n) (i : Fin n) : Call n :=
  ⟨name, i, (el.connections i).type⟩

/-- The calls that were made, in order, and the loop after them. -/
abbrev Traced (n : Nat) : Type := List (Call n) × EventLoop n

/-- `on_close`, if it is set. -/
def callOnCloseTraced (el : EventLoop n) (i : Fin n) (delOk : Bool) : Traced n :=
  if el.callbacks.onClose then ([callOf .onClose el i], defaultOnClose el i delOk)
  else ([], el)

/-- `default_on_error` -/
def defaultOnErrorTraced (el : EventLoop n) (i : Fin n) (delOk : Bool) : Traced n :=
  let el := el.setConn i { el.connections i with state := .error }
  let (calls, el) := callOnCloseTraced el i delOk
  (calls, elRemoveConnection el i delOk)

/-- `on_error`, if it is set. -/
def callOnErrorTraced (el : EventLoop n) (i : Fin n) (delOk : Bool) : Traced n :=
  if el.callbacks.onError then
    let (calls, el') := defaultOnErrorTraced el i delOk
    (callOf .onError el i :: calls, el')
  else ([], el)

/-- `default_on_write` -/
def defaultOnWriteTraced (el : EventLoop n) (i : Fin n) (s : EventScript) : Traced n :=
  let conn := el.connections i
  if conn.sendLen ≤ 0 ∨ conn.sendLen ≤ conn.sendOffset then
    let (_, kernel) := modFd el.kernel conn.fd (regEvents conn.type) s.modOk
    ([], { el.setConn i { conn with sendLen := 0, sendOffset := 0 } with kernel })
  else
    let remaining := conn.sendLen - conn.sendOffset
    match esSendAll el.kernel conn.fd conn.sendBuf conn.sendOffset remaining s.send with
    | (.sendErr, _, kernel) =>
      let el := { el.setConn i { conn with sendLen := 0, sendOffset := 0 } with kernel }
      callOnErrorTraced el i s.delOk
    | (_, sent, kernel) =>
      let conn := { conn with sendOffset := conn.sendOffset + sent }
      if conn.sendLen ≤ conn.sendOffset then
        let (_, kernel) := modFd kernel conn.fd (regEvents conn.type) s.modOk
        ([], { el.setConn i { conn with sendLen := 0, sendOffset := 0 } with kernel })
      else ([], { el.setConn i conn with kernel })

/-- The reads from a stream socket. -/
def readStreamTraced (el : EventLoop n) (i : Fin n) (delOk : Bool) :
    List ReadAnswer → Traced n
  | [] => ([], el)
  | .again :: _ => ([], el)
  | .interrupted :: rest => readStreamTraced el i delOk rest
  | .failed :: _ => callOnErrorTraced el i delOk
  | .bytes [] _ :: _ => callOnCloseTraced el i delOk
  | .bytes data _ :: rest =>
    readStreamTraced { el with kernel := el.kernel.record (.received (el.connections i).fd data) } i
      delOk rest

/-- `el_default_on_read` -/
def elDefaultOnReadTraced (el : EventLoop n) (i : Fin n) (s : EventScript) : Traced n :=
  let conn := el.connections i
  let answers := readsFrom el.kernel conn.fd s.reads
  if isUdp conn.type then ([], { el with kernel := readDatagrams el.kernel conn.fd answers })
  else readStreamTraced el i s.delOk answers

/-- `sip_handler_on_read` -/
def sipHandlerOnReadTraced (el : EventLoop n) (i : Fin n) (s : EventScript) : Traced n :=
  let conn := el.connections i
  if conn.type ≠ .udpSip then elDefaultOnReadTraced el i s
  else ([], { el with kernel := readSip el.kernel conn.fd (readsFrom el.kernel conn.fd s.reads) })

/-- `on_read`, if it is set. -/
def callOnReadTraced (el : EventLoop n) (i : Fin n) (s : EventScript) : Traced n :=
  match el.callbacks.onRead with
  | none => ([], el)
  | some .elDefaultOnRead =>
    let (calls, el') := elDefaultOnReadTraced el i s
    (callOf .onRead el i :: calls, el')
  | some .sipHandlerOnRead =>
    let (calls, el') := sipHandlerOnReadTraced el i s
    (callOf .onRead el i :: calls, el')

/-- `on_write` for `EPOLLOUT`, if it is set. -/
def writableTraced (el : EventLoop n) (i : Fin n) (events : Mask) (s : EventScript) : Traced n :=
  if has events EPOLLOUT ∧ el.callbacks.onWrite then
    let (calls, el') := defaultOnWriteTraced el i s
    (callOf .onWrite el i :: calls, el')
  else ([], el)

/-- `on_read` for `EPOLLIN`, if it is set. -/
def readableTraced (el : EventLoop n) (i : Fin n) (events : Mask) (s : EventScript) : Traced n :=
  if has events EPOLLIN then callOnReadTraced el i s else ([], el)

/-- `handle_client_event` -/
def handleClientEventTraced (el : EventLoop n) (i : Fin n) (events : Mask) (s : EventScript) :
    Traced n :=
  if (el.connections i).state ≠ .active then ([], el)
  else
    let el := el.setConn i { el.connections i with lastActive := s.now }
    if has events (EPOLLERR ||| EPOLLHUP) ∧ el.callbacks.onError then callOnErrorTraced el i s.delOk
    else if has events EPOLLRDHUP ∧ el.callbacks.onClose then callOnCloseTraced el i s.delOk
    else
      let (writeCalls, el) := writableTraced el i events s
      -- the type of the slot is not looked at again
      let (readCalls, el) := readableTraced el i events s
      (writeCalls ++ readCalls, el)

/-! ### The record changes nothing -/

@[simp] theorem callOnCloseTraced_snd (el : EventLoop n) (i : Fin n) (delOk : Bool) :
    (callOnCloseTraced el i delOk).2 = callOnClose el i delOk := by
  unfold callOnCloseTraced callOnClose
  split <;> rfl

@[simp] theorem defaultOnErrorTraced_snd (el : EventLoop n) (i : Fin n) (delOk : Bool) :
    (defaultOnErrorTraced el i delOk).2 = defaultOnError el i delOk := by
  unfold defaultOnErrorTraced defaultOnError
  dsimp only
  rw [callOnCloseTraced_snd]

@[simp] theorem callOnErrorTraced_snd (el : EventLoop n) (i : Fin n) (delOk : Bool) :
    (callOnErrorTraced el i delOk).2 = callOnError el i delOk := by
  unfold callOnErrorTraced callOnError
  split
  · exact defaultOnErrorTraced_snd el i delOk
  · rfl

theorem defaultOnWriteTraced_snd (el : EventLoop n) (i : Fin n) (s : EventScript) :
    (defaultOnWriteTraced el i s).2 = defaultOnWrite el i s := by
  unfold defaultOnWriteTraced defaultOnWrite
  dsimp only
  split
  · rfl
  rcases esSendAll el.kernel (el.connections i).fd (el.connections i).sendBuf
    (el.connections i).sendOffset ((el.connections i).sendLen - (el.connections i).sendOffset)
    s.send with ⟨code, sent, kernel⟩
  cases code with
  | sendErr => exact callOnErrorTraced_snd _ i s.delOk
  | sendDone | sendPartial =>
    dsimp only
    split <;> rfl

theorem readStreamTraced_snd (el : EventLoop n) (i : Fin n) (delOk : Bool)
    (answers : List ReadAnswer) :
    (readStreamTraced el i delOk answers).2 = readStream el i delOk answers := by
  induction answers generalizing el with
  | nil => rfl
  | cons answer rest ih =>
    cases answer with
    | bytes data replies =>
      cases data with
      | nil => exact callOnCloseTraced_snd el i delOk
      | cons b data => exact ih _
    | again => rfl
    | interrupted => exact ih el
    | failed => exact callOnErrorTraced_snd el i delOk

theorem elDefaultOnReadTraced_snd (el : EventLoop n) (i : Fin n) (s : EventScript) :
    (elDefaultOnReadTraced el i s).2 = elDefaultOnRead el i s := by
  unfold elDefaultOnReadTraced elDefaultOnRead
  dsimp only
  split
  · rfl
  · exact readStreamTraced_snd el i s.delOk _

theorem callOnReadTraced_snd (el : EventLoop n) (i : Fin n) (s : EventScript) :
    (callOnReadTraced el i s).2 = callOnRead el i s := by
  unfold callOnReadTraced callOnRead
  rcases el.callbacks.onRead with - | onRead
  · rfl
  cases onRead with
  | elDefaultOnRead => exact elDefaultOnReadTraced_snd el i s
  | sipHandlerOnRead =>
    dsimp only [sipHandlerOnReadTraced, sipHandlerOnRead]
    split
    · exact elDefaultOnReadTraced_snd el i s
    · rfl

/-- The traced dispatcher is `handle_client_event`. -/
theorem handleClientEventTraced_snd (el : EventLoop n) (i : Fin n) (events : Mask)
    (s : EventScript) :
    (handleClientEventTraced el i events s).2 = handleClientEvent el i events s := by
  unfold handleClientEventTraced handleClientEvent
  split
  · rfl
  dsimp only
  generalize el.setConn i { el.connections i with lastActive := s.now } = el₁
  have hwrite : (writableTraced el₁ i events s).2 =
      if has events EPOLLOUT = true ∧ el₁.callbacks.onWrite = true then defaultOnWrite el₁ i s
      else el₁ := by
    unfold writableTraced
    split
    · exact defaultOnWriteTraced_snd el₁ i s
    · rfl
  have hread : ∀ el₂ : EventLoop n, (readableTraced el₂ i events s).2 =
      if has events EPOLLIN = true then callOnRead el₂ i s else el₂ := by
    intro el₂
    unfold readableTraced
    split
    · exact callOnReadTraced_snd el₂ i s
    · rfl
  split
  · next herror =>
    rw [callOnErrorTraced_snd, callOnError, if_pos herror.2]
  split
  · next hhangup =>
    rw [callOnCloseTraced_snd, callOnClose, if_pos hhangup.2]
  · dsimp only
    rw [hread, hwrite]

/-! ## Section 2: A dispatch without fault -/

/-- No callback gets a free slot, and a slot that is freed on the way is left
    `CONN_STATE_ACTIVE`, as `free_connection` leaves it. -/
structure DispatchOk (el el' : EventLoop n) (calls : List (Call n)) : Prop where
  live : ∀ call ∈ calls, call.type ≠ .free
  released : ∀ j, (el.connections j).type ≠ .free → (el'.connections j).type = .free →
    (el'.connections j).state = .active

/-- Bytes are pending, and `es_send_all` reports an error for them. -/
structure WriteFails (el : EventLoop n) (i : Fin n) (s : EventScript) : Prop where
  pending : 0 < (el.connections i).sendLen ∧
    (el.connections i).sendOffset < (el.connections i).sendLen
  refused : (el.connections i).sendOffset < 0 ∨
    el.kernel.isOpen (el.connections i).fd = false ∨ s.send = .failed

/-- An active connection is writable and readable at once, without an error
    or a hang-up, and the write fails. -/
structure WriteRefused (el : EventLoop n) (i : Fin n) (events : Mask) (s : EventScript) :
    Prop where
  active : (el.connections i).state = .active
  noError : has events (EPOLLERR ||| EPOLLHUP) = false
  noHangup : has events EPOLLRDHUP = false
  writable : has events EPOLLOUT = true
  readable : has events EPOLLIN = true
  fails : WriteFails el i s

/-- What a callback for slot `i` does with a live slot. -/
structure Sound (el : EventLoop n) (i : Fin n) (out : Traced n) : Prop where
  live : ∀ call ∈ out.1, call.type ≠ .free
  slot : (out.2.connections i).type = .free → (out.2.connections i).state = .active
  others : ∀ j, j ≠ i → out.2.connections j = el.connections j

theorem Sound.dispatchOk {el : EventLoop n} {i : Fin n} {out : Traced n} (h : Sound el i out) :
    DispatchOk el out.2 out.1 where
  live := h.live
  released := by
    intro j hlive hfree
    by_cases hj : j = i
    · subst hj
      exact h.slot hfree
    · rw [h.others j hj] at hfree
      exact absurd hfree hlive

/-- The slot is still in use, and nobody was called. -/
theorem Sound.of_live {el el' : EventLoop n} {i : Fin n}
    (hlive : (el'.connections i).type ≠ .free)
    (hothers : ∀ j, j ≠ i → el'.connections j = el.connections j) :
    Sound el i ([], el') where
  live := by simp
  slot := fun hfree => absurd hfree hlive
  others := hothers

theorem Sound.cons {el : EventLoop n} {i : Fin n} {out : Traced n} (h : Sound el i out)
    {call : Call n} (hcall : call.type ≠ .free) : Sound el i (call :: out.1, out.2) where
  live := by
    intro c hc
    rcases List.mem_cons.mp hc with rfl | hc
    · exact hcall
    · exact h.live c hc
  slot := h.slot
  others := h.others

/-- The calls before, and then those of a sound callback. -/
theorem Sound.append {el el₁ : EventLoop n} {i : Fin n} {out : Traced n} {calls : List (Call n)}
    (h : Sound el₁ i out) (hcalls : ∀ call ∈ calls, call.type ≠ .free)
    (hothers : ∀ j, j ≠ i → el₁.connections j = el.connections j) :
    Sound el i (calls ++ out.1, out.2) where
  live := by
    intro c hc
    rcases List.mem_append.mp hc with hc | hc
    · exact hcalls c hc
    · exact h.live c hc
  slot := h.slot
  others := fun j hj => (h.others j hj).trans (hothers j hj)

section Live

variable {el : EventLoop n} {i : Fin n}

theorem connections_elRemoveConnection (hlive : (el.connections i).type ≠ .free) (delOk : Bool) :
    (elRemoveConnection el i delOk).connections =
      (el.setConn i (freeConnection (el.connections i))).connections := by
  unfold elRemoveConnection
  dsimp only
  rw [if_neg hlive]

/-- `on_close` frees a live slot. -/
theorem callOnCloseTraced_live (hcb : el.callbacks = defaultCallbacks)
    (hlive : (el.connections i).type ≠ .free) (delOk : Bool) :
    Sound el i (callOnCloseTraced el i delOk) := by
  have hset : el.callbacks.onClose = true := by rw [hcb]; rfl
  have hconn := connections_elRemoveConnection hlive delOk
  rw [callOnCloseTraced, if_pos hset]
  exact {
    live := by
      intro call hcall
      rw [List.mem_singleton.mp hcall]
      exact hlive
    slot := by
      intro _
      show ((elRemoveConnection el i delOk).connections i).state = .active
      rw [hconn, setConn_self]
      rfl
    others := by
      intro j hj
      show (elRemoveConnection el i delOk).connections j = _
      rw [hconn, setConn_ne _ _ hj] }

/-- `on_error` marks a live slot, and its `on_close` frees it; the second
    removal finds it free. -/
theorem callOnErrorTraced_live (hcb : el.callbacks = defaultCallbacks)
    (hlive : (el.connections i).type ≠ .free) (delOk : Bool) :
    Sound el i (callOnErrorTraced el i delOk) ∧
      ((callOnErrorTraced el i delOk).2.connections i).type = .free := by
  have hset : el.callbacks.onError = true := by rw [hcb]; rfl
  rw [callOnErrorTraced, if_pos hset]
  dsimp only [defaultOnErrorTraced]
  generalize hmarked : el.setConn i { el.connections i with state := .error } = marked
  have hconn : marked.connections i = { el.connections i with state := .error } := by
    rw [← hmarked, setConn_self]
  have hmcb : marked.callbacks = defaultCallbacks := by rw [← hmarked]; exact hcb
  have hmlive : (marked.connections i).type ≠ .free := by rw [hconn]; exact hlive
  have hmothers : ∀ j, j ≠ i → marked.connections j = el.connections j := by
    intro j hj
    rw [← hmarked, setConn_ne _ _ hj]
  have hclose := callOnCloseTraced_live hmcb hmlive delOk
  have hremoved : ((callOnCloseTraced marked i delOk).2.connections i).type = .free := by
    have hmset : marked.callbacks.onClose = true := by rw [hmcb]; rfl
    rw [callOnCloseTraced_snd, callOnClose, if_pos hmset, defaultOnClose,
      connections_elRemoveConnection hmlive, setConn_self]
    rfl
  rw [elRemoveConnection_of_free hremoved]
  refine ⟨?_, hremoved⟩
  have hsound : Sound el i ([] ++ (callOnCloseTraced marked i delOk).1,
      (callOnCloseTraced marked i delOk).2) := hclose.append (by simp) hmothers
  exact hsound.cons hlive

/-- A stream is read until it is empty, or until it ends and the slot is freed. -/
theorem readStreamTraced_live (hcb : el.callbacks = defaultCallbacks)
    (hlive : (el.connections i).type ≠ .free) (delOk : Bool) (answers : List ReadAnswer) :
    Sound el i (readStreamTraced el i delOk answers) := by
  induction answers generalizing el with
  | nil => exact Sound.of_live hlive fun _ _ => rfl
  | cons answer rest ih =>
    cases answer with
    | again => exact Sound.of_live hlive fun _ _ => rfl
    | interrupted => exact ih hcb hlive
    | failed => exact (callOnErrorTraced_live hcb hlive delOk).1
    | bytes data replies =>
      cases data with
      | nil => exact callOnCloseTraced_live hcb hlive delOk
      | cons b data =>
        let read : EventLoop n :=
          { el with kernel := el.kernel.record (.received (el.connections i).fd (b :: data)) }
        have hrest : Sound read i (readStreamTraced read i delOk rest) := ih hcb hlive
        exact ⟨hrest.live, hrest.slot, hrest.others⟩

theorem callOnReadTraced_live (hcb : el.callbacks = defaultCallbacks)
    (hlive : (el.connections i).type ≠ .free) (s : EventScript) :
    Sound el i (callOnReadTraced el i s) := by
  have hset : el.callbacks.onRead = some .elDefaultOnRead := by rw [hcb]; rfl
  have hread : Sound el i (elDefaultOnReadTraced el i s) := by
    unfold elDefaultOnReadTraced
    dsimp only
    split
    · exact Sound.of_live hlive fun _ _ => rfl
    · exact readStreamTraced_live hcb hlive s.delOk _
  simp only [callOnReadTraced, hset]
  exact hread.cons hlive

theorem esSendAll_error_iff (k : Kernel) (fd : Int) (buf : List UInt8) (offset len : Int)
    (answer : SendAnswer) :
    (esSendAll k fd buf offset len answer).1 = .sendErr ↔
      len ≤ 0 ∨ offset < 0 ∨ k.isOpen fd = false ∨ answer = .failed := by
  unfold esSendAll
  split_ifs with hparam hclosed
  · simp only [true_iff]
    tauto
  · simp [hclosed]
  · cases answer with
    | again | interrupted | failed => simp_all
    | accepted count =>
      simp only [reduceCtorEq, or_false]
      split_ifs <;> simp_all

theorem callbacks_callOnError (el : EventLoop n) (i : Fin n) (delOk : Bool) :
    (callOnError el i delOk).callbacks = el.callbacks := by
  have hremove : ∀ el' : EventLoop n, (elRemoveConnection el' i delOk).callbacks =
      el'.callbacks := by
    intro el'
    unfold elRemoveConnection
    dsimp only
    split <;> rfl
  unfold callOnError
  split
  · unfold defaultOnError callOnClose defaultOnClose
    dsimp only
    rw [hremove]
    split
    · rw [hremove]
      rfl
    · rfl
  · rfl

/-- `es_send_all` reports an error for the pending bytes. -/
theorem sendErr_iff_writeFails
    (hpending : ¬ ((el.connections i).sendLen ≤ 0 ∨
      (el.connections i).sendLen ≤ (el.connections i).sendOffset)) (s : EventScript) :
    (esSendAll el.kernel (el.connections i).fd (el.connections i).sendBuf
      (el.connections i).sendOffset ((el.connections i).sendLen - (el.connections i).sendOffset)
      s.send).1 = .sendErr ↔ WriteFails el i s := by
  rw [esSendAll_error_iff]
  constructor
  · intro h
    refine ⟨by omega, ?_⟩
    rcases h with h | h
    · omega
    · exact h
  · intro h
    exact Or.inr h.refused

/-- `default_on_write` frees the slot when the write fails, and otherwise
    calls nobody. -/
theorem defaultOnWriteTraced_live (hcb : el.callbacks = defaultCallbacks)
    (hlive : (el.connections i).type ≠ .free) (s : EventScript) :
    Sound el i (defaultOnWriteTraced el i s) ∧
      (((defaultOnWriteTraced el i s).2.connections i).type = .free ↔ WriteFails el i s) ∧
      (defaultOnWriteTraced el i s).2.callbacks = defaultCallbacks := by
  have hkept : ∀ (c : Connection) (kernel : Kernel), c.type = (el.connections i).type →
      ¬ WriteFails el i s →
      Sound el i ([], { el.setConn i c with kernel := kernel }) ∧
        ((({ el.setConn i c with kernel := kernel } : EventLoop n).connections i).type = .free ↔
          WriteFails el i s) ∧
        ({ el.setConn i c with kernel := kernel } : EventLoop n).callbacks = defaultCallbacks := by
    intro c kernel htype hnot
    have hslot : (({ el.setConn i c with kernel := kernel } : EventLoop n).connections i).type ≠
        .free := by
      show ((el.setConn i c).connections i).type ≠ .free
      rw [setConn_self, htype]
      exact hlive
    exact ⟨Sound.of_live hslot fun j hj => setConn_ne el c hj, by tauto, hcb⟩
  unfold defaultOnWriteTraced
  dsimp only
  split
  · next hidle =>
    apply hkept
    · rfl
    · intro hfails
      obtain ⟨hlen, hoffset⟩ := hfails.pending
      omega
  next hpending =>
  have hfails := sendErr_iff_writeFails hpending s
  rcases hsend : esSendAll el.kernel (el.connections i).fd (el.connections i).sendBuf
    (el.connections i).sendOffset ((el.connections i).sendLen - (el.connections i).sendOffset)
    s.send with ⟨code, sent, kernel⟩
  rw [hsend] at hfails
  cases code with
  | sendErr =>
    dsimp only
    generalize hcleared : ({ el.setConn i { el.connections i with sendLen := 0, sendOffset := 0 }
      with kernel := kernel } : EventLoop n) = cleared
    have hconn : cleared.connections i =
        { el.connections i with sendLen := 0, sendOffset := 0 } := by
      rw [← hcleared]
      exact setConn_self el i _
    have hccb : cleared.callbacks = defaultCallbacks := by rw [← hcleared]; exact hcb
    have hclive : (cleared.connections i).type ≠ .free := by rw [hconn]; exact hlive
    obtain ⟨hsound, hfree⟩ := callOnErrorTraced_live hccb hclive s.delOk
    have hothers : ∀ j, j ≠ i → cleared.connections j = el.connections j := by
      intro j hj
      rw [← hcleared]
      exact setConn_ne el _ hj
    refine ⟨⟨hsound.live, hsound.slot, ?_⟩, ?_, ?_⟩
    · intro j hj
      exact (hsound.others j hj).trans (hothers j hj)
    · exact iff_of_true hfree (hfails.mp rfl)
    · rw [callOnErrorTraced_snd, callbacks_callOnError, hccb]
  | sendDone | sendPartial =>
    have hnot : ¬ WriteFails el i s := fun h => by cases hfails.mpr h
    dsimp only
    split
    · exact hkept _ _ rfl hnot
    · exact hkept _ _ rfl hnot

/-- `EPOLLOUT` frees the slot when the write fails, and otherwise leaves it
    in use. -/
theorem writableTraced_live (hcb : el.callbacks = defaultCallbacks)
    (hlive : (el.connections i).type ≠ .free) (events : Mask) (s : EventScript) :
    Sound el i (writableTraced el i events s) ∧
      (((writableTraced el i events s).2.connections i).type = .free ↔
        has events EPOLLOUT = true ∧ WriteFails el i s) ∧
      (writableTraced el i events s).2.callbacks = defaultCallbacks := by
  have hset : el.callbacks.onWrite = true := by rw [hcb]; rfl
  obtain ⟨hsound, hfree, hkept⟩ := defaultOnWriteTraced_live hcb hlive s
  unfold writableTraced
  split
  · next hout =>
    exact ⟨hsound.cons hlive, by rw [hfree]; tauto, hkept⟩
  · next hout =>
    exact ⟨Sound.of_live hlive fun _ _ => rfl, by tauto, hcb⟩

/-- A slot that is free by then is still given to `on_read`. -/
theorem readableTraced_free (hcb : el.callbacks = defaultCallbacks)
    (hfree : (el.connections i).type = .free) {events : Mask} (hin : has events EPOLLIN = true)
    (s : EventScript) : ∃ call ∈ (readableTraced el i events s).1, call.type = .free := by
  have hset : el.callbacks.onRead = some .elDefaultOnRead := by rw [hcb]; rfl
  refine ⟨callOf .onRead el i, ?_, hfree⟩
  simp only [readableTraced, if_pos hin, callOnReadTraced, hset]
  exact List.mem_cons_self

end Live

/-! ## Section 3: The exact condition -/

/-- `EPOLLOUT` and then `EPOLLIN`. -/
theorem writable_readable_iff {el : EventLoop n} (hcb : el.callbacks = defaultCallbacks)
    {i : Fin n} (hlive : (el.connections i).type ≠ .free) (events : Mask) (s : EventScript) :
    DispatchOk el (readableTraced (writableTraced el i events s).2 i events s).2
        ((writableTraced el i events s).1 ++
          (readableTraced (writableTraced el i events s).2 i events s).1) ↔
      ¬ (has events EPOLLOUT = true ∧ has events EPOLLIN = true ∧ WriteFails el i s) := by
  obtain ⟨hwrite, hfree, hkept⟩ := writableTraced_live hcb hlive events s
  generalize writableTraced el i events s = out at hwrite hfree hkept
  by_cases hreleased : (out.2.connections i).type = .free
  · obtain ⟨hout, hfails⟩ := hfree.mp hreleased
    by_cases hin : has events EPOLLIN = true
    · -- `on_read` comes after the slot was freed
      refine iff_of_false ?_ (not_not_intro ⟨hout, hin, hfails⟩)
      intro hok
      obtain ⟨call, hcall, htype⟩ := readableTraced_free hkept hreleased hin s
      exact hok.live call (List.mem_append_right _ hcall) htype
    · refine iff_of_true ?_ (by tauto)
      have hnone : readableTraced out.2 i events s = ([], out.2) := if_neg hin
      rw [hnone, List.append_nil]
      exact hwrite.dispatchOk
  · refine iff_of_true ?_ (by tauto)
    have hread : Sound out.2 i (readableTraced out.2 i events s) := by
      unfold readableTraced
      split
      · exact callOnReadTraced_live hkept hreleased s
      · exact Sound.of_live hreleased fun _ _ => rfl
    exact (hread.append hwrite.live hwrite.others).dispatchOk

/-- What a slot is used for is all that counts of the table before. -/
theorem DispatchOk.of_types {el₁ el₂ el' : EventLoop n} {calls : List (Call n)}
    (htypes : ∀ j, (el₁.connections j).type = (el₂.connections j).type)
    (h : DispatchOk el₁ el' calls) : DispatchOk el₂ el' calls :=
  ⟨h.live, fun j hj => h.released j (by rw [htypes]; exact hj)⟩

/-- A write depends on what is pending and on the kernel. -/
theorem WriteFails.touch {el : EventLoop n} {i : Fin n} {s : EventScript} (now : Int) :
    WriteFails (el.setConn i { el.connections i with lastActive := now }) i s ↔
      WriteFails el i s := by
  have hconn := setConn_self el i { el.connections i with lastActive := now }
  constructor
  · intro h
    exact ⟨by simpa [hconn] using h.pending, by simpa [hconn] using h.refused⟩
  · intro h
    exact ⟨by simpa [hconn] using h.pending, by simpa [hconn] using h.refused⟩

/-- **When a dispatch keeps off released slots.**  Under the default callbacks
    an event for a live slot calls no callback for a slot that is free by then
    and leaves no released slot in another state than `CONN_STATE_ACTIVE`, if
    and only if it is not a readable event that comes with a refused write. -/
theorem dispatchOk_iff {el : EventLoop n} (hcb : el.callbacks = defaultCallbacks) {i : Fin n}
    (hlive : (el.connections i).type ≠ .free) (events : Mask) (s : EventScript) :
    DispatchOk el (handleClientEvent el i events s) (handleClientEventTraced el i events s).1 ↔
      ¬ WriteRefused el i events s := by
  rw [← handleClientEventTraced_snd]
  unfold handleClientEventTraced
  by_cases hactive : (el.connections i).state = .active
  swap
  · rw [if_pos hactive]
    refine iff_of_true ?_ fun h => hactive h.active
    have hsame : Sound el i ([], el) := Sound.of_live hlive fun _ _ => rfl
    exact hsame.dispatchOk
  rw [if_neg (not_not_intro hactive)]
  dsimp only
  generalize htouched : el.setConn i { el.connections i with lastActive := s.now } = touched
  have hconn : touched.connections i = { el.connections i with lastActive := s.now } := by
    rw [← htouched, setConn_self]
  have hothers : ∀ j, j ≠ i → touched.connections j = el.connections j := by
    intro j hj
    rw [← htouched, setConn_ne _ _ hj]
  have htcb : touched.callbacks = defaultCallbacks := by rw [← htouched]; exact hcb
  have htlive : (touched.connections i).type ≠ .free := by rw [hconn]; exact hlive
  have honError : touched.callbacks.onError = true := by rw [htcb]; rfl
  have honClose : touched.callbacks.onClose = true := by rw [htcb]; rfl
  have hfails : WriteFails touched i s ↔ WriteFails el i s := by
    rw [← htouched]
    exact WriteFails.touch s.now
  -- the clock of the slot makes no difference
  have hfrom : ∀ el' calls, DispatchOk touched el' calls ↔ DispatchOk el el' calls := by
    intro el' calls
    have htypes : ∀ j, (touched.connections j).type = (el.connections j).type := by
      intro j
      by_cases hj : j = i
      · rw [hj, hconn]
      · rw [hothers j hj]
    exact ⟨DispatchOk.of_types htypes, DispatchOk.of_types fun j => (htypes j).symm⟩
  by_cases herror : has events (EPOLLERR ||| EPOLLHUP) = true
  · rw [if_pos ⟨herror, honError⟩, ← hfrom]
    refine iff_of_true (callOnErrorTraced_live htcb htlive s.delOk).1.dispatchOk ?_
    intro h
    rw [h.noError] at herror
    cases herror
  rw [if_neg (by tauto)]
  by_cases hhangup : has events EPOLLRDHUP = true
  · rw [if_pos ⟨hhangup, honClose⟩, ← hfrom]
    refine iff_of_true (callOnCloseTraced_live htcb htlive s.delOk).dispatchOk ?_
    intro h
    rw [h.noHangup] at hhangup
    cases hhangup
  rw [if_neg (by tauto), ← hfrom, writable_readable_iff htcb htlive, hfails]
  apply not_congr
  constructor
  · intro h
    obtain ⟨hout, hin, hwrite⟩ := h
    exact ⟨hactive, by simpa using herror, by simpa using hhangup, hout, hin, hwrite⟩
  · intro h
    exact ⟨h.writable, h.readable, h.fails⟩

/-- An event at which the kernel refuses to write. -/
def refusesWrite : EventScript where
  now := 0
  delOk := true
  modOk := true
  send := .failed
  reads := [.again]
  accepts := []

/-- A client with three bytes that did not go out. -/
def pendingLoop : EventLoop 1 := (elSendData clientLoop 0 [1, 2, 3] .again true).2

/-- The refused write of an event that is not readable. -/
theorem dispatchOk_iff_writable :
    DispatchOk pendingLoop (handleClientEvent pendingLoop 0 EPOLLOUT refusesWrite)
      (handleClientEventTraced pendingLoop 0 EPOLLOUT refusesWrite).1 := by
  refine (dispatchOk_iff rfl (by decide) EPOLLOUT refusesWrite).mpr ?_
  intro h
  have hin := h.readable
  revert hin
  decide

/-- **A released slot is read**: the write is refused, `on_close` frees the
    slot, and `on_read` is called for it.  Reading descriptor -1 fails, and
    `on_error` leaves the free slot in the state `CONN_STATE_ERROR`. -/
theorem released_slot_read :
    (handleClientEventTraced pendingLoop 0 (EPOLLIN ||| EPOLLOUT) refusesWrite).1 =
      [⟨.onWrite, 0, .tcpClient⟩, ⟨.onError, 0, .tcpClient⟩, ⟨.onClose, 0, .tcpClient⟩,
        ⟨.onRead, 0, .free⟩, ⟨.onError, 0, .free⟩, ⟨.onClose, 0, .free⟩] ∧
      (let after := handleClientEvent pendingLoop 0 (EPOLLIN ||| EPOLLOUT) refusesWrite
       (after.connections 0).type = .free ∧ (after.connections 0).state = .error) ∧
      ¬ ∀ (n : Nat) (el : EventLoop n) (i : Fin n) (events : Mask) (s : EventScript),
        el.callbacks = defaultCallbacks → (el.connections i).type ≠ .free →
        DispatchOk el (handleClientEvent el i events s)
          (handleClientEventTraced el i events s).1 := by
  refine ⟨by decide, by decide, ?_⟩
  intro h
  have hok := h 1 pendingLoop 0 (EPOLLIN ||| EPOLLOUT) refusesWrite rfl (by decide)
  exact hok.live ⟨.onRead, 0, .free⟩ (by decide) rfl

end EpollServer
