import CallCenter.EventLoop.Table
import CallCenter.Framework.Transition

/-! # Sending as a Byte Stream

    `el_send_data` promises a payload when it returns `EL_SEND_OK`, and
    `default_on_write` sends what is left of it.  On a stream the bytes that
    the kernel accepted should be a prefix of the payloads promised so far.

    The invariant is that the promised bytes are the accepted bytes followed
    by the pending ones.  Three steps break it: a send that replaces a
    pending payload, a failed registration behind a partial write, and a
    write error that nobody is told about.  `accepted_prefix` says that the
    runs without them are streams, `replaced_payload` that the first one
    really garbles the stream. -/

namespace EpollServer

open Descriptors Transition

variable {n : Nat}

/-! ## Section 1: Runs on one connection -/

/-- The bytes accepted for a descriptor, in order. -/
def sentOn (fd : Int) (log : List Event) : List UInt8 :=
  log.flatMap fun
    | .sent fd' data => if fd' = fd then data else []
    | _ => []

/-- The part of `send_buf` that is still to be sent. -/
def Connection.pending (c : Connection) : List UInt8 :=
  (c.sendBuf.drop c.sendOffset.toNat).take (c.sendLen - c.sendOffset).toNat

/-- The loop, and the payloads for which `EL_SEND_OK` was returned. -/
structure SendState (n : Nat) where
  el : EventLoop n
  promised : List UInt8

inductive SendLabel where
  | sendData (data : List UInt8) (answer : SendAnswer) (modOk : Bool)
  | writable (s : EventScript)

/-- A call for slot `i`, or a writable event of it. -/
def sendStep (i : Fin n) (st : SendState n) : SendLabel → SendState n
  | .sendData data answer modOk =>
    let (code, el) := elSendData st.el i data answer modOk
    { el, promised := if code = .sendOk then st.promised ++ data else st.promised }
  | .writable s => { st with el := defaultOnWrite st.el i s }

/-- A slot with a new client connection. -/
structure FreshClient (el : EventLoop n) (i : Fin n) : Prop where
  type_eq : (el.connections i).type = .tcpClient
  fd_nonneg : 0 ≤ (el.connections i).fd
  isOpen : el.kernel.isOpen (el.connections i).fd = true
  idle : (el.connections i).sendLen = 0 ∧ (el.connections i).sendOffset = 0

/-- What the kernel accepted for the connection of slot `i` of `el₀` since then. -/
def acceptedSince (el₀ el : EventLoop n) (i : Fin n) : List UInt8 :=
  sentOn (el₀.connections i).fd (el.kernel.log.drop el₀.kernel.log.length)

/-- The accepted bytes are a prefix of the promised ones. -/
def IsStream (el₀ : EventLoop n) (i : Fin n) (st : SendState n) : Prop :=
  acceptedSince el₀ st.el i <+: st.promised

/-! ### Steps that keep the stream in order -/

/-- `es_send_all` accepts a part of the payload, and `EPOLLOUT` cannot be
    registered. -/
def RegistrationLost (el : EventLoop n) (i : Fin n) (data : List UInt8) (answer : SendAnswer)
    (modOk : Bool) : Prop :=
  ∃ sent kernel, esSendAll el.kernel (el.connections i).fd data 0 data.length answer =
      (.sendPartial, sent, kernel) ∧ 0 < sent ∧
    (modFd kernel (el.connections i).fd (regEvents (el.connections i).type ||| EPOLLOUT)
      modOk).1 = false

/-- A call is rejected at once, or finds nothing pending and does not lose
    its registration; a write error is reported to `on_error`. -/
def Orderly (i : Fin n) (st : SendState n) : SendLabel → Prop
  | .sendData data answer modOk =>
    data.length = 0 ∨ elSendBufSize < data.length ∨
      ((st.el.connections i).pending = [] ∧ ¬ RegistrationLost st.el i data answer modOk)
  | .writable s =>
    s.send = .failed → (st.el.connections i).pending = [] ∨ st.el.callbacks.onError = true

/-! ## Section 2: What the calls log -/

@[simp] theorem sentOn_nil (fd : Int) : sentOn fd [] = [] := rfl

@[simp] theorem sentOn_append (fd : Int) (log events : List Event) :
    sentOn fd (log ++ events) = sentOn fd log ++ sentOn fd events := List.flatMap_append

theorem sentOn_sent (g fd : Int) (data : List UInt8) :
    sentOn g [.sent fd data] = if fd = g then data else [] := by
  simp [sentOn]

/-- The call appends events to the log of which none is a `sent`. -/
def Silent (k k' : Kernel) : Prop :=
  ∃ events, k'.log = k.log ++ events ∧ ∀ fd, sentOn fd events = []

theorem Silent.refl (k : Kernel) : Silent k k := ⟨[], by simp, fun _ => rfl⟩

theorem Silent.trans {k k' k'' : Kernel} (h : Silent k k') (h' : Silent k' k'') : Silent k k'' := by
  obtain ⟨events, hlog, hsent⟩ := h
  obtain ⟨events', hlog', hsent'⟩ := h'
  refine ⟨events ++ events', by rw [hlog', hlog, List.append_assoc], ?_⟩
  intro fd
  rw [sentOn_append, hsent, hsent', List.append_nil]

theorem silent_modFd (k : Kernel) (fd : Int) (mask : Mask) (ok : Bool) :
    Silent k (modFd k fd mask ok).2 := by
  unfold modFd
  split
  · exact ⟨[.modified fd mask], rfl, fun _ => rfl⟩
  · exact Silent.refl k

theorem silent_delFd (k : Kernel) (fd : Int) (ok : Bool) : Silent k (delFd k fd ok).2 := by
  unfold delFd
  split
  · exact ⟨[.removed fd], rfl, fun _ => rfl⟩
  · exact Silent.refl k

theorem silent_closeFd (k : Kernel) (fd : Int) : Silent k (closeFd k fd) := by
  unfold closeFd
  split <;> exact ⟨[.closed fd], rfl, fun _ => rfl⟩

/-- What `es_send_all` does with the bytes it is given. -/
structure Sends (k : Kernel) (fd : Int) (chunk : List UInt8) (code : EsSend) (sent : Int)
    (k' : Kernel) : Prop where
  isOpen : k'.isOpen = k.isOpen
  log : ∃ events, k'.log = k.log ++ events ∧
    ∀ g, sentOn g events = if fd = g then chunk.take sent.toNat else []
  nonneg : 0 ≤ sent
  all : code = .sendDone → chunk.length ≤ sent
  error : code = .sendErr → sent = 0

theorem esSendAll_sends {k k' : Kernel} {fd : Int} {buf : List UInt8} {offset len : Int}
    {answer : SendAnswer} {code : EsSend} {sent : Int}
    (h : esSendAll k fd buf offset len answer = (code, sent, k')) :
    Sends k fd ((buf.drop offset.toNat).take len.toNat) code sent k' := by
  have hquiet := quiet_esSendAll h
  have hnone : ∀ c : EsSend, c ≠ .sendDone → (c, (0 : Int), k) = (code, sent, k') →
      Sends k fd ((buf.drop offset.toNat).take len.toNat) code sent k' := by
    intro c hc heq
    cases heq
    exact ⟨rfl, ⟨[], by simp⟩, le_rfl, fun hdone => absurd hdone hc, fun _ => rfl⟩
  unfold esSendAll at h
  split at h
  · exact hnone .sendErr (by simp) h
  split at h
  · exact hnone .sendErr (by simp) h
  cases answer with
  | again => exact hnone .sendPartial (by simp) h
  | interrupted => exact hnone .sendPartial (by simp) h
  | failed => exact hnone .sendErr (by simp) h
  | accepted count =>
    cases h
    refine ⟨hquiet.isOpen, ⟨[.sent fd _], rfl, fun g => sentOn_sent g fd _⟩, by simp, ?_, ?_⟩
    · intro hdone
      rw [List.length_take]
      split at hdone
      · omega
      · cases hdone
    · intro herr
      split at herr <;> cases herr

/-- Only the bytes of the payload are looked at. -/
theorem esSendAll_append (k : Kernel) (fd : Int) (data rest : List UInt8) (answer : SendAnswer) :
    esSendAll k fd (data ++ rest) 0 data.length answer =
      esSendAll k fd data 0 data.length answer := by
  unfold esSendAll
  simp

/-- An error is a refusal, or a call that makes no sense. -/
theorem esSendAll_error {k k' : Kernel} {fd : Int} {buf : List UInt8} {offset len sent : Int}
    {answer : SendAnswer} (h : esSendAll k fd buf offset len answer = (.sendErr, sent, k')) :
    len ≤ 0 ∨ offset < 0 ∨ k.isOpen fd = false ∨ answer = .failed := by
  unfold esSendAll at h
  split at h
  · next hparam => tauto
  split at h
  · next hclosed => tauto
  cases answer with
  | failed => tauto
  | again | interrupted => cases h
  | accepted count =>
    obtain ⟨hcode, -⟩ := Prod.mk.inj h
    split at hcode <;> cases hcode

theorem pending_cleared {c : Connection} (hlen : c.sendLen = 0) (hoffset : c.sendOffset = 0) :
    c.pending = [] := by
  simp [Connection.pending, hlen, hoffset]

/-- Slot `i` stays, and the kernel accepts `chunk` for it. -/
structure Accepts (el el' : EventLoop n) (i : Fin n) (chunk : List UInt8) : Prop where
  fd_eq : (el'.connections i).fd = (el.connections i).fd
  type_eq : (el'.connections i).type = (el.connections i).type
  isOpen : el'.kernel.isOpen = el.kernel.isOpen
  offset_nonneg : 0 ≤ (el'.connections i).sendOffset
  log : ∃ events, el'.kernel.log = el.kernel.log ++ events ∧
    ∀ g, sentOn g events = if (el.connections i).fd = g then chunk else []

theorem Accepts.of_sends {el : EventLoop n} {i : Fin n} {chunk : List UInt8} {code : EsSend}
    {sent : Int} {kernel kernel' : Kernel}
    (hsends : Sends el.kernel (el.connections i).fd chunk code sent kernel)
    (hsilent : Silent kernel kernel') (hopen : kernel'.isOpen = kernel.isOpen) {c : Connection}
    (hfd : c.fd = (el.connections i).fd) (htype : c.type = (el.connections i).type)
    (hoffset : 0 ≤ c.sendOffset) :
    Accepts el { el.setConn i c with kernel := kernel' } i (chunk.take sent.toNat) := by
  obtain ⟨events, hlog, hsent⟩ := hsends.log
  obtain ⟨more, hmore, hnone⟩ := hsilent
  refine ⟨by simpa using hfd, by simpa using htype, hopen.trans hsends.isOpen, by simpa using
    hoffset, events ++ more, ?_, ?_⟩
  · rw [hmore, hlog, List.append_assoc]
  · intro g
    rw [sentOn_append, hsent, hnone, List.append_nil]

/-- **`el_send_data`**, unless it rejects its arguments: the kernel takes the
    first `k` bytes; the others stay pending, or the whole call fails. -/
theorem elSendData_spec (el : EventLoop n) (i : Fin n) {data : List UInt8}
    (hpos : data.length ≠ 0) (hfits : ¬ elSendBufSize < data.length) (answer : SendAnswer)
    (modOk : Bool) :
    ∃ k, Accepts el (elSendData el i data answer modOk).2 i (data.take k) ∧
      ((elSendData el i data answer modOk).1 = .sendOk ∧
          ((elSendData el i data answer modOk).2.connections i).pending = data.drop k ∨
        (elSendData el i data answer modOk).1 = .errParam ∧
          ((elSendData el i data answer modOk).2.connections i).pending = [] ∧
          (0 < k → RegistrationLost el i data answer modOk)) := by
  unfold elSendData
  rw [if_neg hpos, if_neg hfits]
  dsimp only
  rw [esSendAll_append]
  rcases hsend : esSendAll el.kernel (el.connections i).fd data 0 data.length answer with
    ⟨code, sent, kernel⟩
  have hsends := esSendAll_sends hsend
  have hchunk : (data.drop (0 : Int).toNat).take (data.length : Int).toNat = data := by simp
  rw [hchunk] at hsends
  refine ⟨sent.toNat, ?_⟩
  cases code with
  | sendDone =>
    refine ⟨Accepts.of_sends hsends (Silent.refl _) rfl rfl rfl le_rfl, Or.inl ⟨rfl, ?_⟩⟩
    have hall := hsends.all rfl
    have hle : data.length ≤ sent.toNat := by omega
    rw [List.drop_eq_nil_of_le hle]
    simp [pending_cleared]
  | sendErr =>
    refine ⟨Accepts.of_sends hsends (Silent.refl _) rfl rfl rfl le_rfl, Or.inr ⟨rfl, ?_, ?_⟩⟩
    · simp [pending_cleared]
    · have hzero := hsends.error rfl
      omega
  | sendPartial =>
    have hsilent := silent_modFd kernel (el.connections i).fd
      (regEvents (el.connections i).type ||| EPOLLOUT) modOk
    have hopen := (quiet_modFd kernel (el.connections i).fd
      (regEvents (el.connections i).type ||| EPOLLOUT) modOk).isOpen
    dsimp only
    rcases hmod : modFd kernel (el.connections i).fd
      (regEvents (el.connections i).type ||| EPOLLOUT) modOk with ⟨ok, kernel'⟩
    rw [hmod] at hsilent hopen
    cases ok with
    | true =>
      refine ⟨Accepts.of_sends hsends hsilent hopen rfl rfl hsends.nonneg, Or.inl ⟨rfl, ?_⟩⟩
      -- what is left in the buffer is the rest of the payload
      have hdrop : ((data ++ (el.connections i).sendBuf.drop data.length).drop sent.toNat).take
          ((data.length : Int) - sent).toNat = data.drop sent.toNat := by
        have hlen : ((data.length : Int) - sent).toNat = data.length - sent.toNat := by
          have hnonneg := hsends.nonneg
          omega
        rw [hlen, ← List.drop_take, List.take_left]
      simpa [Connection.pending] using hdrop
    | false =>
      refine ⟨Accepts.of_sends hsends hsilent hopen rfl rfl le_rfl, Or.inr ⟨rfl, ?_, ?_⟩⟩
      · simp [pending_cleared]
      · intro hpart
        exact ⟨sent, kernel, hsend, by omega, by rw [hmod]⟩

/-- The end of `default_on_write` when `sent` more bytes are accepted. -/
theorem onWrite_progress {el : EventLoop n} {i : Fin n}
    (hoffset : 0 ≤ (el.connections i).sendOffset) {code : EsSend} {sent : Int} {kernel : Kernel}
    (hsends : Sends el.kernel (el.connections i).fd (el.connections i).pending code sent kernel)
    (modOk : Bool) {el' : EventLoop n}
    (hel' : el' =
      if (el.connections i).sendLen ≤ (el.connections i).sendOffset + sent then
        { el.setConn i { el.connections i with sendLen := 0, sendOffset := 0 } with
          kernel := (modFd kernel (el.connections i).fd (regEvents (el.connections i).type)
            modOk).2 }
      else
        { el.setConn i { el.connections i with
            sendOffset := (el.connections i).sendOffset + sent } with kernel := kernel }) :
    Accepts el el' i ((el.connections i).pending.take sent.toNat) ∧
      (el'.connections i).pending = (el.connections i).pending.drop sent.toNat := by
  have hnonneg := hsends.nonneg
  subst hel'
  split
  · next hall =>
    refine ⟨Accepts.of_sends hsends (silent_modFd _ _ _ _) (quiet_modFd _ _ _ _).isOpen rfl rfl
      le_rfl, ?_⟩
    have hle : (el.connections i).pending.length ≤ sent.toNat := by
      unfold Connection.pending
      rw [List.length_take]
      omega
    rw [List.drop_eq_nil_of_le hle]
    simp [pending_cleared]
  · refine ⟨Accepts.of_sends hsends (Silent.refl _) rfl rfl rfl (by dsimp only; omega), ?_⟩
    have hdrop : ((el.connections i).sendOffset + sent).toNat =
        (el.connections i).sendOffset.toNat + sent.toNat := by omega
    have htake : ((el.connections i).sendLen - ((el.connections i).sendOffset + sent)).toNat =
        ((el.connections i).sendLen - (el.connections i).sendOffset).toNat - sent.toNat := by omega
    simp only [Connection.pending, setConn_self, hdrop, htake, List.drop_take, List.drop_drop]

/-- **`default_on_write`**: the kernel takes the first `k` pending bytes, or
    the write fails and `on_error` is called. -/
theorem defaultOnWrite_spec (el : EventLoop n) (i : Fin n)
    (hoffset : 0 ≤ (el.connections i).sendOffset) (s : EventScript) :
    (∃ k, Accepts el (defaultOnWrite el i s) i ((el.connections i).pending.take k) ∧
        ((defaultOnWrite el i s).connections i).pending = (el.connections i).pending.drop k) ∨
      ∃ el₁, Accepts el el₁ i [] ∧ (el₁.connections i).pending = [] ∧
        el₁.callbacks = el.callbacks ∧ defaultOnWrite el i s = callOnError el₁ i s.delOk ∧
        (el.kernel.isOpen (el.connections i).fd = false ∨ s.send = .failed) := by
  unfold defaultOnWrite
  dsimp only
  split
  · next hidle =>
    have hnone : (el.connections i).pending = [] := by
      have hlen : ((el.connections i).sendLen - (el.connections i).sendOffset).toNat = 0 := by
        omega
      simp [Connection.pending, hlen]
    left
    refine ⟨0, ?_, ?_⟩
    · have hsends : Sends el.kernel (el.connections i).fd [] .sendPartial 0 el.kernel :=
        ⟨rfl, ⟨[], by simp⟩, le_rfl, by simp, by simp⟩
      exact Accepts.of_sends hsends (silent_modFd _ _ _ _) (quiet_modFd _ _ _ _).isOpen rfl rfl
        le_rfl
    · rw [hnone]
      simp [pending_cleared]
  next hpending =>
    rcases hsend : esSendAll el.kernel (el.connections i).fd (el.connections i).sendBuf
      (el.connections i).sendOffset ((el.connections i).sendLen - (el.connections i).sendOffset)
      s.send with ⟨code, sent, kernel⟩
    have hsends : Sends el.kernel (el.connections i).fd (el.connections i).pending code sent
      kernel := esSendAll_sends hsend
    have hnonneg := hsends.nonneg
    cases code with
    | sendErr =>
      right
      refine ⟨{ el.setConn i { el.connections i with sendLen := 0, sendOffset := 0 } with
        kernel := kernel }, ?_, ?_, rfl, rfl, ?_⟩
      · have hnone : Accepts el _ i ((el.connections i).pending.take sent.toNat) :=
          Accepts.of_sends (c := { el.connections i with sendLen := 0, sendOffset := 0 }) hsends
            (Silent.refl _) rfl rfl rfl le_rfl
        rwa [hsends.error rfl] at hnone
      · simp [pending_cleared]
      · rcases esSendAll_error hsend with h | h | h | h
        · omega
        · omega
        · exact Or.inl h
        · exact Or.inr h
    | sendDone => exact Or.inl ⟨sent.toNat, onWrite_progress hoffset hsends s.modOk rfl⟩
    | sendPartial => exact Or.inl ⟨sent.toNat, onWrite_progress hoffset hsends s.modOk rfl⟩

/-! ### Closing the slot -/

theorem elRemoveConnection_of_free {el : EventLoop n} {i : Fin n}
    (hfree : (el.connections i).type = .free) (delOk : Bool) :
    elRemoveConnection el i delOk = el := by
  unfold elRemoveConnection
  dsimp only
  rw [if_pos hfree]

/-- The descriptor is closed and the slot cleared. -/
theorem elRemoveConnection_of_live {el : EventLoop n} {i : Fin n}
    (hlive : (el.connections i).type ≠ .free) (delOk : Bool) :
    Silent el.kernel (elRemoveConnection el i delOk).kernel ∧
      (elRemoveConnection el i delOk).connections i = freeConnection (el.connections i) := by
  unfold elRemoveConnection
  dsimp only
  rw [if_neg hlive]
  refine ⟨?_, setConn_self _ _ _⟩
  show Silent el.kernel (if 0 ≤ (el.connections i).fd then _ else _)
  split
  · exact (silent_delFd _ _ _).trans (silent_closeFd _ _)
  · exact Silent.refl _

/-- `on_error` closes a slot in use, if it is set. -/
theorem callOnError_spec (el : EventLoop n) (i : Fin n) (delOk : Bool) :
    Silent el.kernel (callOnError el i delOk).kernel ∧
      (el.callbacks.onError = false ∧ callOnError el i delOk = el ∨
        (el.connections i).type = .free ∧
          ((callOnError el i delOk).connections i).fd = (el.connections i).fd ∧
          ((callOnError el i delOk).connections i).sendOffset = (el.connections i).sendOffset ∨
        ((callOnError el i delOk).connections i).fd = -1 ∧
          ((callOnError el i delOk).connections i).sendOffset = 0) := by
  unfold callOnError
  split
  · unfold defaultOnError callOnClose defaultOnClose
    dsimp only
    generalize hel : el.setConn i { el.connections i with state := .error } = el₁
    have hkernel : el₁.kernel = el.kernel := by rw [← hel]; rfl
    have hconn : el₁.connections i = { el.connections i with state := .error } := by
      rw [← hel, setConn_self]
    by_cases hfree : (el.connections i).type = .free
    · have hfree₁ : (el₁.connections i).type = .free := by rw [hconn]; exact hfree
      rw [elRemoveConnection_of_free hfree₁, ite_self, elRemoveConnection_of_free hfree₁, hkernel,
        hconn]
      exact ⟨Silent.refl _, Or.inr (Or.inl ⟨hfree, rfl, rfl⟩)⟩
    · have hlive₁ : (el₁.connections i).type ≠ .free := by rw [hconn]; exact hfree
      obtain ⟨hsilent, hremoved⟩ := elRemoveConnection_of_live hlive₁ delOk
      rw [hkernel] at hsilent
      -- the second removal finds the slot free, or is the first one
      split
      · have hdone : ((elRemoveConnection el₁ i delOk).connections i).type = .free := by
          rw [hremoved]
          rfl
        rw [elRemoveConnection_of_free hdone, hremoved]
        exact ⟨hsilent, Or.inr (Or.inr ⟨rfl, rfl⟩)⟩
      · rw [hremoved]
        exact ⟨hsilent, Or.inr (Or.inr ⟨rfl, rfl⟩)⟩
  · next hnull => exact ⟨Silent.refl _, Or.inl ⟨by simpa using hnull, rfl⟩⟩

/-! ## Section 3: The invariant -/

/-- Behind the accepted bytes the promised ones are still pending. -/
structure Streaming (fd : Int) (events : List Event) (i : Fin n) (st : SendState n) : Prop where
  fd_eq : (st.el.connections i).fd = fd
  type_eq : (st.el.connections i).type = .tcpClient
  isOpen : st.el.kernel.isOpen fd = true
  offset_nonneg : 0 ≤ (st.el.connections i).sendOffset
  promised_eq : st.promised = sentOn fd events ++ (st.el.connections i).pending

/-- The slot has lost its descriptor. -/
structure Gone (fd : Int) (events : List Event) (i : Fin n) (st : SendState n) : Prop where
  fd_ne : (st.el.connections i).fd ≠ fd
  offset_nonneg : 0 ≤ (st.el.connections i).sendOffset
  accepted : sentOn fd events <+: st.promised

/-- The events since `log₀` make a stream. -/
def StreamInv (fd : Int) (log₀ : List Event) (i : Fin n) (st : SendState n) : Prop :=
  ∃ events, st.el.kernel.log = log₀ ++ events ∧
    (Streaming fd events i st ∨ Gone fd events i st)

theorem Accepts.extend {el el' : EventLoop n} {i : Fin n} {chunk : List UInt8}
    (h : Accepts el el' i chunk) {log₀ events : List Event}
    (hlog : el.kernel.log = log₀ ++ events) :
    ∃ events', el'.kernel.log = log₀ ++ events' ∧
      ∀ g, sentOn g events' =
        sentOn g events ++ if (el.connections i).fd = g then chunk else [] := by
  obtain ⟨more, hmore, hsent⟩ := h.log
  refine ⟨events ++ more, by rw [hmore, hlog, List.append_assoc], ?_⟩
  intro g
  rw [sentOn_append, hsent]

section Step

variable {fd : Int} {log₀ events : List Event} {i : Fin n} {st : SendState n}

/-- The bytes accepted come from the front of what is promised. -/
theorem Streaming.accepts (h : Streaming fd events i st)
    (hlog : st.el.kernel.log = log₀ ++ events) {el' : EventLoop n} {chunk promised : List UInt8}
    (haccepts : Accepts st.el el' i chunk)
    (hpromised : promised = sentOn fd events ++ chunk ++ (el'.connections i).pending) :
    StreamInv fd log₀ i ⟨el', promised⟩ := by
  obtain ⟨events', hlog', hsent⟩ := haccepts.extend hlog
  have hfd : sentOn fd events' = sentOn fd events ++ chunk := by
    rw [hsent, if_pos h.fd_eq]
  refine ⟨events', hlog', Or.inl ?_⟩
  exact {
    fd_eq := haccepts.fd_eq.trans h.fd_eq
    type_eq := haccepts.type_eq.trans h.type_eq
    isOpen := by rw [haccepts.isOpen]; exact h.isOpen
    offset_nonneg := haccepts.offset_nonneg
    promised_eq := by rw [hfd]; exact hpromised }

/-- What another descriptor accepts is not counted. -/
theorem Gone.accepts (h : Gone fd events i st) (hlog : st.el.kernel.log = log₀ ++ events)
    {el' : EventLoop n} {chunk promised : List UInt8} (haccepts : Accepts st.el el' i chunk)
    (hpromised : st.promised <+: promised) : StreamInv fd log₀ i ⟨el', promised⟩ := by
  obtain ⟨events', hlog', hsent⟩ := haccepts.extend hlog
  refine ⟨events', hlog', Or.inr ?_⟩
  exact {
    fd_ne := by rw [haccepts.fd_eq]; exact h.fd_ne
    offset_nonneg := haccepts.offset_nonneg
    accepted := by
      rw [hsent, if_neg h.fd_ne, List.append_nil]
      exact h.accepted.trans hpromised }

/-- A call keeps the stream in order. -/
theorem StreamInv.sendData (hinv : StreamInv fd log₀ i st) {data : List UInt8}
    {answer : SendAnswer} {modOk : Bool}
    (hok : Orderly i st (.sendData data answer modOk)) :
    StreamInv fd log₀ i (sendStep i st (.sendData data answer modOk)) := by
  show StreamInv fd log₀ i ⟨(elSendData st.el i data answer modOk).2,
    if (elSendData st.el i data answer modOk).1 = .sendOk then st.promised ++ data
    else st.promised⟩
  by_cases hpos : data.length = 0
  · have hreject : elSendData st.el i data answer modOk = (.errParam, st.el) := by
      unfold elSendData
      rw [if_pos hpos]
    rw [hreject]
    exact hinv
  by_cases hfits : elSendBufSize < data.length
  · have hreject : elSendData st.el i data answer modOk = (.errFull, st.el) := by
      unfold elSendData
      rw [if_neg hpos, if_pos hfits]
    rw [hreject]
    exact hinv
  obtain ⟨hpending, hregistered⟩ : (st.el.connections i).pending = [] ∧
      ¬ RegistrationLost st.el i data answer modOk := by
    rcases hok with h | h | h
    · exact absurd h hpos
    · exact absurd h hfits
    · exact h
  obtain ⟨k, haccepts, hresult⟩ := elSendData_spec st.el i hpos hfits answer modOk
  obtain ⟨events, hlog, hstream | hgone⟩ := hinv
  · have hpromised := hstream.promised_eq
    rw [hpending, List.append_nil] at hpromised
    rcases hresult with ⟨hcode, hrest⟩ | ⟨hcode, hrest, hlost⟩
    · rw [if_pos hcode]
      apply hstream.accepts hlog haccepts
      rw [hrest, hpromised, List.append_assoc, List.take_append_drop]
    · -- nothing was accepted, or the registration would be lost
      have hzero : k = 0 := by
        by_contra hk
        exact hregistered (hlost (by omega))
      rw [if_neg (by rw [hcode]; simp)]
      apply hstream.accepts hlog haccepts
      rw [hrest, hpromised, hzero]
      simp
  · apply hgone.accepts hlog haccepts
    split
    · exact List.prefix_append _ _
    · exact List.prefix_rfl

/-- A writable event keeps it in order. -/
theorem StreamInv.writable (hfd : 0 ≤ fd) (hinv : StreamInv fd log₀ i st) {s : EventScript}
    (hok : Orderly i st (.writable s)) : StreamInv fd log₀ i (sendStep i st (.writable s)) := by
  show StreamInv fd log₀ i ⟨defaultOnWrite st.el i s, st.promised⟩
  obtain ⟨events, hlog, hslot⟩ := hinv
  have hoffset : 0 ≤ (st.el.connections i).sendOffset := by
    rcases hslot with h | h
    · exact h.offset_nonneg
    · exact h.offset_nonneg
  rcases defaultOnWrite_spec st.el i hoffset s with
    ⟨k, haccepts, hrest⟩ | ⟨el₁, haccepts, hnone, hcallbacks, heq, hcause⟩
  · rcases hslot with hstream | hgone
    · apply hstream.accepts hlog haccepts
      rw [hrest, hstream.promised_eq, List.append_assoc, List.take_append_drop]
    · exact hgone.accepts hlog haccepts List.prefix_rfl
  · obtain ⟨events', hlog', hsent⟩ := haccepts.extend hlog
    obtain ⟨hsilent, hend⟩ := callOnError_spec el₁ i s.delOk
    obtain ⟨more, hmore, hquiet⟩ := hsilent
    have hlog'' : (callOnError el₁ i s.delOk).kernel.log = log₀ ++ (events' ++ more) := by
      rw [hmore, hlog', List.append_assoc]
    have hsame : sentOn fd (events' ++ more) = sentOn fd events := by
      rw [sentOn_append, hsent, hquiet, ite_self, List.append_nil, List.append_nil]
    have haccepted : sentOn fd (events' ++ more) <+: st.promised := by
      rw [hsame]
      rcases hslot with h | h
      · rw [h.promised_eq]
        exact List.prefix_append _ _
      · exact h.accepted
    rw [heq]
    rcases hend with ⟨hnull, hunchanged⟩ | ⟨hfree, hsameFd, hsameOffset⟩ | ⟨hclosed, hzero⟩
    · rw [hunchanged]
      rcases hslot with hstream | hgone
      · -- nobody is told, so nothing may have been pending
        have hpending : (st.el.connections i).pending = [] := by
          rcases hcause with hclosed | hfailed
          · rw [hstream.fd_eq, hstream.isOpen] at hclosed
            cases hclosed
          · rcases hok hfailed with h | h
            · exact h
            · rw [← hcallbacks, hnull] at h
              cases h
        apply hstream.accepts hlog haccepts
        rw [hnone, hstream.promised_eq, hpending]
        simp
      · exact hgone.accepts hlog haccepts List.prefix_rfl
    · rcases hslot with hstream | hgone
      · rw [haccepts.type_eq, hstream.type_eq] at hfree
        cases hfree
      · refine ⟨_, hlog'', Or.inr ⟨?_, ?_, haccepted⟩⟩
        · show ((callOnError el₁ i s.delOk).connections i).fd ≠ fd
          rw [hsameFd, haccepts.fd_eq]
          exact hgone.fd_ne
        · show 0 ≤ ((callOnError el₁ i s.delOk).connections i).sendOffset
          rw [hsameOffset]
          exact haccepts.offset_nonneg
    · refine ⟨_, hlog'', Or.inr ⟨?_, ?_, haccepted⟩⟩
      · show ((callOnError el₁ i s.delOk).connections i).fd ≠ fd
        omega
      · show 0 ≤ ((callOnError el₁ i s.delOk).connections i).sendOffset
        omega

end Step

theorem streamInv_fresh {el : EventLoop n} {i : Fin n} (h : FreshClient el i) :
    StreamInv (el.connections i).fd el.kernel.log i ⟨el, []⟩ := by
  refine ⟨[], by simp, Or.inl ?_⟩
  exact {
    fd_eq := rfl
    type_eq := h.type_eq
    isOpen := h.isOpen
    offset_nonneg := by rw [h.idle.2]
    promised_eq := by simp [pending_cleared h.idle.1 h.idle.2] }

theorem streamInv_run {el : EventLoop n} {i : Fin n} (h : FreshClient el i)
    {labels : List SendLabel} {st : SendState n}
    (hrun : Run (restrict (ofFun (sendStep i)) (Orderly i)) ⟨el, []⟩ labels st) :
    StreamInv (el.connections i).fd el.kernel.log i st := by
  apply hrun.invariant (streamInv_fresh h)
  rintro st label st' hinv ⟨hok, rfl⟩
  cases label with
  | sendData data answer modOk => exact hinv.sendData hok
  | writable s => exact hinv.writable h.fd_nonneg hok

/-- **Sending is a byte stream** as long as no pending payload is replaced,
    no registration fails behind a partial write and no write error goes
    unreported: what the kernel accepted is a prefix of what was promised. -/
theorem accepted_prefix {el : EventLoop n} {i : Fin n} (h : FreshClient el i)
    {labels : List SendLabel} {st : SendState n}
    (hrun : Run (restrict (ofFun (sendStep i)) (Orderly i)) ⟨el, []⟩ labels st) :
    IsStream el i st := by
  obtain ⟨events, hlog, hslot⟩ := streamInv_run h hrun
  unfold IsStream acceptedSince
  rw [hlog, List.drop_left]
  rcases hslot with hstream | hgone
  · rw [hstream.promised_eq]
    exact List.prefix_append _ _
  · exact hgone.accepted

/-! ## Section 4: One run in order and one that is not -/

/-- One slot with a client on descriptor 5. -/
def clientLoop : EventLoop 1 where
  config := ⟨5060, 128, 1, 300, 100, 1024⟩
  callbacks := defaultCallbacks
  connections := fun _ => { Connection.zero with fd := 5, type := .tcpClient }
  activeCount := 1
  sipListenFd := -1
  lastIdleCheck := 0
  kernel :=
    { isOpen := fun fd => fd = 5
      interest := fun fd => if fd = 5 then some defaultTcpEvents else none
      log := [] }

theorem freshClient_clientLoop : FreshClient clientLoop 0 where
  type_eq := rfl
  fd_nonneg := by decide
  isOpen := by decide
  idle := ⟨rfl, rfl⟩

/-- A writable event at which `send` takes `count` bytes. -/
def writes (count : Nat) : EventScript where
  now := 0
  delOk := true
  modOk := true
  send := .accepted count
  reads := []
  accepts := []

/-- A payload in two parts. -/
theorem accepted_prefix_two_parts :
    IsStream clientLoop 0
      ([.sendData [1, 2, 3] (.accepted 1) true, .writable (writes 2)].foldl (sendStep 0)
        ⟨clientLoop, []⟩) := by
  have hfirst : restrict (ofFun (sendStep 0)) (Orderly 0) ⟨clientLoop, []⟩
      (.sendData [1, 2, 3] (.accepted 1) true)
      (sendStep 0 ⟨clientLoop, []⟩ (.sendData [1, 2, 3] (.accepted 1) true)) := by
    refine ⟨Or.inr (Or.inr ⟨rfl, ?_⟩), rfl⟩
    rintro ⟨sent, kernel, hsend, -, hmod⟩
    obtain ⟨-, hsend⟩ := Prod.mk.inj hsend
    obtain ⟨-, rfl⟩ := Prod.mk.inj hsend
    exact absurd hmod (by decide)
  have hsecond : restrict (ofFun (sendStep 0)) (Orderly 0)
      (sendStep 0 ⟨clientLoop, []⟩ (.sendData [1, 2, 3] (.accepted 1) true))
      (.writable (writes 2))
      ([.sendData [1, 2, 3] (.accepted 1) true, .writable (writes 2)].foldl (sendStep 0)
        ⟨clientLoop, []⟩) := by
    refine ⟨?_, rfl⟩
    intro hfailed
    cases hfailed
  exact accepted_prefix freshClient_clientLoop (Run.cons hfirst (Run.single hsecond))

/-- A second payload takes the place of the rest of the first one. -/
theorem replaced_payload :
    ¬ ∀ (n : Nat) (el : EventLoop n) (i : Fin n) (labels : List SendLabel) (st : SendState n),
      FreshClient el i → Run (ofFun (sendStep i)) ⟨el, []⟩ labels st → IsStream el i st := by
  intro h
  have hstream := h 1 clientLoop 0
    [.sendData [1, 2, 3] (.accepted 1) true, .sendData [4] (.accepted 1) true] _
    freshClient_clientLoop (run_ofFun_iff.mpr rfl)
  unfold IsStream at hstream
  revert hstream
  decide

end EpollServer
