import CallCenter.EventLoop.Stream

/-! # The Send State of a Connection

    `el_send_data` and `default_on_write` share `send_buf`, `send_len` and
    `send_offset` of a slot.  In edge-triggered mode what is left in the
    buffer goes out only if the descriptor is registered for `EPOLLOUT`.

    `SendOk` is the invariant of one slot.  The two functions keep it under
    any callbacks (`sendInv_step`); every slot of a server that runs under the
    default callbacks has it (`SendTable`), because nothing else changes the
    registration of a descriptor with pending data. -/

namespace EpollServer

open Descriptors Transition

variable {n : Nat}

/-! ## Section 1: The invariant -/

/-- The descriptor is registered with a mask that asks for `EPOLLOUT`. -/
def WaitsForWrite (kernel : Kernel) (fd : Int) : Prop :=
  ∃ mask, kernel.interest fd = some mask ∧ has mask EPOLLOUT = true

structure SendOk (kernel : Kernel) (c : Connection) : Prop where
  offset_nonneg : 0 ≤ c.sendOffset
  offset_le : c.sendOffset ≤ c.sendLen
  len_le : c.sendLen ≤ elSendBufSize
  registered : c.sendOffset < c.sendLen → WaitsForWrite kernel c.fd

/-- A call of `es_send_all`: the range of `send_buf` it is given, and
    `send_len` at that moment. -/
structure Handed where
  offset : Int
  len : Int
  sendLen : Int
  deriving DecidableEq, Repr

/-- The range lies inside `[0, send_len)`. -/
def Handed.Inside (r : Handed) : Prop :=
  0 ≤ r.offset ∧ 0 < r.len ∧ r.offset + r.len ≤ r.sendLen

/-- What `el_send_data` hands over, unless it rejects its arguments. -/
def handedBySend (data : List UInt8) : Option Handed :=
  if data.length = 0 then none
  else if elSendBufSize < data.length then none
  else some ⟨0, data.length, data.length⟩

/-- What `default_on_write` hands over, if anything is pending. -/
def handedByWrite (conn : Connection) : Option Handed :=
  if conn.sendLen ≤ 0 ∨ conn.sendLen ≤ conn.sendOffset then none
  else some ⟨conn.sendOffset, conn.sendLen - conn.sendOffset, conn.sendLen⟩

def handed (i : Fin n) (st : SendState n) : SendLabel → Option Handed
  | .sendData data _ _ => handedBySend data
  | .writable _ => handedByWrite (st.el.connections i)

/-! ### The calls around `es_send_all` -/

/-- `send_buf`, `send_len` and `send_offset` when `el_send_data` makes its call. -/
def loadBuffer (conn : Connection) (data : List UInt8) : Connection :=
  { conn with
    sendBuf := data ++ conn.sendBuf.drop data.length
    sendLen := data.length
    sendOffset := 0 }

def clearSend (conn : Connection) : Connection := { conn with sendLen := 0, sendOffset := 0 }

/-- `el_send_data` after its call of `es_send_all`. -/
def finishSend (el : EventLoop n) (i : Fin n) (conn : Connection) (modOk : Bool) :
    EsSend × Int × Kernel → ElSend × EventLoop n
  | (.sendDone, _, kernel) => (.sendOk, { el.setConn i (clearSend conn) with kernel })
  | (.sendPartial, sent, kernel) =>
    match modFd kernel conn.fd (regEvents conn.type ||| EPOLLOUT) modOk with
    | (true, kernel) => (.sendOk, { el.setConn i { conn with sendOffset := sent } with kernel })
    | (false, kernel) => (.errParam, { el.setConn i (clearSend conn) with kernel })
  | (.sendErr, _, kernel) => (.errParam, { el.setConn i (clearSend conn) with kernel })

/-- `el_send_data` calls `es_send_all` on the range of `handedBySend`, or
    rejects its arguments. -/
theorem elSendData_eq (el : EventLoop n) (i : Fin n) (data : List UInt8) (answer : SendAnswer)
    (modOk : Bool) :
    elSendData el i data answer modOk =
      match handedBySend data with
      | none => (if data.length = 0 then .errParam else .errFull, el)
      | some r =>
        let conn := loadBuffer (el.connections i) data
        finishSend el i conn modOk
          (esSendAll el.kernel conn.fd conn.sendBuf r.offset r.len answer) := by
  unfold elSendData handedBySend
  split
  · rfl
  split
  · rfl
  dsimp only [loadBuffer]
  rcases esSendAll el.kernel (el.connections i).fd
    (data ++ (el.connections i).sendBuf.drop data.length) 0 data.length answer with
    ⟨code, sent, kernel⟩
  cases code with
  | sendDone | sendErr => rfl
  | sendPartial =>
    dsimp only [finishSend]
    rcases modFd kernel (el.connections i).fd (regEvents (el.connections i).type ||| EPOLLOUT)
      modOk with ⟨ok, kernel'⟩
    cases ok <;> rfl

/-- `default_on_write` when it finds nothing to send, or has sent the last byte. -/
def stopWriting (el : EventLoop n) (i : Fin n) (kernel : Kernel) (modOk : Bool) : EventLoop n :=
  let conn := el.connections i
  { el.setConn i (clearSend conn) with
    kernel := (modFd kernel conn.fd (regEvents conn.type) modOk).2 }

/-- `default_on_write` after its call of `es_send_all`. -/
def finishWrite (el : EventLoop n) (i : Fin n) (s : EventScript) :
    EsSend × Int × Kernel → EventLoop n
  | (.sendErr, _, kernel) =>
    callOnError { el.setConn i (clearSend (el.connections i)) with kernel } i s.delOk
  | (_, sent, kernel) =>
    let conn := el.connections i
    if conn.sendLen ≤ conn.sendOffset + sent then stopWriting el i kernel s.modOk
    else { el.setConn i { conn with sendOffset := conn.sendOffset + sent } with kernel }

/-- `default_on_write` calls `es_send_all` on the range of `handedByWrite`. -/
theorem defaultOnWrite_eq (el : EventLoop n) (i : Fin n) (s : EventScript) :
    defaultOnWrite el i s =
      match handedByWrite (el.connections i) with
      | none => stopWriting el i el.kernel s.modOk
      | some r =>
        finishWrite el i s (esSendAll el.kernel (el.connections i).fd
          (el.connections i).sendBuf r.offset r.len s.send) := by
  unfold defaultOnWrite handedByWrite
  dsimp only
  split
  · rfl
  dsimp only
  rcases esSendAll el.kernel (el.connections i).fd (el.connections i).sendBuf
    (el.connections i).sendOffset ((el.connections i).sendLen - (el.connections i).sendOffset)
    s.send with ⟨code, sent, kernel⟩
  cases code with
  | sendErr | sendDone | sendPartial => rfl

/-- The two functions call `es_send_all` on the range of `handed`, when
    `send_len` is what it says, and on no other. -/
def CallsHanded (i : Fin n) (st : SendState n) : SendLabel → Prop
  | .sendData data answer modOk =>
    let conn := loadBuffer (st.el.connections i) data
    let call := handed i st (.sendData data answer modOk)
    (∀ r, call = some r → r.sendLen = conn.sendLen) ∧
      elSendData st.el i data answer modOk =
        call.elim (if data.length = 0 then .errParam else .errFull, st.el) fun r =>
          finishSend st.el i conn modOk
            (esSendAll st.el.kernel conn.fd conn.sendBuf r.offset r.len answer)
  | .writable s =>
    let conn := st.el.connections i
    let call := handed i st (.writable s)
    (∀ r, call = some r → r.sendLen = conn.sendLen) ∧
      defaultOnWrite st.el i s =
        call.elim (stopWriting st.el i st.el.kernel s.modOk) fun r =>
          finishWrite st.el i s
            (esSendAll st.el.kernel conn.fd conn.sendBuf r.offset r.len s.send)

theorem callsHanded (i : Fin n) (st : SendState n) (label : SendLabel) :
    CallsHanded i st label := by
  cases label with
  | sendData data answer modOk =>
    refine ⟨?_, ?_⟩
    · intro r hr
      simp only [handed, handedBySend] at hr
      split_ifs at hr
      obtain rfl := Option.some.inj hr
      rfl
    · rw [elSendData_eq]
      dsimp only [handed]
      cases handedBySend data <;> rfl
  | writable s =>
    refine ⟨?_, ?_⟩
    · intro r hr
      simp only [handed, handedByWrite] at hr
      split_ifs at hr
      obtain rfl := Option.some.inj hr
      rfl
    · rw [defaultOnWrite_eq]
      dsimp only [handed]
      cases handedByWrite (st.el.connections i) <;> rfl

/-! ## Section 2: One slot -/

theorem SendOk.of_idle {kernel : Kernel} {c : Connection} (hlen : c.sendLen = 0)
    (hoffset : c.sendOffset = 0) : SendOk kernel c where
  offset_nonneg := by omega
  offset_le := by omega
  len_le := by rw [hlen]; simp
  registered := fun hpending => by omega

theorem sendOk_clearSend (kernel : Kernel) (c : Connection) : SendOk kernel (clearSend c) :=
  SendOk.of_idle rfl rfl

/-- The same send state under a kernel that still waits for the descriptor. -/
theorem SendOk.transfer {kernel kernel' : Kernel} {c c' : Connection} (h : SendOk kernel c)
    (hlen : c'.sendLen = c.sendLen) (hoffset : c'.sendOffset = c.sendOffset)
    (hwaits : WaitsForWrite kernel c.fd → WaitsForWrite kernel' c'.fd) : SendOk kernel' c' where
  offset_nonneg := hoffset ▸ h.offset_nonneg
  offset_le := hlen ▸ hoffset ▸ h.offset_le
  len_le := hlen ▸ h.len_le
  registered := fun hpending => hwaits (h.registered (by omega))

theorem interest_esSendAll {k k' : Kernel} {fd : Int} {buf : List UInt8} {offset len sent : Int}
    {answer : SendAnswer} {code : EsSend}
    (h : esSendAll k fd buf offset len answer = (code, sent, k')) : k'.interest = k.interest := by
  unfold esSendAll at h
  split at h
  · cases h
    rfl
  split at h
  · cases h
    rfl
  cases answer with
  | again | interrupted | failed =>
    cases h
    rfl
  | accepted count =>
    cases h
    rfl

/-- A partial result of a range that is not empty. -/
theorem sent_esSendAll {k k' : Kernel} {fd : Int} {buf : List UInt8} {offset len sent : Int}
    {answer : SendAnswer}
    (h : esSendAll k fd buf offset len answer = (.sendPartial, sent, k')) :
    0 ≤ sent ∧ sent < len := by
  unfold esSendAll at h
  split at h
  · cases h
  next hparam =>
    split at h
    · cases h
    cases answer with
    | failed => cases h
    | again | interrupted =>
      cases h
      omega
    | accepted count =>
      obtain ⟨hcode, hsent⟩ := Prod.mk.inj h
      obtain ⟨rfl, -⟩ := Prod.mk.inj hsent
      split at hcode
      · cases hcode
      · omega

theorem interest_modFd {k k' : Kernel} {fd : Int} {mask : Mask} {ok : Bool}
    (h : modFd k fd mask ok = (true, k')) : k'.interest fd = some mask := by
  unfold modFd at h
  split at h
  · cases h
    simp [Kernel.record]
  · cases h

theorem has_EPOLLOUT (type : ConnType) : has (regEvents type ||| EPOLLOUT) EPOLLOUT = true := by
  cases type <;> decide

/-- What `el_send_data` leaves behind is registered, or nothing. -/
theorem sendOk_elSendData {el : EventLoop n} {i : Fin n}
    (h : SendOk el.kernel (el.connections i)) (data : List UInt8) (answer : SendAnswer)
    (modOk : Bool) :
    SendOk (elSendData el i data answer modOk).2.kernel
      ((elSendData el i data answer modOk).2.connections i) := by
  rw [elSendData_eq]
  unfold handedBySend
  split_ifs with hpos hfits
  · exact h
  · exact h
  dsimp only
  rcases hsend : esSendAll el.kernel (loadBuffer (el.connections i) data).fd
    (loadBuffer (el.connections i) data).sendBuf 0 data.length answer with ⟨code, sent, kernel⟩
  cases code with
  | sendDone | sendErr => simpa [finishSend] using sendOk_clearSend _ _
  | sendPartial =>
    dsimp only [finishSend]
    split
    · next kernel' hmod =>
      obtain ⟨hnonneg, hlt⟩ := sent_esSendAll hsend
      simp only [setConn_self]
      exact {
        offset_nonneg := hnonneg
        offset_le := hlt.le
        len_le := by
          show ((data.length : Nat) : Int) ≤ (elSendBufSize : Int)
          omega
        registered := fun _ => ⟨_, interest_modFd hmod, has_EPOLLOUT _⟩ }
    · simpa using sendOk_clearSend _ _

theorem sendOk_elRemoveConnection {el : EventLoop n} {i : Fin n}
    (h : SendOk el.kernel (el.connections i)) (delOk : Bool) :
    SendOk (elRemoveConnection el i delOk).kernel
      ((elRemoveConnection el i delOk).connections i) := by
  by_cases hfree : (el.connections i).type = .free
  · rwa [elRemoveConnection_of_free hfree]
  · rw [(elRemoveConnection_of_live hfree delOk).2]
    exact SendOk.of_idle rfl rfl

theorem sendOk_callOnError {el : EventLoop n} {i : Fin n}
    (h : SendOk el.kernel (el.connections i)) (delOk : Bool) :
    SendOk (callOnError el i delOk).kernel ((callOnError el i delOk).connections i) := by
  unfold callOnError
  split
  · have hstate : SendOk (el.setConn i { el.connections i with state := .error }).kernel
        ((el.setConn i { el.connections i with state := .error }).connections i) := by
      rw [setConn_self]
      exact h.transfer rfl rfl id
    apply sendOk_elRemoveConnection
    unfold callOnClose
    split
    · exact sendOk_elRemoveConnection hstate delOk
    · exact hstate
  · exact h

/-- What `default_on_write` leaves behind was already registered. -/
theorem sendOk_defaultOnWrite {el : EventLoop n} {i : Fin n}
    (h : SendOk el.kernel (el.connections i)) (s : EventScript) :
    SendOk (defaultOnWrite el i s).kernel ((defaultOnWrite el i s).connections i) := by
  have hstop : ∀ kernel, SendOk (stopWriting el i kernel s.modOk).kernel
      ((stopWriting el i kernel s.modOk).connections i) := by
    intro kernel
    simpa [stopWriting] using sendOk_clearSend _ _
  rw [defaultOnWrite_eq]
  unfold handedByWrite
  split_ifs with hidle
  · exact hstop _
  dsimp only
  rcases hsend : esSendAll el.kernel (el.connections i).fd (el.connections i).sendBuf
    (el.connections i).sendOffset ((el.connections i).sendLen - (el.connections i).sendOffset)
    s.send with ⟨code, sent, kernel⟩
  have hint := interest_esSendAll hsend
  have hnonneg := (esSendAll_sends hsend).nonneg
  have hoffset := h.offset_nonneg
  have hrest : ¬ (el.connections i).sendLen ≤ (el.connections i).sendOffset + sent →
      SendOk kernel { el.connections i with
        sendOffset := (el.connections i).sendOffset + sent } := by
    intro hleft
    exact {
      offset_nonneg := by dsimp only; omega
      offset_le := by dsimp only; omega
      len_le := h.len_le
      registered := fun _ => by
        obtain ⟨mask, hmask, hout⟩ := h.registered (by omega)
        exact ⟨mask, by rw [hint]; exact hmask, hout⟩ }
  cases code with
  | sendErr =>
    dsimp only [finishWrite]
    apply sendOk_callOnError
    simpa using sendOk_clearSend _ _
  | sendDone | sendPartial =>
    dsimp only [finishWrite]
    split
    · exact hstop _
    · next hleft => simpa using hrest hleft

/-- The invariant of slot `i` in a state of a run. -/
def SendInv (i : Fin n) (st : SendState n) : Prop :=
  SendOk st.el.kernel (st.el.connections i)

theorem sendInv_step {i : Fin n} {st : SendState n} (h : SendInv i st) (label : SendLabel) :
    SendInv i (sendStep i st label) := by
  cases label with
  | sendData data answer modOk => exact sendOk_elSendData h data answer modOk
  | writable s => exact sendOk_defaultOnWrite h s

/-- The ranges of a slot that meets the invariant. -/
theorem SendInv.inside {i : Fin n} {st : SendState n} (h : SendInv i st) {label : SendLabel}
    {r : Handed} (hr : handed i st label = some r) : r.Inside := by
  have hoffset := h.offset_nonneg
  cases label with
  | sendData data answer modOk =>
    simp only [handed, handedBySend] at hr
    split_ifs at hr with hpos hfits
    obtain rfl := Option.some.inj hr
    unfold Handed.Inside
    dsimp only
    omega
  | writable s =>
    simp only [handed, handedByWrite] at hr
    split_ifs at hr with hidle
    obtain rfl := Option.some.inj hr
    unfold Handed.Inside
    dsimp only
    omega

/-! ## Section 3: Every slot

    A function of the event loop leaves the pending data of a slot alone,
    or frees the slot; the registration of a descriptor changes only in the
    functions of its own slot. -/

structure SendTable (el : EventLoop n) : Prop where
  table : TableInv el
  sends : ∀ i, SendOk el.kernel (el.connections i)

/-- One slot changes, and nobody with pending data loses a registration. -/
theorem SendTable.edit {el el' : EventLoop n} (h : SendTable el) (htable : TableInv el')
    {i : Fin n} {c : Connection} (hconn : el'.connections = (el.setConn i c).connections)
    (hc : SendOk el'.kernel c)
    (hframe : ∀ j, j ≠ i → WaitsForWrite el.kernel (el.connections j).fd →
      (el.connections j).type ≠ .free → WaitsForWrite el'.kernel (el.connections j).fd) :
    SendTable el' := by
  refine ⟨htable, ?_⟩
  intro j
  rw [hconn]
  by_cases hj : j = i
  · rw [hj, setConn_self]
    exact hc
  · rw [setConn_ne _ _ hj]
    have hold := h.sends j
    by_cases hfree : (el.connections j).type = .free
    · obtain ⟨-, hlen, hoffset⟩ := h.table.free_clean j hfree
      exact SendOk.of_idle hlen hoffset
    · exact hold.transfer rfl rfl fun hwaits => hframe j hj hwaits hfree

/-- A live slot does not share the descriptor of another slot. -/
theorem TableInv.fd_ne {el : EventLoop n} (hinv : TableInv el) {i j : Fin n} (hj : j ≠ i)
    (hlive : (el.connections j).type ≠ .free) : (el.connections j).fd ≠ (el.connections i).fd := by
  intro heq
  by_cases hfree : (el.connections i).type = .free
  · have hnonneg := hinv.fd_nonneg hlive
    rw [heq, (hinv.free_clean i hfree).1] at hnonneg
    omega
  · exact hj (hinv.fd_injective j i hlive hfree heq)

theorem interest_modFd_ne (k : Kernel) {fd fd' : Int} (hne : fd' ≠ fd) (mask : Mask) (ok : Bool) :
    (modFd k fd mask ok).2.interest fd' = k.interest fd' := by
  unfold modFd
  split
  · simp [Kernel.record, hne]
  · rfl

theorem interest_delFd_ne (k : Kernel) {fd fd' : Int} (hne : fd' ≠ fd) (ok : Bool) :
    (delFd k fd ok).2.interest fd' = k.interest fd' := by
  unfold delFd
  split
  · simp [Kernel.record, hne]
  · rfl

theorem interest_closeFd_ne (k : Kernel) {fd fd' : Int} (hne : fd' ≠ fd) :
    (closeFd k fd).interest fd' = k.interest fd' := by
  unfold closeFd
  split
  · simp [Kernel.record, hne]
  · rfl

/-- Other descriptors than that of slot `i` keep their registration. -/
def SparesOthers (el el' : EventLoop n) (i : Fin n) : Prop :=
  ∀ fd, fd ≠ (el.connections i).fd → el'.kernel.interest fd = el.kernel.interest fd

/-- A function of slot `i` alone. -/
theorem SendTable.own {el el' : EventLoop n} (h : SendTable el) (htable : TableInv el')
    {i : Fin n} {c : Connection} (hconn : el'.connections = (el.setConn i c).connections)
    (hc : SendOk el'.kernel c) (hspares : SparesOthers el el' i) : SendTable el' := by
  refine h.edit htable hconn hc ?_
  intro j hj hwaits hlive
  obtain ⟨mask, hmask, hout⟩ := hwaits
  refine ⟨mask, ?_, hout⟩
  rw [hspares _ (h.table.fd_ne hj hlive)]
  exact hmask

/-- A call that changes no slot and no registration. -/
theorem SendTable.quiet {el el' : EventLoop n} (h : SendTable el) (htable : TableInv el')
    (hconn : el'.connections = el.connections)
    (hint : el'.kernel.interest = el.kernel.interest) : SendTable el' := by
  refine ⟨htable, ?_⟩
  intro i
  rw [hconn]
  refine (h.sends i).transfer rfl rfl ?_
  intro hwaits
  obtain ⟨mask, hmask, hout⟩ := hwaits
  exact ⟨mask, by rw [hint]; exact hmask, hout⟩

theorem sendTable_elSendData {el : EventLoop n} (h : SendTable el) (i : Fin n)
    (data : List UInt8) (answer : SendAnswer) (modOk : Bool) :
    SendTable (elSendData el i data answer modOk).2 := by
  have htable := tableInv_elSendData h.table i data answer modOk
  have hown := sendOk_elSendData (h.sends i) data answer modOk
  suffices hshape : ∃ c, (elSendData el i data answer modOk).2.connections =
      (el.setConn i c).connections ∧ SparesOthers el (elSendData el i data answer modOk).2 i by
    obtain ⟨c, hconn, hspares⟩ := hshape
    refine h.own htable hconn ?_ hspares
    rw [hconn, setConn_self] at hown
    exact hown
  have hsame : ∃ c, el.connections = (el.setConn i c).connections :=
    ⟨el.connections i, by simp [EventLoop.setConn]⟩
  rw [elSendData_eq]
  unfold handedBySend
  split_ifs with hpos hfits
  · obtain ⟨c, hc⟩ := hsame
    exact ⟨c, hc, fun _ _ => rfl⟩
  · obtain ⟨c, hc⟩ := hsame
    exact ⟨c, hc, fun _ _ => rfl⟩
  dsimp only
  rcases hsend : esSendAll el.kernel (loadBuffer (el.connections i) data).fd
    (loadBuffer (el.connections i) data).sendBuf 0 data.length answer with ⟨code, sent, kernel⟩
  have hint := interest_esSendAll hsend
  cases code with
  | sendDone | sendErr => exact ⟨_, rfl, fun fd _ => congrFun hint fd⟩
  | sendPartial =>
    dsimp only [finishSend]
    have hmod : ∀ fd, fd ≠ (el.connections i).fd →
        (modFd kernel (el.connections i).fd (regEvents (el.connections i).type ||| EPOLLOUT)
          modOk).2.interest fd = el.kernel.interest fd := by
      intro fd hfd
      rw [interest_modFd_ne _ hfd, hint]
    split
    · next kernel' heq =>
      have heq' : (modFd kernel (el.connections i).fd
          (regEvents (el.connections i).type ||| EPOLLOUT) modOk) = (true, kernel') := heq
      rw [heq'] at hmod
      exact ⟨_, rfl, hmod⟩
    · next kernel' heq =>
      have heq' : (modFd kernel (el.connections i).fd
          (regEvents (el.connections i).type ||| EPOLLOUT) modOk) = (false, kernel') := heq
      rw [heq'] at hmod
      exact ⟨_, rfl, hmod⟩

theorem sendTable_elRemoveConnection {el : EventLoop n} (h : SendTable el) (i : Fin n)
    (delOk : Bool) : SendTable (elRemoveConnection el i delOk) := by
  have htable := tableInv_elRemoveConnection h.table i delOk
  by_cases hfree : (el.connections i).type = .free
  · rwa [elRemoveConnection_of_free hfree]
  · have hnonneg := h.table.fd_nonneg hfree
    have heq : elRemoveConnection el i delOk =
        { el.setConn i (freeConnection (el.connections i)) with
          kernel := closeFd (delFd el.kernel (el.connections i).fd delOk).2 (el.connections i).fd
          activeCount := el.activeCount - 1 } := by
      simp [elRemoveConnection, hfree, hnonneg]
    rw [heq] at htable ⊢
    refine h.own htable rfl (SendOk.of_idle rfl rfl) ?_
    intro fd hfd
    show (closeFd (delFd el.kernel (el.connections i).fd delOk).2 (el.connections i).fd).interest
      fd = _
    rw [interest_closeFd_ne _ hfd, interest_delFd_ne _ hfd]

theorem sendTable_setState {el : EventLoop n} (h : SendTable el) (i : Fin n) {c : Connection}
    (hfd : c.fd = (el.connections i).fd) (htype : c.type = (el.connections i).type)
    (hlen : c.sendLen = (el.connections i).sendLen)
    (hoffset : c.sendOffset = (el.connections i).sendOffset) : SendTable (el.setConn i c) := by
  have htable : TableInv (el.setConn i c) := by
    refine h.table.edit i hfd htype ?_
    intro hfree
    rw [hlen, hoffset]
    exact (h.table.free_clean i (htype ▸ hfree)).2
  refine h.own htable rfl ?_ fun _ _ => rfl
  exact (h.sends i).transfer hlen hoffset (by rw [hfd]; exact id)

theorem sendTable_callOnClose {el : EventLoop n} (h : SendTable el) (i : Fin n) (delOk : Bool) :
    SendTable (callOnClose el i delOk) := by
  unfold callOnClose
  split
  · exact sendTable_elRemoveConnection h i delOk
  · exact h

theorem sendTable_defaultOnError {el : EventLoop n} (h : SendTable el) (i : Fin n)
    (delOk : Bool) : SendTable (defaultOnError el i delOk) := by
  have hstate : SendTable (el.setConn i { el.connections i with state := .error }) :=
    sendTable_setState h i rfl rfl rfl rfl
  exact sendTable_elRemoveConnection (sendTable_callOnClose hstate i delOk) i delOk

theorem sendTable_callOnError {el : EventLoop n} (h : SendTable el) (i : Fin n) (delOk : Bool) :
    SendTable (callOnError el i delOk) := by
  unfold callOnError
  split
  · exact sendTable_defaultOnError h i delOk
  · exact h

theorem sendTable_stopWriting {el : EventLoop n} (h : SendTable el) (i : Fin n)
    {kernel : Kernel} (hquiet : Quiet el.kernel kernel)
    (hint : kernel.interest = el.kernel.interest) (modOk : Bool) :
    SendTable (stopWriting el i kernel modOk) := by
  have htable : TableInv (stopWriting el i kernel modOk) :=
    h.table.editQuiet i (hquiet.trans (quiet_modFd _ _ _ _)) rfl rfl fun _ => ⟨rfl, rfl⟩
  refine h.own htable rfl (sendOk_clearSend _ _) ?_
  intro fd hfd
  show (modFd kernel (el.connections i).fd _ modOk).2.interest fd = _
  rw [interest_modFd_ne _ hfd, hint]

theorem sendTable_defaultOnWrite {el : EventLoop n} (h : SendTable el) (i : Fin n)
    (s : EventScript) : SendTable (defaultOnWrite el i s) := by
  have htable := tableInv_defaultOnWrite h.table i s
  have hown := sendOk_defaultOnWrite (h.sends i) s
  rw [defaultOnWrite_eq] at htable hown ⊢
  rcases hrange : handedByWrite (el.connections i) with - | r
  · exact sendTable_stopWriting h i (Quiet.refl _) rfl s.modOk
  rw [hrange] at htable hown
  dsimp only at htable hown ⊢
  rcases hsend : esSendAll el.kernel (el.connections i).fd (el.connections i).sendBuf
    r.offset r.len s.send with ⟨code, sent, kernel⟩
  have hquiet := quiet_esSendAll hsend
  have hint := interest_esSendAll hsend
  rw [hsend] at htable hown
  cases code with
  | sendErr =>
    dsimp only [finishWrite]
    apply sendTable_callOnError
    have hcleared : TableInv
        { el.setConn i (clearSend (el.connections i)) with kernel := kernel } :=
      h.table.editQuiet i hquiet rfl rfl fun _ => ⟨rfl, rfl⟩
    exact h.own hcleared rfl (sendOk_clearSend _ _) fun fd _ => congrFun hint fd
  | sendDone | sendPartial =>
    dsimp only [finishWrite] at htable hown ⊢
    split
    · exact sendTable_stopWriting h i hquiet hint s.modOk
    · next hleft =>
      rw [if_neg hleft] at htable hown
      refine h.own htable rfl ?_ fun fd _ => congrFun hint fd
      simpa using hown

theorem interest_readDatagrams (kernel : Kernel) (fd : Int) (answers : List ReadAnswer) :
    (readDatagrams kernel fd answers).interest = kernel.interest := by
  induction answers generalizing kernel with
  | nil => rfl
  | cons answer rest ih =>
    cases answer with
    | bytes data replies => exact ih _
    | interrupted => exact ih kernel
    | again | failed => rfl

theorem sendTable_readStream {el : EventLoop n} (h : SendTable el) (i : Fin n) (delOk : Bool)
    (answers : List ReadAnswer) : SendTable (readStream el i delOk answers) := by
  induction answers generalizing el with
  | nil => exact h
  | cons answer rest ih =>
    cases answer with
    | bytes data replies =>
      cases data with
      | nil => exact sendTable_callOnClose h i delOk
      | cons b data => exact ih (h.quiet (h.table.of_quiet (quiet_received _ _ _)) rfl rfl)
    | again => exact h
    | interrupted => exact ih h
    | failed => exact sendTable_callOnError h i delOk

theorem sendTable_callOnRead {el : EventLoop n} (h : SendTable el) (i : Fin n)
    (s : EventScript) : SendTable (callOnRead el i s) := by
  have hread : el.callbacks.onRead = some .elDefaultOnRead := by
    rw [h.table.callbacks]
    rfl
  simp only [callOnRead, hread, elDefaultOnRead]
  split
  · exact h.quiet (h.table.of_quiet (quiet_readDatagrams _ _ _)) rfl
      (interest_readDatagrams _ _ _)
  · exact sendTable_readStream h i s.delOk _

/-- Closing a descriptor that was never registered. -/
theorem SendTable.closeUnregistered {el : EventLoop n} (h : SendTable el) {fd : Int}
    (hopen : el.kernel.isOpen fd = true) (hnone : el.kernel.interest fd = none) :
    SendTable { el with kernel := closeFd el.kernel fd } := by
  refine h.quiet (h.table.closeUnregistered hopen hnone) rfl ?_
  show (closeFd el.kernel fd).interest = el.kernel.interest
  rw [interest_closeFd hopen]
  exact Function.update_eq_self_iff.mpr hnone.symm

/-- A new connection has nothing to send. -/
theorem sendTable_elAddConnection {el : EventLoop n} (h : SendTable el) (fd : Int)
    {type : ConnType} (htype : type ≠ .free) (events : Mask) (now : Int) (addOk : Bool) :
    SendTable (elAddConnection el fd type events now addOk).2 := by
  have htable := (elAddConnection_spec h.table fd htype events now addOk).1
  unfold elAddConnection at htable ⊢
  split
  · exact h
  split
  · exact h
  split
  · exact h
  next hfd hfull _ i el' halloc =>
    obtain ⟨hfree, rfl⟩ := allocConnection_spec halloc
    rw [if_neg hfd, if_neg hfull, halloc] at htable
    simp only [setConn_self, setConn_kernel, setConn_setConn, setConn_activeCount] at htable ⊢
    rcases addFd_cases el.kernel fd events addOk with hfail | ⟨hopen, hnone, hok⟩
    · rw [hfail] at htable ⊢
      exact h.own htable rfl (SendOk.of_idle rfl rfl) fun _ _ => rfl
    · rw [hok] at htable ⊢
      refine h.edit htable rfl (SendOk.of_idle rfl rfl) ?_
      intro j hj hwaits hlive
      obtain ⟨mask, hmask, hout⟩ := hwaits
      -- a descriptor that is waited for is registered, so it is not the new one
      have hne : (el.connections j).fd ≠ fd := by
        intro heq
        rw [heq, hnone] at hmask
        cases hmask
      refine ⟨mask, ?_, hout⟩
      simpa [addFd, hopen, hnone, Kernel.record, hne] using hmask

theorem sendTable_defaultOnAccept {el : EventLoop n} (h : SendTable el) {fd : Int}
    (hopen : el.kernel.isOpen fd = true) (hnone : el.kernel.interest fd = none) (now : Int)
    (addOk : Bool) : SendTable (defaultOnAccept el fd now addOk) := by
  have htype : ConnType.tcpClient ≠ .free := by decide
  have hadd := elAddConnection_spec h.table fd htype defaultTcpEvents now addOk
  have hsends := sendTable_elAddConnection h fd htype defaultTcpEvents now addOk
  unfold defaultOnAccept
  split
  · next el' heq =>
    rw [heq] at hadd hsends
    have hkernel : el'.kernel = el.kernel := hadd.2 rfl
    exact hsends.closeUnregistered (hkernel ▸ hopen) (hkernel ▸ hnone)
  · next el' heq =>
    rw [heq] at hsends
    exact hsends

theorem sendTable_handleAccept {el : EventLoop n} (h : SendTable el) (listenFd : Int)
    (answers : List AcceptAnswer) : SendTable (handleAccept el listenFd answers) := by
  induction answers generalizing el with
  | nil => exact h
  | cons answer rest ih =>
    cases answer with
    | again | failed => exact h
    | interrupted => exact ih h
    | accepted fd nonblockOk now addOk =>
      simp only [handleAccept]
      rcases openFd_cases h.table.kernel fd with
        hfail | ⟨kernel, hok, hkernel, hint, hopen, hnone⟩
      · simp only [hfail]
        exact h
      · simp only [hok]
        have hopened : SendTable { el with kernel := kernel } :=
          h.quiet (h.table.quiet hkernel fun fd' => by rw [hint]) rfl hint
        have hnone' : kernel.interest fd = none := by rw [hint, hnone]
        split
        · exact ih (hopened.closeUnregistered hopen hnone')
        split
        · exact ih (hopened.closeUnregistered hopen hnone')
        split
        · exact ih (sendTable_defaultOnAccept hopened hopen hnone' now addOk)
        · exact ih hopened

theorem sendTable_handleClientEvent {el : EventLoop n} (h : SendTable el) (i : Fin n)
    (events : Mask) (s : EventScript) : SendTable (handleClientEvent el i events s) := by
  have htouch : SendTable (el.setConn i { el.connections i with lastActive := s.now }) :=
    sendTable_setState h i rfl rfl rfl rfl
  simp only [handleClientEvent]
  split
  · exact h
  split
  · exact sendTable_defaultOnError htouch i s.delOk
  split
  · exact sendTable_elRemoveConnection htouch i s.delOk
  have hwrite : SendTable (if has events EPOLLOUT = true ∧
        (el.setConn i { el.connections i with lastActive := s.now }).callbacks.onWrite = true
      then defaultOnWrite (el.setConn i { el.connections i with lastActive := s.now }) i s
      else el.setConn i { el.connections i with lastActive := s.now }) := by
    split
    · exact sendTable_defaultOnWrite htouch i s
    · exact htouch
  split
  · exact sendTable_callOnRead hwrite i s
  · exact hwrite

theorem sendTable_loopStep {el : EventLoop n} (h : SendTable el) (op : LoopOp n) :
    SendTable (loopStep el op) := by
  cases op with
  | event i events s =>
    simp only [loopStep, dispatchEvent]
    split
    · exact h
    split
    · split
      · exact sendTable_handleAccept h _ _
      · exact h
    · exact sendTable_handleClientEvent h i events s
  | idleCheck now sweepNow delOk =>
    simp only [loopStep, idleCheck]
    split
    · have hswept : SendTable (cleanupIdleConnections el sweepNow delOk) := by
        refine List.foldlRecOn _ _ h ?_
        intro el' h' i _
        simp only [sweepSlot]
        split_ifs
        · exact h'
        · exact h'
        · exact h'
        · exact sendTable_elRemoveConnection (sendTable_callOnClose h' i _) i _
        · exact h'
      exact hswept.quiet (hswept.table.clock now) rfl rfl
    · exact h

theorem sendTable_step {el : EventLoop n} (h : SendTable el) (op : TableOp n) :
    SendTable (tableStep el op) := by
  have htable := tableInv_step h.table op
  cases op with
  | callerOpen fd =>
    refine h.quiet htable rfl ?_
    show (openFd el.kernel fd).2.interest = el.kernel.interest
    unfold openFd
    split <;> rfl
  | callerClose fd =>
    simp only [tableStep]
    split
    · next hown => exact h.closeUnregistered hown.1 hown.2
    · exact h
  | add fd type events now addOk => exact sendTable_elAddConnection h fd type.2 events now addOk
  | remove i delOk => exact sendTable_elRemoveConnection h i delOk
  | send i data answer modOk => exact sendTable_elSendData h i data answer modOk
  | loop op => exact sendTable_loopStep h op

theorem sendTable_emptyLoop (openFds : Nat → Bool) (config : ServerConfig) :
    SendTable (emptyLoop openFds config) :=
  ⟨tableInv_emptyLoop openFds config, fun _ => SendOk.of_idle rfl rfl⟩

theorem sendTable_createSipSocket {el : EventLoop n} (h : SendTable el) (s : CreateScript) :
    SendTable (createSipSocket el s) := by
  have htable := tableInv_createSipSocket h.table s
  unfold createSipSocket esCreateUdpServer at htable ⊢
  cases hfd : s.socketFd with
  | none => exact h
  | some fd =>
    rw [hfd] at htable
    rcases openFd_cases h.table.kernel fd with
      hfail | ⟨kernel, hok, hkernel, hint, hopen, hnone⟩
    · simp only [hfail]
      exact h
    · have hopened : SendTable { el with kernel := kernel } :=
        h.quiet (h.table.quiet hkernel fun fd' => by rw [hint]) rfl hint
      have hnone' : kernel.interest fd = none := by rw [hint, hnone]
      simp only [hok] at htable ⊢
      by_cases hsetup : s.setupOk
      · have htype : ConnType.udpSip ≠ .free := by decide
        have hadd := elAddConnection_spec hopened.table fd htype defaultUdpEvents s.addTime s.addOk
        have hsends := sendTable_elAddConnection hopened fd htype defaultUdpEvents s.addTime s.addOk
        simp only [hsetup, if_true] at htable ⊢
        split
        · next el' heq =>
          rw [heq] at hadd hsends
          have hkernel' : el'.kernel = kernel := hadd.2 rfl
          exact hsends.closeUnregistered (hkernel' ▸ hopen) (hkernel' ▸ hnone')
        · next el' heq =>
          simp only [heq] at htable hsends
          exact hsends.quiet htable rfl rfl
      · simp only [hsetup]
        exact hopened.closeUnregistered hopen hnone'

theorem sendTable_elCreate {openFds : Nat → Bool} {config : ServerConfig} {s : CreateScript}
    {el : EventLoop config.capacity} (h : elCreate openFds config s = some el) : SendTable el := by
  have hempty := sendTable_emptyLoop openFds config
  simp only [elCreate] at h
  split at h
  · cases h
  obtain rfl := Option.some.inj h
  split
  · have hsip := sendTable_createSipSocket hempty s
    exact hsip.quiet (hsip.table.clock _) rfl rfl
  · exact hempty.quiet (hempty.table.clock _) rfl rfl

/-! ## Section 4: Runs -/

theorem sendInv_run {i : Fin n} {st₀ st : SendState n} {labels : List SendLabel}
    (h : SendInv i st₀) (hrun : Run (ofFun (sendStep i)) st₀ labels st) : SendInv i st := by
  apply hrun.invariant h
  intro st label st' hinv hstep
  rw [← hstep]
  exact sendInv_step hinv label

/-- **Pending data is never stranded.**  Take a live connection of a server in
    any reachable state, and any callbacks.  Over every sequence of calls of
    `el_send_data` and writable events, whatever the kernel answers, the
    offsets stay in order, a slot with pending data is registered for
    `EPOLLOUT`, and the ranges that `es_send_all` is called on lie inside
    `[0, send_len)`. -/
theorem sendState_run {openFds : Nat → Bool} {config : ServerConfig} {s : CreateScript}
    {el₀ el : EventLoop config.capacity} {ops : List (TableOp config.capacity)}
    (hcreate : elCreate openFds config s = some el₀) (hrun : Run (ofFun tableStep) el₀ ops el)
    (callbacks : Callbacks) {i : Fin config.capacity}
    {labels : List SendLabel} {st : SendState config.capacity}
    (hsend : Run (ofFun (sendStep i)) ⟨elSetCallbacks el callbacks, []⟩ labels st) :
    SendInv i st ∧ ∀ label, CallsHanded i st label ∧
      ∀ r, handed i st label = some r → r.Inside := by
  have hstart : SendTable el₀ := sendTable_elCreate hcreate
  have htable : SendTable el := by
    apply hrun.invariant hstart
    intro t op u hinv hstep
    rw [← hstep]
    exact sendTable_step hinv op
  have hsends : SendInv i ⟨elSetCallbacks el callbacks, []⟩ := htable.sends i
  have hinv : SendInv i st := sendInv_run hsends hsend
  exact ⟨hinv, fun label => ⟨callsHanded i st label, fun _ hr => hinv.inside hr⟩⟩

/-- A datagram is deferred on the SIP socket, and the next one replaces it. -/
theorem sendState_run_deferred :
    ∃ el₀, elCreate (fun _ => false) startServerConfig ⟨true, some 5, true, true, 0, 0⟩ = some el₀ ∧
      ∃ st, Run (ofFun (sendStep (⟨0, by decide⟩ : Fin startServerConfig.capacity)))
          ⟨elSetCallbacks el₀ sipCallbacks, []⟩
          [.sendData [1, 2, 3] .again true, .sendData [4, 5] .interrupted true] st ∧
        SendInv ⟨0, by decide⟩ st := by
  obtain ⟨el₀, hcreate⟩ : ∃ el₀,
      elCreate (fun _ => false) startServerConfig ⟨true, some 5, true, true, 0, 0⟩ = some el₀ :=
    ⟨_, rfl⟩
  have hrun : Run (ofFun tableStep) el₀ [] el₀ := Run.nil el₀
  have hsend := run_ofFun_iff.mpr (rfl : List.foldl
    (sendStep (⟨0, by decide⟩ : Fin startServerConfig.capacity))
    ⟨elSetCallbacks el₀ sipCallbacks, []⟩
    [.sendData [1, 2, 3] .again true, .sendData [4, 5] .interrupted true] = _)
  exact ⟨el₀, hcreate, _, hsend, (sendState_run hcreate hrun sipCallbacks hsend).1⟩

end EpollServer
