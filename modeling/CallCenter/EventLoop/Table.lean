import Mathlib.Data.Finset.Card
import Mathlib.Data.Fintype.Card
import CallCenter.EventLoop.Model
import CallCenter.Framework.Transition

/-! # The Connection Table

    The invariant of the slot table under the default callbacks, over every
    sequence of additions, removals, sends, events and sweeps, and after
    `el_destroy`.

    `TableInv` ties the table to the kernel: a descriptor is registered if
    and only if it is in a live slot.  Four rules carry the proof, one for
    each way in which a function of the model can touch the table:
    `TableInv.edit`, `TableInv.quiet`, `TableInv.register` and
    `tableInv_elRemoveConnection`.  A second removal of the same slot, as in
    the chains `on_error` → `on_close`, finds it free and does nothing; a
    second `close` would be in the log and break `TableOk`. -/

namespace EpollServer

open Descriptors Transition

variable {n : Nat}

/-! ## Section 1: The invariant -/

/-- The slots in use. -/
def live (el : EventLoop n) : Finset (Fin n) :=
  Finset.univ.filter fun i => (el.connections i).type ≠ .free

@[simp] theorem mem_live {el : EventLoop n} {i : Fin n} :
    i ∈ live el ↔ (el.connections i).type ≠ .free := by
  simp [live]

structure TableInv (el : EventLoop n) : Prop where
  callbacks : el.callbacks = defaultCallbacks
  count : el.activeCount = (live el).card
  free_clean : ∀ i, (el.connections i).type = .free →
    (el.connections i).fd = -1 ∧ (el.connections i).sendLen = 0 ∧
      (el.connections i).sendOffset = 0
  fd_injective : ∀ i j, (el.connections i).type ≠ .free → (el.connections j).type ≠ .free →
    (el.connections i).fd = (el.connections j).fd → i = j
  registered : ∀ fd, (el.kernel.interest fd).isSome ↔
    ∃ i, (el.connections i).type ≠ .free ∧ (el.connections i).fd = fd
  kernel : KernelInv el.kernel

theorem TableInv.isOpen_of_live {el : EventLoop n} (hinv : TableInv el) {i : Fin n}
    (hi : (el.connections i).type ≠ .free) : el.kernel.isOpen (el.connections i).fd = true :=
  hinv.kernel.interest_open _ ((hinv.registered _).mpr ⟨i, hi, rfl⟩)

theorem TableInv.fd_nonneg {el : EventLoop n} (hinv : TableInv el) {i : Fin n}
    (hi : (el.connections i).type ≠ .free) : 0 ≤ (el.connections i).fd :=
  hinv.kernel.open_nonneg _ (hinv.isOpen_of_live hi)

@[simp] theorem setConn_self (el : EventLoop n) (i : Fin n) (c : Connection) :
    (el.setConn i c).connections i = c := by
  simp [EventLoop.setConn]

@[simp] theorem setConn_ne (el : EventLoop n) {i j : Fin n} (c : Connection) (hj : j ≠ i) :
    (el.setConn i c).connections j = el.connections j := by
  simp [EventLoop.setConn, hj]

@[simp] theorem setConn_setConn (el : EventLoop n) (i : Fin n) (c d : Connection) :
    (el.setConn i c).setConn i d = el.setConn i d := by
  simp [EventLoop.setConn]

@[simp] theorem setConn_kernel (el : EventLoop n) (i : Fin n) (c : Connection) :
    (el.setConn i c).kernel = el.kernel := rfl

@[simp] theorem setConn_activeCount (el : EventLoop n) (i : Fin n) (c : Connection) :
    (el.setConn i c).activeCount = el.activeCount := rfl

@[simp] theorem setConn_callbacks (el : EventLoop n) (i : Fin n) (c : Connection) :
    (el.setConn i c).callbacks = el.callbacks := rfl

/-! ## Section 2: The four ways to touch the table -/

/-- Changing a slot's data, but neither its descriptor nor its type. -/
theorem TableInv.edit {el : EventLoop n} (hinv : TableInv el) (i : Fin n) {c : Connection}
    (hfd : c.fd = (el.connections i).fd) (htype : c.type = (el.connections i).type)
    (hclean : c.type = .free → c.sendLen = 0 ∧ c.sendOffset = 0) :
    TableInv (el.setConn i c) := by
  have htypes : ∀ j, ((el.setConn i c).connections j).type = (el.connections j).type := by
    intro j
    by_cases hj : j = i
    · subst hj
      simpa using htype
    · simp [hj]
  have hfds : ∀ j, ((el.setConn i c).connections j).fd = (el.connections j).fd := by
    intro j
    by_cases hj : j = i
    · subst hj
      simpa using hfd
    · simp [hj]
  refine ⟨hinv.callbacks, ?_, ?_, ?_, ?_, hinv.kernel⟩
  · have hlive : live (el.setConn i c) = live el := by
      ext j
      simp [htypes]
    rw [hlive]
    exact hinv.count
  · intro j hj
    have hold := hinv.free_clean j (htypes j ▸ hj)
    by_cases hji : j = i
    · subst hji
      rw [setConn_self] at hj ⊢
      exact ⟨hfd.trans hold.1, hclean hj⟩
    · rwa [setConn_ne _ _ hji]
  · intro j k hj hk heq
    rw [htypes] at hj hk
    rw [hfds, hfds] at heq
    exact hinv.fd_injective j k hj hk heq
  · intro fd
    simp only [htypes, hfds]
    exact hinv.registered fd

/-- A call that changes neither descriptors nor registrations. -/
theorem TableInv.quiet {el : EventLoop n} (hinv : TableInv el) {kernel : Kernel}
    (hinvk : KernelInv kernel)
    (hint : ∀ fd, (kernel.interest fd).isSome = (el.kernel.interest fd).isSome) :
    TableInv { el with kernel := kernel } where
  callbacks := hinv.callbacks
  count := hinv.count
  free_clean := hinv.free_clean
  fd_injective := hinv.fd_injective
  registered := fun fd => by
    rw [hint]
    exact hinv.registered fd
  kernel := hinvk

theorem TableInv.of_quiet {el : EventLoop n} (hinv : TableInv el) {kernel : Kernel}
    (hquiet : Quiet el.kernel kernel) : TableInv { el with kernel := kernel } :=
  hinv.quiet (hquiet.inv hinv.kernel) hquiet.interest

/-- Closing a descriptor that no slot holds. -/
theorem TableInv.closeUnregistered {el : EventLoop n} (hinv : TableInv el) {fd : Int}
    (hopen : el.kernel.isOpen fd = true) (hnone : el.kernel.interest fd = none) :
    TableInv { el with kernel := closeFd el.kernel fd } := by
  refine hinv.quiet (hinv.kernel.closeFd hopen) fun fd' => ?_
  rw [interest_closeFd hopen]
  by_cases hfd : fd' = fd
  · simp [hfd, hnone]
  · rw [Function.update_of_ne hfd]

/-- A free slot takes a descriptor that is open and was not registered. -/
theorem TableInv.register {el : EventLoop n} (hinv : TableInv el) {i : Fin n} {c : Connection}
    (hfree : (el.connections i).type = .free) (hlive : c.type ≠ .free) (events : Mask)
    (hopen : el.kernel.isOpen c.fd = true) (hnone : el.kernel.interest c.fd = none) :
    TableInv { el.setConn i c with
      kernel := (addFd el.kernel c.fd events true).2
      activeCount := el.activeCount + 1 } := by
  have hint : (addFd el.kernel c.fd events true).2.interest =
      Function.update el.kernel.interest c.fd (some events) := by
    simp [addFd, hopen, hnone, Kernel.record]
  -- no live slot holds the new descriptor
  have hfresh : ∀ j, (el.connections j).type ≠ .free → (el.connections j).fd ≠ c.fd := by
    intro j hj heq
    have hsome := (hinv.registered c.fd).mpr ⟨j, hj, heq⟩
    simp [hnone] at hsome
  refine ⟨hinv.callbacks, ?_, ?_, ?_, ?_, hinv.kernel.addFd hopen hnone⟩
  · have hset : live (el.setConn i c) = insert i (live el) := by
      ext j
      by_cases hji : j = i
      · subst hji
        simp [hlive]
      · simp [hji]
    have hcount := hinv.count
    have hcard : (insert i (live el)).card = (live el).card + 1 :=
      Finset.card_insert_of_notMem (by simp [hfree])
    show el.activeCount + 1 = ((live (el.setConn i c)).card : Int)
    rw [hset, hcard, hcount]
    rfl
  · intro j hj
    by_cases hji : j = i
    · subst hji
      exact absurd (by simpa using hj) hlive
    · have hold := hinv.free_clean j (by simpa [hji] using hj)
      simpa [hji] using hold
  · intro j k hj hk heq
    by_cases hji : j = i
    · by_cases hki : k = i
      · rw [hji, hki]
      · subst hji
        simp only [setConn_self, setConn_ne _ _ hki] at hk heq
        exact absurd heq.symm (hfresh k hk)
    · by_cases hki : k = i
      · subst hki
        simp only [setConn_self, setConn_ne _ _ hji] at hj heq
        exact absurd heq (hfresh j hj)
      · simp only [setConn_ne _ _ hji, setConn_ne _ _ hki] at hj hk heq
        exact hinv.fd_injective j k hj hk heq
  · intro fd
    show ((addFd el.kernel c.fd events true).2.interest fd).isSome ↔ _
    rw [hint]
    by_cases hfd : fd = c.fd
    · subst hfd
      simp only [Function.update_self, Option.isSome_some, true_iff]
      exact ⟨i, by simpa using hlive, by simp⟩
    · rw [Function.update_of_ne hfd, hinv.registered fd]
      constructor
      · intro h
        obtain ⟨j, hj, heq⟩ := h
        have hji : j ≠ i := fun h => hj (h ▸ hfree)
        exact ⟨j, by simpa [hji] using hj, by simpa [hji] using heq⟩
      · intro h
        obtain ⟨j, hj, heq⟩ := h
        by_cases hji : j = i
        · subst hji
          exact absurd (by simpa using heq.symm) hfd
        · exact ⟨j, by simpa [hji] using hj, by simpa [hji] using heq⟩

/-- **Removal**: a live slot becomes free and its descriptor is closed once. -/
theorem tableInv_elRemoveConnection {el : EventLoop n} (hinv : TableInv el) (i : Fin n)
    (delOk : Bool) : TableInv (elRemoveConnection el i delOk) := by
  by_cases hfree : (el.connections i).type = .free
  · rwa [elRemoveConnection, if_pos hfree]
  have hopen := hinv.isOpen_of_live hfree
  have hnonneg := hinv.fd_nonneg hfree
  have heq : elRemoveConnection el i delOk =
      { el.setConn i (freeConnection (el.connections i)) with
        kernel := closeFd (delFd el.kernel (el.connections i).fd delOk).2 (el.connections i).fd
        activeCount := el.activeCount - 1 } := by
    simp [elRemoveConnection, hfree, hnonneg]
  rw [heq]
  refine ⟨hinv.callbacks, ?_, ?_, ?_, ?_, hinv.kernel.release delOk hopen⟩
  · have hset : live (el.setConn i (freeConnection (el.connections i))) = (live el).erase i := by
      ext j
      by_cases hji : j = i
      · subst hji
        simp [freeConnection]
      · simp [hji]
    have hcount := hinv.count
    have hcard : ((live el).erase i).card + 1 = (live el).card :=
      Finset.card_erase_add_one (by simpa using hfree)
    show el.activeCount - 1 = ((live (el.setConn i (freeConnection (el.connections i)))).card : Int)
    rw [hset, hcount]
    omega
  · intro j hj
    by_cases hji : j = i
    · subst hji
      simp [freeConnection]
    · have hold := hinv.free_clean j (by simpa [hji] using hj)
      simpa [hji] using hold
  · intro j k hj hk heq
    have hji : j ≠ i := by
      intro h
      subst h
      simp [freeConnection] at hj
    have hki : k ≠ i := by
      intro h
      subst h
      simp [freeConnection] at hk
    simp only [setConn_ne _ _ hji, setConn_ne _ _ hki] at hj hk heq
    exact hinv.fd_injective j k hj hk heq
  · intro fd
    show ((closeFd (delFd el.kernel (el.connections i).fd delOk).2
      (el.connections i).fd).interest fd).isSome ↔ _
    rw [interest_release hopen]
    by_cases hfd : fd = (el.connections i).fd
    · subst hfd
      simp only [Function.update_self, Option.isSome_none, Bool.false_eq_true, false_iff]
      intro h
      obtain ⟨j, hj, hjfd⟩ := h
      by_cases hji : j = i
      · subst hji
        simp [freeConnection] at hj
      · simp only [setConn_ne _ _ hji] at hj hjfd
        exact hji (hinv.fd_injective j i hj hfree hjfd)
    · rw [Function.update_of_ne hfd, hinv.registered fd]
      constructor
      · intro h
        obtain ⟨j, hj, hjfd⟩ := h
        have hji : j ≠ i := fun h => hfd (by rw [← hjfd, h])
        exact ⟨j, by simpa [hji] using hj, by simpa [hji] using hjfd⟩
      · intro h
        obtain ⟨j, hj, hjfd⟩ := h
        by_cases hji : j = i
        · subst hji
          simp [freeConnection] at hj
        · exact ⟨j, by simpa [hji] using hj, by simpa [hji] using hjfd⟩

/-! ## Section 3: The functions keep the invariant -/

theorem allocConnection_spec {el el' : EventLoop n} {i : Fin n}
    (h : allocConnection el = some (i, el')) :
    (el.connections i).type = .free ∧
      el' = el.setConn i { Connection.zero with fd := -1 } := by
  unfold allocConnection at h
  split at h
  · next j hfind =>
    obtain ⟨rfl, rfl⟩ : j = i ∧ el.setConn j { Connection.zero with fd := -1 } = el' := by
      simpa using h
    exact ⟨by simpa using List.find?_some hfind, rfl⟩
  · cases h

/-- `el_add_connection` keeps the invariant, and a failure leaves the kernel alone. -/
theorem elAddConnection_spec {el : EventLoop n} (hinv : TableInv el) (fd : Int) {type : ConnType}
    (htype : type ≠ .free) (events : Mask) (now : Int) (addOk : Bool) :
    TableInv (elAddConnection el fd type events now addOk).2 ∧
      ((elAddConnection el fd type events now addOk).1 = none →
        (elAddConnection el fd type events now addOk).2.kernel = el.kernel) := by
  unfold elAddConnection
  split
  · exact ⟨hinv, fun _ => rfl⟩
  split
  · exact ⟨hinv, fun _ => rfl⟩
  split
  · exact ⟨hinv, fun _ => rfl⟩
  next i el' halloc =>
    obtain ⟨hfree, rfl⟩ := allocConnection_spec halloc
    have hclean := hinv.free_clean i hfree
    simp only [setConn_self, setConn_kernel, setConn_setConn, setConn_activeCount]
    rcases addFd_cases el.kernel fd events addOk with hfail | ⟨hopen, hnone, hok⟩
    · rw [hfail]
      refine ⟨?_, fun _ => rfl⟩
      exact hinv.edit i hclean.1.symm hfree.symm fun _ => ⟨rfl, rfl⟩
    · rw [hok]
      refine ⟨?_, fun h => by cases h⟩
      exact hinv.register hfree htype events hopen hnone

theorem tableInv_defaultOnAccept {el : EventLoop n} (hinv : TableInv el) {fd : Int}
    (hopen : el.kernel.isOpen fd = true) (hnone : el.kernel.interest fd = none) (now : Int)
    (addOk : Bool) : TableInv (defaultOnAccept el fd now addOk) := by
  have hadd := elAddConnection_spec hinv fd (show ConnType.tcpClient ≠ .free by decide)
    defaultTcpEvents now addOk
  unfold defaultOnAccept
  split
  · next el' heq =>
    rw [heq] at hadd
    have hkernel : el'.kernel = el.kernel := hadd.2 rfl
    exact hadd.1.closeUnregistered (hkernel ▸ hopen) (hkernel ▸ hnone)
  · next el' heq =>
    rw [heq] at hadd
    exact hadd.1

theorem tableInv_callOnClose {el : EventLoop n} (hinv : TableInv el) (i : Fin n)
    (delOk : Bool) : TableInv (callOnClose el i delOk) := by
  unfold callOnClose
  split
  · exact tableInv_elRemoveConnection hinv i delOk
  · exact hinv

theorem tableInv_defaultOnError {el : EventLoop n} (hinv : TableInv el) (i : Fin n)
    (delOk : Bool) : TableInv (defaultOnError el i delOk) := by
  have hstate : TableInv (el.setConn i { el.connections i with state := .error }) :=
    hinv.edit i rfl rfl fun hfree => (hinv.free_clean i hfree).2
  exact tableInv_elRemoveConnection (tableInv_callOnClose hstate i delOk) i delOk

theorem tableInv_callOnError {el : EventLoop n} (hinv : TableInv el) (i : Fin n)
    (delOk : Bool) : TableInv (callOnError el i delOk) := by
  unfold callOnError
  split
  · exact tableInv_defaultOnError hinv i delOk
  · exact hinv

theorem quiet_esSendAll {kernel : Kernel} {fd : Int} {buf : List UInt8} {offset len : Int}
    {answer : SendAnswer} {code : EsSend} {sent : Int} {kernel' : Kernel}
    (h : esSendAll kernel fd buf offset len answer = (code, sent, kernel')) :
    Quiet kernel kernel' := by
  unfold esSendAll at h
  split at h
  · cases h
    exact Quiet.refl _
  split at h
  · cases h
    exact Quiet.refl _
  cases answer with
  | accepted count =>
    cases h
    exact quiet_sent _ _ _
  | again | interrupted | failed =>
    cases h
    exact Quiet.refl _

/-- Changing a slot's send state, together with a quiet call. -/
theorem TableInv.editQuiet {el : EventLoop n} (hinv : TableInv el) (i : Fin n) {c : Connection}
    {kernel : Kernel} (hquiet : Quiet el.kernel kernel) (hfd : c.fd = (el.connections i).fd)
    (htype : c.type = (el.connections i).type)
    (hclean : c.type = .free → c.sendLen = 0 ∧ c.sendOffset = 0) :
    TableInv { el.setConn i c with kernel := kernel } := by
  have hedit : TableInv (el.setConn i c) := hinv.edit i hfd htype hclean
  exact hedit.of_quiet hquiet

theorem tableInv_defaultOnWrite {el : EventLoop n} (hinv : TableInv el) (i : Fin n)
    (s : EventScript) : TableInv (defaultOnWrite el i s) := by
  simp only [defaultOnWrite]
  split
  · exact hinv.editQuiet i (quiet_modFd _ _ _ _) rfl rfl fun _ => ⟨rfl, rfl⟩
  next hpending =>
    -- a slot with pending data is live
    have hlive : (el.connections i).type ≠ .free := by
      intro hfree
      exact hpending (Or.inl (hinv.free_clean i hfree).2.1.le)
    split
    · next hsend =>
      refine tableInv_callOnError ?_ i s.delOk
      exact hinv.editQuiet i (quiet_esSendAll hsend) rfl rfl fun _ => ⟨rfl, rfl⟩
    · next hsend =>
      have hquiet := quiet_esSendAll hsend
      split
      · exact hinv.editQuiet i (hquiet.trans (quiet_modFd _ _ _ _)) rfl rfl fun _ => ⟨rfl, rfl⟩
      · exact hinv.editQuiet i hquiet rfl rfl fun hfree => absurd hfree hlive

/-- Only a live slot's descriptor can be registered again with `EPOLLOUT`. -/
theorem TableInv.live_of_interest {el : EventLoop n} (hinv : TableInv el) {i : Fin n}
    (hsome : (el.kernel.interest (el.connections i).fd).isSome) :
    (el.connections i).type ≠ .free := by
  intro hfree
  have hnonneg := hinv.kernel.open_nonneg _ (hinv.kernel.interest_open _ hsome)
  rw [(hinv.free_clean i hfree).1] at hnonneg
  omega

theorem tableInv_elSendData {el : EventLoop n} (hinv : TableInv el) (i : Fin n)
    (data : List UInt8) (answer : SendAnswer) (modOk : Bool) :
    TableInv (elSendData el i data answer modOk).2 := by
  simp only [elSendData]
  split
  · exact hinv
  split
  · exact hinv
  split
  · next hsend =>
    exact hinv.editQuiet i (quiet_esSendAll hsend) rfl rfl fun _ => ⟨rfl, rfl⟩
  · next sent kernel hsend =>
    have hquiet := quiet_esSendAll hsend
    have hmodQuiet := quiet_modFd kernel (el.connections i).fd
      (regEvents (el.connections i).type ||| EPOLLOUT) modOk
    split
    · next kernel' hmod =>
      have hsome := isSome_of_modFd hmod
      rw [hquiet.interest] at hsome
      rw [hmod] at hmodQuiet
      have hlive := hinv.live_of_interest hsome
      exact hinv.editQuiet i (hquiet.trans hmodQuiet) rfl rfl fun hfree => absurd hfree hlive
    · next kernel' hmod =>
      rw [hmod] at hmodQuiet
      exact hinv.editQuiet i (hquiet.trans hmodQuiet) rfl rfl fun _ => ⟨rfl, rfl⟩
  · next hsend =>
    exact hinv.editQuiet i (quiet_esSendAll hsend) rfl rfl fun _ => ⟨rfl, rfl⟩

theorem quiet_readDatagrams (kernel : Kernel) (fd : Int) (answers : List ReadAnswer) :
    Quiet kernel (readDatagrams kernel fd answers) := by
  induction answers generalizing kernel with
  | nil => exact Quiet.refl kernel
  | cons answer rest ih =>
    cases answer with
    | bytes data replies => exact (quiet_received kernel fd data).trans (ih _)
    | interrupted => exact ih kernel
    | again | failed => exact Quiet.refl kernel

theorem tableInv_readStream {el : EventLoop n} (hinv : TableInv el) (i : Fin n) (delOk : Bool)
    (answers : List ReadAnswer) : TableInv (readStream el i delOk answers) := by
  induction answers generalizing el with
  | nil => exact hinv
  | cons answer rest ih =>
    cases answer with
    | bytes data replies =>
      cases data with
      | nil => exact tableInv_callOnClose hinv i delOk
      | cons b data => exact ih (hinv.of_quiet (quiet_received _ _ _))
    | again => exact hinv
    | interrupted => exact ih hinv
    | failed => exact tableInv_callOnError hinv i delOk

theorem tableInv_callOnRead {el : EventLoop n} (hinv : TableInv el) (i : Fin n)
    (s : EventScript) : TableInv (callOnRead el i s) := by
  have hread : el.callbacks.onRead = some .elDefaultOnRead := by
    rw [hinv.callbacks]
    rfl
  simp only [callOnRead, hread, elDefaultOnRead]
  split
  · exact hinv.of_quiet (quiet_readDatagrams _ _ _)
  · exact tableInv_readStream hinv i s.delOk _

theorem tableInv_handleAccept {el : EventLoop n} (hinv : TableInv el) (listenFd : Int)
    (answers : List AcceptAnswer) : TableInv (handleAccept el listenFd answers) := by
  induction answers generalizing el with
  | nil => exact hinv
  | cons answer rest ih =>
    cases answer with
    | again | failed => exact hinv
    | interrupted => exact ih hinv
    | accepted fd nonblockOk now addOk =>
      simp only [handleAccept]
      rcases openFd_cases hinv.kernel fd with hfail | ⟨kernel, hok, hkernel, hint, hopen, hnone⟩
      · simp only [hfail]
        exact hinv
      · simp only [hok]
        have hinv' : TableInv { el with kernel := kernel } :=
          hinv.quiet hkernel fun fd' => by rw [hint]
        have hnone' : kernel.interest fd = none := by rw [hint, hnone]
        split
        · exact ih (hinv'.closeUnregistered hopen hnone')
        split
        · exact ih (hinv'.closeUnregistered hopen hnone')
        split
        · exact ih (tableInv_defaultOnAccept hinv' hopen hnone' now addOk)
        · exact ih hinv'

theorem tableInv_handleClientEvent {el : EventLoop n} (hinv : TableInv el) (i : Fin n)
    (events : Mask) (s : EventScript) : TableInv (handleClientEvent el i events s) := by
  have htouch : TableInv (el.setConn i { el.connections i with lastActive := s.now }) :=
    hinv.edit i rfl rfl fun hfree => (hinv.free_clean i hfree).2
  simp only [handleClientEvent]
  split
  · exact hinv
  split
  · exact tableInv_defaultOnError htouch i s.delOk
  split
  · exact tableInv_elRemoveConnection htouch i s.delOk
  have hwrite : TableInv (if has events EPOLLOUT = true ∧
        (el.setConn i { el.connections i with lastActive := s.now }).callbacks.onWrite = true
      then defaultOnWrite (el.setConn i { el.connections i with lastActive := s.now }) i s
      else el.setConn i { el.connections i with lastActive := s.now }) := by
    split
    · exact tableInv_defaultOnWrite htouch i s
    · exact htouch
  split
  · exact tableInv_callOnRead hwrite i s
  · exact hwrite

theorem tableInv_dispatchEvent {el : EventLoop n} (hinv : TableInv el) (i : Fin n)
    (events : Mask) (s : EventScript) : TableInv (dispatchEvent el i events s) := by
  simp only [dispatchEvent]
  split
  · exact hinv
  split
  · split
    · exact tableInv_handleAccept hinv _ _
    · exact hinv
  · exact tableInv_handleClientEvent hinv i events s

theorem tableInv_sweepSlot {el : EventLoop n} (hinv : TableInv el) (now : Int)
    (delOk : Fin n → Bool) (i : Fin n) : TableInv (sweepSlot now delOk el i) := by
  simp only [sweepSlot]
  split
  · exact hinv
  split
  · exact hinv
  split
  · exact hinv
  split
  · exact tableInv_elRemoveConnection (tableInv_callOnClose hinv i _) i _
  · exact hinv

theorem TableInv.clock {el : EventLoop n} (hinv : TableInv el) (now : Int) :
    TableInv { el with lastIdleCheck := now } :=
  ⟨hinv.callbacks, hinv.count, hinv.free_clean, hinv.fd_injective, hinv.registered, hinv.kernel⟩

theorem tableInv_idleCheck {el : EventLoop n} (hinv : TableInv el) (now sweepNow : Int)
    (delOk : Fin n → Bool) : TableInv (idleCheck el now sweepNow delOk) := by
  unfold idleCheck
  split
  · have hswept : TableInv (cleanupIdleConnections el sweepNow delOk) :=
      List.foldlRecOn _ _ hinv fun _ h i _ => tableInv_sweepSlot h sweepNow delOk i
    exact hswept.clock now
  · exact hinv

/-! ## Section 4: Runs -/

/-- A connection type that a caller may pass to `el_add_connection`. -/
abbrev LiveType : Type := { type : ConnType // type ≠ .free }

inductive TableOp (n : Nat) where
  /-- A caller opens a descriptor. -/
  | callerOpen (fd : Int)
  /-- A caller closes a descriptor that it has not handed over. -/
  | callerClose (fd : Int)
  | add (fd : Int) (type : LiveType) (events : Mask) (now : Int) (addOk : Bool)
  | remove (i : Fin n) (delOk : Bool)
  | send (i : Fin n) (data : List UInt8) (answer : SendAnswer) (modOk : Bool)
  | loop (op : LoopOp n)

def tableStep (el : EventLoop n) : TableOp n → EventLoop n
  | .callerOpen fd => { el with kernel := (openFd el.kernel fd).2 }
  | .callerClose fd =>
    if el.kernel.isOpen fd ∧ el.kernel.interest fd = none then
      { el with kernel := closeFd el.kernel fd }
    else el
  | .add fd type events now addOk => (elAddConnection el fd type events now addOk).2
  | .remove i delOk => elRemoveConnection el i delOk
  | .send i data answer modOk => (elSendData el i data answer modOk).2
  | .loop op => loopStep el op

/-- **Step lemma.** -/
theorem tableInv_step {el : EventLoop n} (hinv : TableInv el) (op : TableOp n) :
    TableInv (tableStep el op) := by
  cases op with
  | callerOpen fd =>
    show TableInv { el with kernel := (openFd el.kernel fd).2 }
    rcases openFd_cases hinv.kernel fd with hfail | ⟨kernel, hok, hkernel, hint, -, -⟩
    · rw [hfail]
      exact hinv
    · rw [hok]
      exact hinv.quiet hkernel fun fd' => by rw [hint]
  | callerClose fd =>
    simp only [tableStep]
    split
    · next h => exact hinv.closeUnregistered h.1 h.2
    · exact hinv
  | add fd type events now addOk => exact (elAddConnection_spec hinv fd type.2 events now addOk).1
  | remove i delOk => exact tableInv_elRemoveConnection hinv i delOk
  | send i data answer modOk => exact tableInv_elSendData hinv i data answer modOk
  | loop op =>
    cases op with
    | event i events s => exact tableInv_dispatchEvent hinv i events s
    | idleCheck now sweepNow delOk => exact tableInv_idleCheck hinv now sweepNow delOk

theorem tableInv_emptyLoop (openFds : Nat → Bool) (config : ServerConfig) :
    TableInv (emptyLoop openFds config) where
  callbacks := rfl
  count := by simp [emptyLoop, live, Connection.zero]
  free_clean := fun _ _ => ⟨rfl, rfl, rfl⟩
  fd_injective := fun _ _ hi => absurd rfl hi
  registered := by simp [emptyLoop, boot, Connection.zero]
  kernel := kernelInv_boot openFds

/-- The SIP socket is registered or closed again. -/
theorem tableInv_createSipSocket {el : EventLoop n} (hinv : TableInv el) (s : CreateScript) :
    TableInv (createSipSocket el s) := by
  unfold createSipSocket esCreateUdpServer
  cases s.socketFd with
  | none => exact hinv
  | some fd =>
    rcases openFd_cases hinv.kernel fd with hfail | ⟨kernel, hok, hkernel, hint, hopen, hnone⟩
    · simp only [hfail]
      exact hinv
    · have hinv' : TableInv { el with kernel := kernel } :=
        hinv.quiet hkernel fun fd' => by rw [hint]
      have hnone' : kernel.interest fd = none := by rw [hint, hnone]
      simp only [hok]
      by_cases hsetup : s.setupOk
      · have hadd := elAddConnection_spec hinv' fd (show ConnType.udpSip ≠ .free by decide)
          defaultUdpEvents s.addTime s.addOk
        simp only [hsetup, if_true]
        split
        · next el' heq =>
          rw [heq] at hadd
          have hkernel' : el'.kernel = kernel := hadd.2 rfl
          exact hadd.1.closeUnregistered (hkernel' ▸ hopen) (hkernel' ▸ hnone')
        · next el' heq =>
          rw [heq] at hadd
          have hinv'' := hadd.1
          exact ⟨hinv''.callbacks, hinv''.count, hinv''.free_clean, hinv''.fd_injective,
            hinv''.registered, hinv''.kernel⟩
      · simp only [hsetup]
        exact hinv'.closeUnregistered hopen hnone'

theorem tableInv_elCreate {openFds : Nat → Bool} {config : ServerConfig} {s : CreateScript}
    {el : EventLoop config.capacity} (h : elCreate openFds config s = some el) : TableInv el := by
  have hempty := tableInv_emptyLoop openFds config
  simp only [elCreate] at h
  split at h
  · cases h
  obtain rfl := Option.some.inj h
  split
  · exact (tableInv_createSipSocket hempty s).clock _
  · exact hempty.clock _

/-- One slot's turn in `el_destroy`: the default `on_close` has already freed
    the slot, so that nothing is closed twice. -/
theorem destroySlot_eq {el : EventLoop n} (hinv : TableInv el) (delOk : Fin n → Bool)
    (i : Fin n) (hlive : (el.connections i).type ≠ .free) :
    destroySlot delOk el i = elRemoveConnection el i (delOk i) := by
  have hclose : el.callbacks.onClose = true := by
    rw [hinv.callbacks]
    rfl
  have hremoved : (elRemoveConnection el i (delOk i)).connections i =
      freeConnection (el.connections i) := by
    simp [elRemoveConnection, hlive, EventLoop.setConn]
  simp only [destroySlot, hlive, if_false, callOnClose, hclose, if_true, defaultOnClose,
    hremoved]
  simp [freeConnection, elRemoveConnection, hlive, EventLoop.setConn]

theorem tableInv_elDestroy {el : EventLoop n} (hinv : TableInv el) (delOk : Fin n → Bool) :
    TableInv (elDestroy el delOk) := by
  refine List.foldlRecOn _ _ hinv fun el' h i _ => ?_
  by_cases hfree : (el'.connections i).type = .free
  · rwa [destroySlot, if_pos hfree]
  · rw [destroySlot_eq h delOk i hfree]
    exact tableInv_elRemoveConnection h i (delOk i)

theorem type_elRemoveConnection (el : EventLoop n) (i j : Fin n) (delOk : Bool) :
    ((elRemoveConnection el i delOk).connections j).type =
      if j = i then .free else (el.connections j).type := by
  by_cases hfree : (el.connections i).type = .free
  · by_cases hj : j = i
    · subst hj
      simp [elRemoveConnection, hfree]
    · simp [elRemoveConnection, hfree, hj]
  · by_cases hj : j = i
    · subst hj
      simp [elRemoveConnection, hfree, EventLoop.setConn, freeConnection]
    · simp [elRemoveConnection, hfree, EventLoop.setConn, hj]

/-- A slot is free once its turn has come. -/
theorem free_foldl_destroySlot {el : EventLoop n} (hinv : TableInv el) (delOk : Fin n → Bool)
    (slots : List (Fin n)) {j : Fin n} (hj : j ∈ slots ∨ (el.connections j).type = .free) :
    ((slots.foldl (destroySlot delOk) el).connections j).type = .free := by
  induction slots generalizing el with
  | nil => simpa using hj
  | cons i slots ih =>
    by_cases hfree : (el.connections i).type = .free
    · have heq : destroySlot delOk el i = el := by simp [destroySlot, hfree]
      rw [List.foldl_cons, heq]
      refine ih hinv ?_
      rcases hj with hj | hj
      · rcases List.mem_cons.mp hj with hji | hj
        · exact Or.inr (hji ▸ hfree)
        · exact Or.inl hj
      · exact Or.inr hj
    · rw [List.foldl_cons, destroySlot_eq hinv delOk i hfree]
      refine ih (tableInv_elRemoveConnection hinv i (delOk i)) ?_
      rw [type_elRemoveConnection]
      rcases hj with hj | hj
      · rcases List.mem_cons.mp hj with hji | hj
        · exact Or.inr (if_pos hji)
        · exact Or.inl hj
      · right
        split
        · rfl
        · exact hj

/-- What the table promises. -/
structure TableOk (el : EventLoop n) : Prop where
  count : el.activeCount = (live el).card
  count_range : 0 ≤ el.activeCount ∧ el.activeCount ≤ n
  free_clean : ∀ i, (el.connections i).type = .free →
    (el.connections i).fd = -1 ∧ (el.connections i).sendLen = 0 ∧
      (el.connections i).sendOffset = 0
  fd_nonneg : ∀ i, (el.connections i).type ≠ .free → 0 ≤ (el.connections i).fd
  fd_distinct : ∀ i j, (el.connections i).type ≠ .free → (el.connections j).type ≠ .free →
    (el.connections i).fd = (el.connections j).fd → i = j
  /-- Each registration still occupies exactly one live slot, and `close` was
      not called for it, or `close` was called for it exactly once and its
      descriptor is in no slot until it is opened again. -/
  ledger : ∀ pre fd post, el.kernel.log = pre ++ .added fd :: post →
    (closes fd post = 0 ∧
      ∃! i, (el.connections i).type ≠ .free ∧ (el.connections i).fd = fd) ∨
    (closes fd post = 1 ∧
      (.opened fd ∈ post ∨ ∀ i, (el.connections i).type ≠ .free → (el.connections i).fd ≠ fd))
  /-- No call of `close` follows another one for the same descriptor, registered
      or not, before it is opened again. -/
  closed_once : ∀ pre fd post, el.kernel.log = pre ++ .closed fd :: post → closes fd post = 0

theorem TableInv.tableOk {el : EventLoop n} (hinv : TableInv el) : TableOk el where
  count := hinv.count
  count_range := by
    have hcount := hinv.count
    have hcard : (live el).card ≤ n := by simpa using Finset.card_le_univ (live el)
    omega
  free_clean := hinv.free_clean
  fd_nonneg := fun _ hi => hinv.fd_nonneg hi
  fd_distinct := hinv.fd_injective
  ledger := by
    intro pre fd post hlog
    rcases hinv.kernel.accounted pre fd post hlog with ⟨hzero, -, hsome⟩ | ⟨hone, hend⟩
    · left
      obtain ⟨i, hi, hfd⟩ := (hinv.registered fd).mp hsome
      refine ⟨hzero, i, ⟨hi, hfd⟩, ?_⟩
      intro j hj
      exact hinv.fd_injective j i hj.1 hi (hj.2.trans hfd.symm)
    · right
      refine ⟨hone, hend.imp_right ?_⟩
      intro hclosed i hi hfd
      have hopen := hinv.isOpen_of_live hi
      rw [hfd, hclosed] at hopen
      cases hopen
  closed_once := fun pre fd post hlog => (hinv.kernel.closed_once pre fd post hlog).1

theorem tableInv_run {el₀ el : EventLoop n} {ops : List (TableOp n)} (h₀ : TableInv el₀)
    (hrun : Run (ofFun tableStep) el₀ ops el) : TableInv el := by
  apply hrun.invariant h₀
  intro t op u hinv hstep
  rw [← hstep]
  exact tableInv_step hinv op

/-- **The table is consistent with the kernel in every run.**  After
    `el_create`, over every sequence of additions, removals, sends, events
    and idle checks under the default callbacks and any answers of the
    kernel, `TableOk` holds; `el_destroy` keeps it and frees every slot. -/
theorem table_run {openFds : Nat → Bool} {config : ServerConfig} {s : CreateScript}
    {el₀ el : EventLoop config.capacity} {ops : List (TableOp config.capacity)}
    (hcreate : elCreate openFds config s = some el₀) (hrun : Run (ofFun tableStep) el₀ ops el)
    (delOk : Fin config.capacity → Bool) :
    TableOk el ∧ TableOk (elDestroy el delOk) ∧
      ∀ i, ((elDestroy el delOk).connections i).type = .free := by
  have hinv := tableInv_run (tableInv_elCreate hcreate) hrun
  refine ⟨hinv.tableOk, (tableInv_elDestroy hinv delOk).tableOk, ?_⟩
  intro i
  exact free_foldl_destroySlot hinv delOk _ (Or.inl (List.mem_finRange i))

/-- An error on the SIP socket, whose descriptor a client gets next. -/
def sipErrorThenClient : List (TableOp 2) :=
  [.loop (.event ⟨0, by decide⟩ EPOLLERR ⟨1, false, true, .again, [], []⟩), .callerOpen 5,
    .add 5 ⟨.tcpClient, by decide⟩ defaultTcpEvents 2 true]

/-- The chain `on_error` → `on_close` closes the descriptor once, and so does
    `el_destroy` after it was used again. -/
theorem table_run_sip_error :
    ∃ el₀ el : EventLoop 2,
      elCreate (fun _ => false) { startServerConfig with maxConnections := 2 }
        ⟨true, some 5, true, true, 0, 0⟩ = some el₀ ∧
      Run (ofFun tableStep) el₀ sipErrorThenClient el ∧
      (elDestroy el fun _ => true).kernel.log =
        [.opened 5, .added 5, .closed 5, .opened 5, .added 5, .removed 5, .closed 5] ∧
      TableOk el ∧ TableOk (elDestroy el fun _ => true) := by
  obtain ⟨el₀, hcreate⟩ : ∃ el₀ : EventLoop 2,
      elCreate (fun _ => false) { startServerConfig with maxConnections := 2 }
        ⟨true, some 5, true, true, 0, 0⟩ = some el₀ := ⟨_, rfl⟩
  have hrun : Run (ofFun tableStep) el₀ sipErrorThenClient
      (sipErrorThenClient.foldl tableStep el₀) := .cons rfl <| .cons rfl <| .cons rfl <| .nil _
  have hok := table_run hcreate hrun fun _ => true
  refine ⟨el₀, _, hcreate, hrun, ?_, hok.1, hok.2.1⟩
  cases hcreate
  decide

end EpollServer
