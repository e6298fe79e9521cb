import Mathlib.Data.List.Basic
import Mathlib.Data.List.Infix
import Mathlib.Logic.Function.Basic

/-! # File Descriptors and an epoll Instance

    The kernel as one process with one epoll instance sees it: which
    descriptors are open, which of them are registered for events, and a log
    of what was done to them, oldest first.

    A call whose outcome the caller does not control takes that outcome as an
    argument; the kernel's own guarantees are built into the functions:
    a new descriptor is one that is not open, and a second registration of a
    descriptor is rejected.

    `closes` counts the calls of `close` after an entry of the log, also those
    that find the descriptor closed already.  `KernelInv.accounted` is the
    ledger: since each registration either the descriptor was never closed and
    is still registered, or it was closed exactly once before being opened
    again.  `KernelInv.closed_once` says the same of every close: no second one
    follows before the descriptor is opened again. -/

namespace Descriptors

/-- An event mask of `epoll_ctl` and `epoll_wait`. -/
abbrev Mask : Type := BitVec 32

inductive Event where
  | opened (fd : Int)
  /-- `close` was called, whether the descriptor was open or not. -/
  | closed (fd : Int)
  | added (fd : Int)
  | modified (fd : Int) (mask : Mask)
  | removed (fd : Int)
  /-- The kernel accepted these bytes for sending. -/
  | sent (fd : Int) (data : List UInt8)
  /-- These bytes were read. -/
  | received (fd : Int) (data : List UInt8)
  deriving DecidableEq

structure Kernel where
  isOpen : Int → Bool
  /-- The mask a descriptor is registered with. -/
  interest : Int → Option Mask
  log : List Event

/-- A process that just created its epoll instance, with some descriptors open. -/
def boot (openFds : Nat → Bool) : Kernel where
  isOpen := fun fd => 0 ≤ fd && openFds fd.toNat
  interest := fun _ => none
  log := []

def Kernel.record (k : Kernel) (e : Event) : Kernel := { k with log := k.log ++ [e] }

/-! ## Section 1: System calls -/

/-- `socket` or `accept` returning `fd`; a descriptor the kernel cannot
    return is ignored. -/
def openFd (k : Kernel) (fd : Int) : Bool × Kernel :=
  if 0 ≤ fd ∧ k.isOpen fd = false then
    (true, { k with isOpen := Function.update k.isOpen fd true }.record (.opened fd))
  else (false, k)

/-- `close`, which also ends a registration.  A call with a descriptor that is
    not open fails and leaves nothing but its entry in the log. -/
def closeFd (k : Kernel) (fd : Int) : Kernel :=
  let k :=
    if k.isOpen fd then
      { k with
        isOpen := Function.update k.isOpen fd false
        interest := Function.update k.interest fd none }
    else k
  k.record (.closed fd)

/-- `epoll_ctl ADD` -/
def addFd (k : Kernel) (fd : Int) (mask : Mask) (ok : Bool) : Bool × Kernel :=
  if ok ∧ k.isOpen fd ∧ k.interest fd = none then
    (true, { k with interest := Function.update k.interest fd (some mask) }.record (.added fd))
  else (false, k)

/-- `epoll_ctl MOD` -/
def modFd (k : Kernel) (fd : Int) (mask : Mask) (ok : Bool) : Bool × Kernel :=
  if ok ∧ (k.interest fd).isSome then
    (true, { k with interest := Function.update k.interest fd (some mask) }.record
      (.modified fd mask))
  else (false, k)

/-- `epoll_ctl DEL` -/
def delFd (k : Kernel) (fd : Int) (ok : Bool) : Bool × Kernel :=
  if ok ∧ (k.interest fd).isSome then
    (true, { k with interest := Function.update k.interest fd none }.record (.removed fd))
  else (false, k)

/-! ## Section 2: The ledger -/

/-- What happened after a registration of `fd` up to its next opening. -/
def era (fd : Int) (post : List Event) : List Event := post.takeWhile (· ≠ .opened fd)

/-- How often the descriptor was closed since a registration that `post` follows. -/
def closes (fd : Int) (post : List Event) : Nat := (era fd post).count (.closed fd)

/-- Every registration is still in force, or was ended by exactly one close. -/
def Accounted (k : Kernel) : Prop :=
  ∀ pre fd post, k.log = pre ++ .added fd :: post →
    (closes fd post = 0 ∧ .opened fd ∉ post ∧ (k.interest fd).isSome) ∨
    (closes fd post = 1 ∧ (.opened fd ∈ post ∨ k.isOpen fd = false))

/-- No descriptor is closed a second time before it is opened again. -/
def ClosedOnce (k : Kernel) : Prop :=
  ∀ pre fd post, k.log = pre ++ .closed fd :: post →
    closes fd post = 0 ∧ (.opened fd ∈ post ∨ k.isOpen fd = false)

-- the second call is seen although it does nothing
example : ¬ ClosedOnce (closeFd (closeFd (boot fun _ => true) 3) 3) := by
  intro h
  have hzero := (h [] 3 [.closed 3] (by decide)).1
  exact absurd hzero (by decide)

structure KernelInv (k : Kernel) : Prop where
  open_nonneg : ∀ fd, k.isOpen fd = true → 0 ≤ fd
  interest_open : ∀ fd, (k.interest fd).isSome → k.isOpen fd = true
  accounted : Accounted k
  closed_once : ClosedOnce k

theorem era_append_of_mem {fd : Int} {post : List Event} (h : .opened fd ∈ post) (e : Event) :
    era fd (post ++ [e]) = era fd post := by
  induction post with
  | nil => simp at h
  | cons x post ih =>
    by_cases hx : x = .opened fd
    · simp [era, hx]
    · have hmem : .opened fd ∈ post := by
        rcases List.mem_cons.mp h with h | h
        · exact absurd h.symm hx
        · exact h
      have hpost := ih hmem
      simp only [era, List.cons_append, List.takeWhile_cons, ne_eq, hx, not_false_eq_true,
        decide_true, if_true] at hpost ⊢
      rw [hpost]

theorem not_opened_of_notMem {fd : Int} {post : List Event} (h : .opened fd ∉ post) :
    ∀ x ∈ post, decide (x ≠ .opened fd) = true := by
  intro x hx
  have hne : x ≠ .opened fd := fun heq => h (heq ▸ hx)
  simp [hne]

theorem era_eq_of_notMem {fd : Int} {post : List Event} (h : .opened fd ∉ post) :
    era fd post = post := by
  have hera : era fd (post ++ []) = post ++ era fd [] :=
    List.takeWhile_append_of_pos (not_opened_of_notMem h)
  simpa [era] using hera

theorem era_append_of_notMem {fd : Int} {post : List Event} (h : .opened fd ∉ post) (e : Event) :
    era fd (post ++ [e]) = post ++ (if e = .opened fd then [] else [e]) := by
  unfold era
  rw [List.takeWhile_append_of_pos (not_opened_of_notMem h)]
  by_cases he : e = .opened fd <;> simp [he]

/-- One more event adds a close only if it is a close and the descriptor was
    not opened again in between. -/
theorem closes_append (fd : Int) (post : List Event) (e : Event) :
    closes fd (post ++ [e]) =
      closes fd post + (if e = .closed fd ∧ .opened fd ∉ post then 1 else 0) := by
  unfold closes
  by_cases hmem : Event.opened fd ∈ post
  · rw [era_append_of_mem hmem]
    simp [hmem]
  · rw [era_append_of_notMem hmem, era_eq_of_notMem hmem, List.count_append]
    by_cases hopen : e = .opened fd
    · simp [hopen]
    · by_cases hclosed : e = .closed fd
      · simp [hclosed, hmem]
      · simp [hopen, hclosed]

/-- An entry of a log that grew by one is the new one or an old one. -/
theorem log_split {log pre post : List Event} {e entry : Event}
    (h : log ++ [e] = pre ++ entry :: post) :
    (e = entry ∧ post = []) ∨
      ∃ post', post = post' ++ [e] ∧ log = pre ++ entry :: post' := by
  rcases List.eq_nil_or_concat post with rfl | ⟨post', e', rfl⟩
  · have hlast := (List.append_inj' h rfl).2
    exact Or.inl ⟨by simpa using hlast, rfl⟩
  · have h' : log ++ [e] = (pre ++ entry :: post') ++ [e'] := by simpa using h
    obtain ⟨hlog, hlast⟩ := List.append_inj' h' rfl
    obtain rfl := List.singleton_inj.mp hlast
    exact Or.inr ⟨post', by simp, hlog⟩

/-- One more event keeps `ClosedOnce` if a close is one of an open descriptor,
    and a closed descriptor stays so until it is opened. -/
theorem ClosedOnce.append {k k' : Kernel} (h : ClosedOnce k) {e : Event}
    (hlog : k'.log = k.log ++ [e])
    (hclose : ∀ fd, e = .closed fd → k.isOpen fd = true ∧ k'.isOpen fd = false)
    (hstay : ∀ fd, k.isOpen fd = false → k'.isOpen fd = false ∨ e = .opened fd) :
    ClosedOnce k' := by
  intro pre fd post hsplit
  rw [hlog] at hsplit
  rcases log_split hsplit with ⟨heq, rfl⟩ | ⟨post', rfl, hold⟩
  · exact ⟨rfl, Or.inr (hclose fd heq).2⟩
  · obtain ⟨hzero, hend⟩ := h pre fd post' hold
    have hno : ¬ (e = .closed fd ∧ .opened fd ∉ post') := by
      rintro ⟨he, hnot⟩
      rcases hend with hmem | hshut
      · exact hnot hmem
      · rw [(hclose fd he).1] at hshut
        cases hshut
    rw [closes_append, if_neg hno]
    refine ⟨hzero, ?_⟩
    rcases hend with hmem | hshut
    · exact Or.inl (List.mem_append_left _ hmem)
    · rcases hstay fd hshut with hshut' | rfl
      · exact Or.inr hshut'
      · exact Or.inl (by simp)

/-! ## Section 3: What the calls preserve -/

theorem kernelInv_boot (openFds : Nat → Bool) : KernelInv (boot openFds) where
  open_nonneg := by
    intro fd h
    simp only [boot, Bool.and_eq_true, decide_eq_true_eq] at h
    exact h.1
  interest_open := by simp [boot]
  accounted := by simp [Accounted, boot]
  closed_once := by simp [ClosedOnce, boot]

/-- An event that neither opens, closes nor registers leaves the ledger alone. -/
theorem KernelInv.of_log {k k' : Kernel} (hinv : KernelInv k) {e : Event}
    (hlog : k'.log = k.log ++ [e]) (hopen : k'.isOpen = k.isOpen)
    (hint : ∀ fd, (k'.interest fd).isSome = (k.interest fd).isSome)
    (hkeep : ∀ fd, e ≠ .closed fd ∧ e ≠ .added fd ∧ e ≠ .opened fd) : KernelInv k' := by
  refine ⟨fun fd h => hinv.open_nonneg fd (hopen ▸ h), ?_, ?_, ?_⟩
  · intro fd h
    rw [hint] at h
    rw [hopen]
    exact hinv.interest_open fd h
  · intro pre fd post hsplit
    rw [hlog] at hsplit
    rcases log_split hsplit with ⟨heq, -⟩ | ⟨post', rfl, hold⟩
    · exact absurd heq (hkeep fd).2.1
    · rw [closes_append, if_neg fun h => (hkeep fd).1 h.1, hint, hopen]
      rcases hinv.accounted pre fd post' hold with ⟨hzero, hnot, hsome⟩ | ⟨hone, hend⟩
      · have hnot' : .opened fd ∉ post' ++ [e] := by simp [hnot, (hkeep fd).2.2.symm]
        exact Or.inl ⟨hzero, hnot', hsome⟩
      · exact Or.inr ⟨hone, hend.imp_left (List.mem_append_left _)⟩
  · refine hinv.closed_once.append hlog ?_ ?_
    · intro fd h
      exact absurd h (hkeep fd).1
    · intro fd h
      exact Or.inl (hopen ▸ h)

theorem KernelInv.record_other {k : Kernel} (hinv : KernelInv k) {e : Event}
    (hkeep : ∀ fd, e ≠ .closed fd ∧ e ≠ .added fd ∧ e ≠ .opened fd) : KernelInv (k.record e) :=
  hinv.of_log rfl rfl (fun _ => rfl) hkeep

theorem KernelInv.openFd {k : Kernel} (hinv : KernelInv k) {fd : Int}
    (hok : 0 ≤ fd ∧ k.isOpen fd = false) : KernelInv (openFd k fd).2 := by
  have heq : (Descriptors.openFd k fd).2 =
      { k with isOpen := Function.update k.isOpen fd true }.record (.opened fd) := by
    simp [Descriptors.openFd, hok]
  rw [heq]
  refine ⟨?_, ?_, ?_, ?_⟩
  · intro fd' h
    by_cases hfd : fd' = fd
    · exact hfd ▸ hok.1
    · exact hinv.open_nonneg fd' (by simpa [Kernel.record, hfd] using h)
  · intro fd' h
    have hold := hinv.interest_open fd' h
    by_cases hfd : fd' = fd
    · simp [Kernel.record, hfd]
    · simpa [Kernel.record, hfd] using hold
  · intro pre fd' post hsplit
    rcases log_split hsplit with ⟨heq, -⟩ | ⟨post', rfl, hold⟩
    · cases heq
    · rw [closes_append, if_neg (by simp)]
      rcases hinv.accounted pre fd' post' hold with ⟨hzero, hnot, hsome⟩ | ⟨hone, hend⟩
      · -- a registered descriptor is open, so it is not the new one
        have hfd : fd' ≠ fd := by
          intro h
          have hopen := hinv.interest_open fd' hsome
          rw [h, hok.2] at hopen
          cases hopen
        exact Or.inl ⟨hzero, by simp [hnot, hfd], hsome⟩
      · refine Or.inr ⟨hone, ?_⟩
        by_cases hfd : fd' = fd
        · exact Or.inl (by simp [hfd])
        · simpa [Kernel.record, hfd] using hend
  · refine hinv.closed_once.append rfl (by simp) ?_
    intro fd' h
    by_cases hfd : fd' = fd
    · exact Or.inr (by rw [hfd])
    · exact Or.inl (by simpa [Kernel.record, hfd] using h)

/-- A successful registration. -/
theorem KernelInv.addFd {k : Kernel} (hinv : KernelInv k) {fd : Int} {mask : Mask}
    (hopen : k.isOpen fd = true) (hnone : k.interest fd = none) :
    KernelInv (addFd k fd mask true).2 := by
  have heq : (Descriptors.addFd k fd mask true).2 =
      { k with interest := Function.update k.interest fd (some mask) }.record (.added fd) := by
    simp [Descriptors.addFd, hopen, hnone]
  rw [heq]
  refine ⟨hinv.open_nonneg, ?_, ?_, ?_⟩
  · intro fd' h
    by_cases hfd : fd' = fd
    · exact hfd ▸ hopen
    · exact hinv.interest_open fd' (by simpa [Kernel.record, hfd] using h)
  · intro pre fd' post hsplit
    rcases log_split hsplit with ⟨heq, rfl⟩ | ⟨post', rfl, hold⟩
    · obtain rfl : fd = fd' := by simpa using heq
      exact Or.inl ⟨rfl, by simp, by simp [Kernel.record]⟩
    · rw [closes_append, if_neg (by simp)]
      rcases hinv.accounted pre fd' post' hold with ⟨hzero, hnot, hsome⟩ | ⟨hone, hend⟩
      · refine Or.inl ⟨hzero, by simp [hnot], ?_⟩
        by_cases hfd : fd' = fd
        · simp [Kernel.record, hfd]
        · simpa [Kernel.record, hfd] using hsome
      · exact Or.inr ⟨hone, hend.imp_left (List.mem_append_left _)⟩
  · exact hinv.closed_once.append rfl (by simp) fun _ h => Or.inl h

/-- Closing an open descriptor that is still registered, or one that never was. -/
theorem KernelInv.closeFd {k : Kernel} (hinv : KernelInv k) {fd : Int}
    (hopen : k.isOpen fd = true) : KernelInv (closeFd k fd) := by
  have heq : Descriptors.closeFd k fd =
      { k with
        isOpen := Function.update k.isOpen fd false
        interest := Function.update k.interest fd none }.record (.closed fd) := by
    simp [Descriptors.closeFd, hopen]
  rw [heq]
  refine ⟨?_, ?_, ?_, ?_⟩
  · intro fd' h
    by_cases hfd : fd' = fd
    · simp [Kernel.record, hfd] at h
    · exact hinv.open_nonneg fd' (by simpa [Kernel.record, hfd] using h)
  · intro fd' h
    by_cases hfd : fd' = fd
    · simp [Kernel.record, hfd] at h
    · have hold := hinv.interest_open fd' (by simpa [Kernel.record, hfd] using h)
      simpa [Kernel.record, hfd] using hold
  · intro pre fd' post hsplit
    rcases log_split hsplit with ⟨heq, -⟩ | ⟨post', rfl, hold⟩
    · cases heq
    · have hacc := hinv.accounted pre fd' post' hold
      rw [closes_append]
      by_cases hfd : fd' = fd
      · subst hfd
        rcases hacc with ⟨hzero, hnot, -⟩ | ⟨hone, hend⟩
        · exact Or.inr ⟨by simp [hzero, hnot], Or.inr (by simp [Kernel.record])⟩
        · have hmem : Event.opened fd' ∈ post' := by
            rcases hend with hmem | hshut
            · exact hmem
            · rw [hopen] at hshut
              cases hshut
          exact Or.inr ⟨by simp [hone, hmem], Or.inl (by simp [hmem])⟩
      · have hne : ¬ (Event.closed fd = .closed fd' ∧ Event.opened fd' ∉ post') := by
          intro h
          exact hfd (by simpa using h.1.symm)
        rw [if_neg hne]
        rcases hacc with ⟨hzero, hnot, hsome⟩ | ⟨hone, hend⟩
        · exact Or.inl ⟨hzero, by simp [hnot], by simpa [Kernel.record, hfd] using hsome⟩
        · refine Or.inr ⟨hone, ?_⟩
          rcases hend with hmem | hshut
          · exact Or.inl (by simp [hmem])
          · exact Or.inr (by simpa [Kernel.record, hfd] using hshut)
  · refine hinv.closed_once.append rfl ?_ ?_
    · intro fd' h
      obtain rfl : fd = fd' := by simpa using h
      exact ⟨hopen, by simp [Kernel.record]⟩
    · intro fd' h
      by_cases hfd : fd' = fd
      · exact Or.inl (by simp [Kernel.record, hfd])
      · exact Or.inl (by simpa [Kernel.record, hfd] using h)

/-- Taking a descriptor off the epoll instance before closing it makes no
    difference but for the log. -/
theorem closeFd_delFd {k : Kernel} {fd : Int} (hopen : k.isOpen fd = true) (ok : Bool) :
    closeFd (delFd k fd ok).2 fd = closeFd k fd ∨
      closeFd (delFd k fd ok).2 fd = closeFd (k.record (.removed fd)) fd := by
  unfold delFd
  split
  · right
    simp [Descriptors.closeFd, Kernel.record, hopen]
  · exact Or.inl rfl

/-- **One close ends a registration**, whether `epoll_ctl DEL` worked or not. -/
theorem KernelInv.release {k : Kernel} (hinv : KernelInv k) {fd : Int} (ok : Bool)
    (hopen : k.isOpen fd = true) : KernelInv (Descriptors.closeFd (delFd k fd ok).2 fd) := by
  rcases closeFd_delFd hopen ok with heq | heq
  · rw [heq]
    exact hinv.closeFd hopen
  · rw [heq]
    exact (hinv.record_other (by simp)).closeFd hopen

theorem interest_closeFd {k : Kernel} {fd : Int} (hopen : k.isOpen fd = true) :
    (closeFd k fd).interest = Function.update k.interest fd none := by
  simp [closeFd, hopen, Kernel.record]

theorem interest_release {k : Kernel} {fd : Int} (hopen : k.isOpen fd = true) (ok : Bool) :
    (closeFd (delFd k fd ok).2 fd).interest = Function.update k.interest fd none := by
  rcases closeFd_delFd hopen ok with heq | heq
  · rw [heq, interest_closeFd hopen]
  · rw [heq, interest_closeFd (k := k.record (.removed fd)) hopen]
    rfl

/-- A registration either fails and changes nothing, or succeeds on an open
    descriptor that was not registered. -/
theorem addFd_cases (k : Kernel) (fd : Int) (mask : Mask) (ok : Bool) :
    addFd k fd mask ok = (false, k) ∨
      (k.isOpen fd = true ∧ k.interest fd = none ∧
        addFd k fd mask ok = (true, (addFd k fd mask true).2)) := by
  by_cases hok : ok = true ∧ k.isOpen fd = true ∧ k.interest fd = none
  · obtain ⟨rfl, hopen, hnone⟩ := hok
    exact Or.inr ⟨hopen, hnone, by simp [addFd, hopen, hnone]⟩
  · exact Or.inl (by simp only [addFd, if_neg hok])

/-- A new descriptor is open and not registered. -/
theorem openFd_cases {k : Kernel} (hinv : KernelInv k) (fd : Int) :
    openFd k fd = (false, k) ∨
      ∃ k', openFd k fd = (true, k') ∧ KernelInv k' ∧ k'.interest = k.interest ∧
        k'.isOpen fd = true ∧ k.interest fd = none := by
  by_cases hok : 0 ≤ fd ∧ k.isOpen fd = false
  · right
    have hnone : k.interest fd = none := by
      have hclosed := hinv.interest_open fd
      rw [hok.2] at hclosed
      simpa using hclosed
    refine ⟨(openFd k fd).2, ?_, hinv.openFd hok, ?_, ?_, hnone⟩
    · simp [openFd, hok]
    · simp [openFd, hok, Kernel.record]
    · simp [openFd, hok, Kernel.record]
  · exact Or.inl (by simp only [openFd, if_neg hok])

/-! ## Section 4: Calls that keep descriptors and registrations -/

/-- No descriptor was opened, closed, registered or taken off. -/
structure Quiet (k k' : Kernel) : Prop where
  inv : KernelInv k → KernelInv k'
  isOpen : k'.isOpen = k.isOpen
  interest : ∀ fd, (k'.interest fd).isSome = (k.interest fd).isSome

theorem Quiet.refl (k : Kernel) : Quiet k k := ⟨id, rfl, fun _ => rfl⟩

theorem Quiet.trans {k₁ k₂ k₃ : Kernel} (h₁ : Quiet k₁ k₂) (h₂ : Quiet k₂ k₃) : Quiet k₁ k₃ where
  inv := h₂.inv ∘ h₁.inv
  isOpen := h₂.isOpen.trans h₁.isOpen
  interest := fun fd => (h₂.interest fd).trans (h₁.interest fd)

theorem quiet_sent (k : Kernel) (fd : Int) (data : List UInt8) :
    Quiet k (k.record (.sent fd data)) :=
  ⟨fun h => h.record_other (by simp), rfl, fun _ => rfl⟩

theorem quiet_received (k : Kernel) (fd : Int) (data : List UInt8) :
    Quiet k (k.record (.received fd data)) :=
  ⟨fun h => h.record_other (by simp), rfl, fun _ => rfl⟩

theorem isSome_of_modFd {k k' : Kernel} {fd : Int} {mask : Mask} {ok : Bool}
    (h : modFd k fd mask ok = (true, k')) : (k.interest fd).isSome := by
  unfold modFd at h
  split at h
  · next hok => exact hok.2
  · cases h

theorem quiet_modFd (k : Kernel) (fd : Int) (mask : Mask) (ok : Bool) :
    Quiet k (modFd k fd mask ok).2 := by
  unfold modFd
  split
  · next hok =>
    have hsome : ∀ fd', (Function.update k.interest fd (some mask) fd').isSome =
        (k.interest fd').isSome := by
      intro fd'
      by_cases hfd : fd' = fd
      · rw [hfd, Function.update_self]
        exact hok.2.symm
      · rw [Function.update_of_ne hfd]
    exact ⟨fun h => h.of_log rfl rfl hsome (by simp), rfl, hsome⟩
  · exact Quiet.refl k

end Descriptors
