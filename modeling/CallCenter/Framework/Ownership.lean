import Mathlib.Data.Finset.Insert
import Mathlib.Data.Finset.Erase

/-! # Ownership

    Objects that a program acquires, uses and releases: memory, connections,
    result sets, file handles.  A log of such events is sound if no object is
    used or released while nobody holds it, and none is handed out twice at a
    time.  `Holds log held` says that the log is sound and that the objects
    `held` are the ones still to be released.

    * `Holds.acquire`, `Holds.use`, `Holds.release`: how a log grows.
    * `Holds.count`: an object is released as often as it is acquired, once
      less if it is still held.
    * `Holds.of_append`: the prefixes of a sound log are sound.
    * `Accounts log P`: the objects still to be released are those with `P`. -/

namespace Ownership

inductive Event (R : Type*) where
  | acquire (r : R)
  | use (r : R)
  | release (r : R)
  deriving DecidableEq, Repr

variable {R : Type*} [DecidableEq R]

/-- The objects held after an event; `none` is a misuse. -/
def step (held : Finset R) : Event R → Option (Finset R)
  | .acquire r => if r ∈ held then none else some (insert r held)
  | .use r => if r ∈ held then some held else none
  | .release r => if r ∈ held then some (held.erase r) else none

def run (held : Finset R) : List (Event R) → Option (Finset R)
  | [] => some held
  | e :: log => (step held e).bind fun next => run next log

/-- The log is sound, and these objects are still held after it. -/
def Holds (log : List (Event R)) (held : Finset R) : Prop := run ∅ log = some held

theorem run_append (held : Finset R) (log later : List (Event R)) :
    run held (log ++ later) = (run held log).bind fun next => run next later := by
  induction log generalizing held with
  | nil => rfl
  | cons e log ih =>
    simp only [List.cons_append, run]
    cases step held e with
    | none => rfl
    | some next => exact ih next

theorem holds_nil : Holds ([] : List (Event R)) ∅ := rfl

variable {log later : List (Event R)} {held held' : Finset R} {r : R}

theorem Holds.unique (h : Holds log held) (h' : Holds log held') : held = held' :=
  Option.some.inj (h.symm.trans h')

/-! ## How a log grows -/

theorem Holds.snoc {e : Event R} {next : Finset R} (h : Holds log held)
    (he : step held e = some next) : Holds (log ++ [e]) next := by
  unfold Holds
  rw [run_append, h]
  simp [run, he]

theorem Holds.acquire (h : Holds log held) (hr : r ∉ held) :
    Holds (log ++ [.acquire r]) (insert r held) :=
  h.snoc (if_neg hr)

theorem Holds.use (h : Holds log held) (hr : r ∈ held) : Holds (log ++ [.use r]) held :=
  h.snoc (if_pos hr)

theorem Holds.release (h : Holds log held) (hr : r ∈ held) :
    Holds (log ++ [.release r]) (held.erase r) :=
  h.snoc (if_pos hr)

/-! ## What a sound log says -/

/-- A prefix of a sound log is sound. -/
theorem Holds.of_append (h : Holds (log ++ later) held') :
    ∃ held, Holds log held ∧ run held later = some held' := by
  unfold Holds at h
  rw [run_append] at h
  exact Option.bind_eq_some_iff.mp h

/-- What one event does to the balance of an object. -/
theorem step_balance {e : Event R} {next : Finset R} (h : step held e = some next) (r : R) :
    [e].count (.acquire r) + (if r ∈ held then 1 else 0) =
      [e].count (.release r) + if r ∈ next then 1 else 0 := by
  cases e with
  | acquire x =>
    by_cases hx : x ∈ held
    · simp [step, hx] at h
    · obtain rfl : insert x held = next := by simpa [step, hx] using h
      by_cases hr : r = x
      · subst hr
        simp [hx]
      · simp [hr, Ne.symm hr]
  | use x =>
    by_cases hx : x ∈ held
    · obtain rfl : held = next := by simpa [step, hx] using h
      simp
    · simp [step, hx] at h
  | release x =>
    by_cases hx : x ∈ held
    · obtain rfl : held.erase x = next := by simpa [step, hx] using h
      by_cases hr : r = x
      · subst hr
        simp [hx]
      · simp [hr, Ne.symm hr]
    · simp [step, hx] at h

theorem run_balance {next : Finset R} (h : run held log = some next) (r : R) :
    log.count (.acquire r) + (if r ∈ held then 1 else 0) =
      log.count (.release r) + if r ∈ next then 1 else 0 := by
  induction log generalizing held with
  | nil =>
    obtain rfl : held = next := Option.some.inj h
    simp
  | cons e log ih =>
    obtain ⟨mid, hstep, hrest⟩ := Option.bind_eq_some_iff.mp h
    have hfirst := step_balance hstep r
    have hlater := ih hrest
    rw [show e :: log = [e] ++ log from rfl, List.count_append, List.count_append]
    omega

/-- **Balance**: what is no longer held has been released as often as it was
    acquired. -/
theorem Holds.count (h : Holds log held) (r : R) :
    log.count (.acquire r) = log.count (.release r) + if r ∈ held then 1 else 0 := by
  simpa using run_balance h r

/-! ## What is held, as a predicate -/

/-- The log is sound, and the objects still held are those with `P`. -/
def Accounts (log : List (Event R)) (P : R → Prop) : Prop :=
  ∃ held, Holds log held ∧ ∀ r, r ∈ held ↔ P r

variable {P Q : R → Prop}

theorem accounts_nil (hP : ∀ r, ¬ P r) : Accounts ([] : List (Event R)) P :=
  ⟨∅, holds_nil, fun r => iff_of_false (Finset.notMem_empty r) (hP r)⟩

theorem Accounts.congr (h : Accounts log P) (hPQ : ∀ r, Q r ↔ P r) : Accounts log Q := by
  obtain ⟨held, hheld, hiff⟩ := h
  exact ⟨held, hheld, fun r => (hiff r).trans (hPQ r).symm⟩

theorem Accounts.acquire (h : Accounts log P) (hr : ¬ P r) (hQ : ∀ x, Q x ↔ x = r ∨ P x) :
    Accounts (log ++ [.acquire r]) Q := by
  obtain ⟨held, hheld, hiff⟩ := h
  refine ⟨insert r held, hheld.acquire fun hmem => hr ((hiff r).mp hmem), fun x => ?_⟩
  rw [Finset.mem_insert, hiff, hQ]

theorem Accounts.use (h : Accounts log P) (hr : P r) : Accounts (log ++ [.use r]) P := by
  obtain ⟨held, hheld, hiff⟩ := h
  exact ⟨held, hheld.use ((hiff r).mpr hr), hiff⟩

theorem Accounts.release (h : Accounts log P) (hr : P r) (hQ : ∀ x, Q x ↔ x ≠ r ∧ P x) :
    Accounts (log ++ [.release r]) Q := by
  obtain ⟨held, hheld, hiff⟩ := h
  refine ⟨held.erase r, hheld.release ((hiff r).mpr hr), fun x => ?_⟩
  rw [Finset.mem_erase, hiff, hQ]

/-- With nothing left to release, every object has been released as often as it
    was acquired. -/
theorem Accounts.none (h : Accounts log P) (hP : ∀ r, ¬ P r) : Holds log ∅ := by
  obtain ⟨held, hheld, hiff⟩ := h
  obtain rfl : held = ∅ := Finset.eq_empty_of_forall_notMem fun r hr => hP r ((hiff r).mp hr)
  exact hheld

end Ownership
