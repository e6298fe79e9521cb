import Mathlib.Logic.Function.Basic
import CallCenter.Framework.Transition

/-! # Registers with Writes that may get lost

    A client writes and reads registers over a connection that may fail.  A
    write that is not acknowledged has taken effect or has not, a read may
    find nothing.

    `current_of_run`: what a register holds was written by a call after which
    no write to it was acknowledged. -/

namespace Register

open Transition

variable {Key Value : Type*} [DecidableEq Key]

/-- What the client sees of a call. -/
inductive Observation (Key Value : Type*) where
  | write (k : Key) (v : Value) (acknowledged : Bool)
  | read (k : Key) (v : Value)
  | nothing

/-- What a call can do to the registers. -/
def step (s : Key → Value) (o : Observation Key Value) (t : Key → Value) : Prop :=
  match o with
  | .write k v true => t = Function.update s k v
  | .write k v false => t = s ∨ t = Function.update s k v
  | .read k v => t = s ∧ s k = v
  | .nothing => t = s

/-- An acknowledged write to the register. -/
def Acknowledges (k : Key) (o : Observation Key Value) : Prop := ∃ v, o = .write k v true

/-- After these calls the register `k`, which held `v₀` before, can hold `v`. -/
def Current (v₀ : Value) (os : List (Observation Key Value)) (k : Key) (v : Value) : Prop :=
  (v = v₀ ∧ ∀ o ∈ os, ¬ Acknowledges k o) ∨
    ∃ before acknowledged after, os = before ++ .write k v acknowledged :: after ∧
      ∀ o ∈ after, ¬ Acknowledges k o

variable {v v₀ : Value} {os : List (Observation Key Value)} {k : Key}

omit [DecidableEq Key] in
/-- A call that acknowledges no write to the register. -/
theorem Current.snoc (h : Current v₀ os k v) {o : Observation Key Value}
    (ho : ¬ Acknowledges k o) : Current v₀ (os ++ [o]) k v := by
  rcases h with ⟨hv, hnone⟩ | ⟨before, acknowledged, after, rfl, hnone⟩
  · refine Or.inl ⟨hv, fun o' ho' => ?_⟩
    rcases List.mem_append.mp ho' with hold | hnew
    · exact hnone o' hold
    · rwa [List.mem_singleton.mp hnew]
  · refine Or.inr ⟨before, acknowledged, after ++ [o], by simp, fun o' ho' => ?_⟩
    rcases List.mem_append.mp ho' with hold | hnew
    · exact hnone o' hold
    · rwa [List.mem_singleton.mp hnew]

omit [DecidableEq Key] in
theorem current_write (v₀ : Value) (os : List (Observation Key Value)) (k : Key) (v : Value)
    (acknowledged : Bool) : Current v₀ (os ++ [.write k v acknowledged]) k v :=
  Or.inr ⟨os, acknowledged, [], rfl, nofun⟩

/-- **Step lemma.** -/
theorem current_step {s t : Key → Value} {o : Observation Key Value}
    (h : Current v₀ os k (s k)) (hstep : step s o t) : Current v₀ (os ++ [o]) k (t k) := by
  cases o with
  | write k' v acknowledged =>
    -- the write of another register, or none at all
    have hother (hk : ¬ (k' = k ∧ acknowledged = true)) :
        Current v₀ (os ++ [.write k' v acknowledged]) k (s k) := by
      refine h.snoc ?_
      rintro ⟨v', heq⟩
      injection heq with hk' _ hack
      exact hk ⟨hk', hack⟩
    have hupdate (ht : t = Function.update s k' v) :
        Current v₀ (os ++ [.write k' v acknowledged]) k (t k) := by
      rw [ht]
      by_cases hk : k = k'
      · rw [hk, Function.update_self]
        exact current_write v₀ os k' v acknowledged
      · rw [Function.update_of_ne hk]
        exact hother fun heq => hk heq.1.symm
    cases acknowledged with
    | true => exact hupdate hstep
    | false =>
      rcases hstep with rfl | ht
      · exact hother (by simp)
      · exact hupdate ht
  | read k' v =>
    obtain ⟨rfl, -⟩ := hstep
    exact h.snoc nofun
  | nothing =>
    obtain rfl : t = s := hstep
    exact h.snoc nofun

/-- **Run lemma**: no acknowledged write is lost or overwritten by an older one. -/
theorem current_of_run {s₀ s : Key → Value} (hrun : Run step s₀ os s) (k : Key) :
    Current (s₀ k) os k (s k) := by
  induction hrun with
  | nil => exact Or.inl ⟨rfl, nofun⟩
  | snoc _ hstep ih => exact current_step ih hstep

end Register
