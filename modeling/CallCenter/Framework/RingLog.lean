import Mathlib.Data.List.DropRight
import Mathlib.Tactic.Common

/-! # Ring Logs

    A log of fixed capacity whose positions count from 1: an entry is written
    after the last one, and position 1 follows the last position.

    * `Holds cap h log index before` relates the ring to the history `h` of
      all entries that were written, of which `before` belong to earlier laps.
    * `Holds.write` is the step, `Holds.between_current` what a reader of the
      current lap gets. -/

namespace RingLog

variable {α : Type} {cap : Nat} {h : List α} {log : Nat → Option α} {index before : Nat}

/-! ## The ring and its history -/

structure Holds (cap : Nat) (h : List α) (log : Nat → Option α) (index before : Nat) : Prop where
  length_eq : h.length = before + index
  index_le : index ≤ cap
  laps : cap ∣ before
  /-- A lap begins with its first entry. -/
  begun : index = 0 → before = 0
  current : ∀ i, 1 ≤ i → i ≤ index → log i = h[before + i - 1]?
  /-- What this lap has not reached is of the lap before. -/
  earlier : ∀ i, index < i → i ≤ cap →
    log i = if before = 0 then none else h[before - cap + i - 1]?

theorem Holds.empty (hlog : ∀ i, log i = none) : Holds cap ([] : List α) log 0 0 where
  length_eq := rfl
  index_le := Nat.zero_le cap
  laps := Nat.dvd_zero cap
  begun := fun _ => rfl
  current := by
    intro i hlo hhi
    omega
  earlier := by
    intro i _ _
    rw [if_pos rfl]
    exact hlog i

theorem Holds.write_same (hh : Holds cap h log index before) (hlt : index < cap) (e : α) :
    Holds cap (h ++ [e]) (Function.update log (index + 1) (some e)) (index + 1) before where
  length_eq := by
    rw [List.length_append, hh.length_eq]
    rfl
  index_le := hlt
  laps := hh.laps
  begun := nofun
  current := by
    intro i hlo hhi
    by_cases hi : i = index + 1
    · subst hi
      rw [Function.update_self]
      have hlast : before + (index + 1) - 1 = h.length := by
        rw [hh.length_eq]
        omega
      rw [hlast, List.getElem?_concat_length]
    · rw [Function.update_of_ne hi, hh.current i hlo (by omega)]
      have hlen := hh.length_eq
      exact (List.getElem?_append_left (by omega)).symm
  earlier := by
    intro i hlo hhi
    rw [Function.update_of_ne (by omega), hh.earlier i (by omega) hhi]
    by_cases hbefore : before = 0
    · rw [if_pos hbefore, if_pos hbefore]
    · rw [if_neg hbefore, if_neg hbefore]
      have hlen := hh.length_eq
      have hle := Nat.le_of_dvd (Nat.pos_of_ne_zero hbefore) hh.laps
      exact (List.getElem?_append_left (by omega)).symm

/-- The first entry of a new lap. -/
theorem Holds.write_wraps (hcap : 0 < cap) (hh : Holds cap h log cap before) (e : α) :
    Holds cap (h ++ [e]) (Function.update log 1 (some e)) 1 (before + cap) where
  length_eq := by
    rw [List.length_append, hh.length_eq]
    rfl
  index_le := hcap
  laps := Nat.dvd_add hh.laps (Nat.dvd_refl cap)
  begun := nofun
  current := by
    intro i hlo hhi
    obtain rfl : i = 1 := by omega
    rw [Function.update_self]
    have hlast : before + cap + 1 - 1 = h.length := by
      rw [hh.length_eq]
      omega
    rw [hlast, List.getElem?_concat_length]
  earlier := by
    intro i hlo hhi
    rw [Function.update_of_ne (by omega), if_neg (by omega), hh.current i (by omega) hhi]
    have hsame : before + cap - cap + i - 1 = before + i - 1 := by omega
    have hlen := hh.length_eq
    rw [hsame]
    exact (List.getElem?_append_left (by omega)).symm

theorem Holds.write (hcap : 0 < cap) (hh : Holds cap h log index before) (e : α) :
    ∃ before', Holds cap (h ++ [e]) (Function.update log (index % cap + 1) (some e))
      (index % cap + 1) before' := by
  by_cases hfull : index = cap
  · subst hfull
    rw [Nat.mod_self]
    exact ⟨_, hh.write_wraps hcap e⟩
  · have hlt : index < cap := Nat.lt_of_le_of_ne hh.index_le hfull
    rw [Nat.mod_eq_of_lt hlt]
    exact ⟨_, hh.write_same hlt e⟩

/-- The position of the last entry. -/
def position (cap t : Nat) : Nat := if t = 0 then 0 else (t - 1) % cap + 1

theorem Holds.index_eq (hh : Holds cap h log index before) : index = position cap h.length := by
  unfold position
  rw [hh.length_eq]
  by_cases hzero : index = 0
  · rw [if_pos (by rw [hh.begun hzero, hzero])]
    exact hzero
  · obtain ⟨laps, rfl⟩ := hh.laps
    have hle := hh.index_le
    rw [if_neg (by omega), show cap * laps + index - 1 = cap * laps + (index - 1) by omega,
      Nat.mul_add_mod, Nat.mod_eq_of_lt (by omega)]
    omega

/-! ## Reading -/

/-- `for i = start, stop do if log[i] then table.insert(out, log[i]) end end` -/
def between (log : Nat → Option α) (start stop : Nat) : List α :=
  (List.range' start (stop + 1 - start)).filterMap log

theorem filterMap_range' {f : Nat → Option α} (l : List α) (start : Nat)
    (hf : ∀ k, k < l.length → f (start + k) = l[k]?) :
    (List.range' start l.length).filterMap f = l := by
  induction l generalizing start with
  | nil => rfl
  | cons a l ih =>
    have hhead : f start = some a := hf 0 (Nat.succ_pos _)
    rw [List.length_cons, List.range'_succ, List.filterMap_cons_some hhead]
    congr 1
    apply ih (start + 1)
    intro k hk
    rw [Nat.add_assoc, Nat.add_comm 1 k]
    exact hf (k + 1) (Nat.succ_lt_succ hk)

theorem between_eq_nil (hempty : stop < start) : between log start stop = [] := by
  unfold between
  rw [show stop + 1 - start = 0 by omega]
  rfl

/-- The end of the current lap is the end of the history. -/
theorem Holds.between_current (hh : Holds cap h log index before) {start : Nat} (hlo : 1 ≤ start)
    (hhi : start ≤ index + 1) : between log start index = h.rtake (index + 1 - start) := by
  unfold between List.rtake
  have hlen : index + 1 - start = (h.drop (h.length - (index + 1 - start))).length := by
    rw [List.length_drop, hh.length_eq]
    omega
  conv_lhs => rw [hlen]
  apply filterMap_range'
  intro k hk
  rw [← hlen] at hk
  rw [hh.current (start + k) (by omega) (by omega), List.getElem?_drop, hh.length_eq]
  congr 1
  omega

/-- A reader that starts at position 1 finds something as soon as the log has an entry. -/
theorem Holds.first_isSome (hh : Holds cap h log index before) (hne : h ≠ []) :
    (log 1).isSome := by
  have hpos := List.length_pos_iff_ne_nil.mpr hne
  have hindex : index ≠ 0 := by
    intro hzero
    have hlen := hh.length_eq
    rw [hh.begun hzero, hzero] at hlen
    omega
  have hlen := hh.length_eq
  rw [hh.current 1 (Nat.le_refl 1) (by omega), List.getElem?_eq_getElem (by omega)]
  rfl

theorem between_ne_nil {start stop : Nat} (hle : start ≤ stop) (hsome : (log start).isSome) :
    between log start stop ≠ [] := by
  obtain ⟨a, ha⟩ := Option.isSome_iff_exists.mp hsome
  unfold between
  rw [show stop + 1 - start = (stop - start) + 1 by omega, List.range'_succ,
    List.filterMap_cons_some ha]
  exact List.cons_ne_nil a _

end RingLog
