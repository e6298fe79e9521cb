import Mathlib.Data.Option.Basic

/-! # Updates of Nested Tables

    A table of tables, and updates that give some of its tables.  What is not
    given, at either level, is `none`.

    * `merge` is what an update is for: what it gives is new, all else is kept.
    * `overwrite` replaces whole tables.  It is the same exactly for an update
      that gives every field of the tables that it replaces (`Covers`). -/

namespace NestedTable

variable {Key Field Value : Type*}

abbrev Table (Key Field Value : Type*) : Type _ := Key → Field → Option Value

abbrev Update (Key Field Value : Type*) : Type _ := Key → Option (Field → Option Value)

/-- The value that an update gives for a field. -/
def Update.given (u : Update Key Field Value) (k : Key) (i : Field) : Option Value :=
  (u k).bind fun fields => fields i

def merge (t : Table Key Field Value) (u : Update Key Field Value) : Table Key Field Value :=
  fun k i => (u.given k i).or (t k i)

def overwrite (t : Table Key Field Value) (u : Update Key Field Value) :
    Table Key Field Value :=
  fun k => (u k).getD (t k)

/-- From `t` to `t'` nothing has changed but what the update gives. -/
def Keeps (t : Table Key Field Value) (u : Update Key Field Value)
    (t' : Table Key Field Value) : Prop :=
  ∀ k i, u.given k i = none → t' k i = t k i

/-- The tables that the update gives have all the fields of those of `t`. -/
def Covers (u : Update Key Field Value) (t : Table Key Field Value) : Prop :=
  ∀ k fields, u k = some fields → ∀ i, (t k i).isSome → (fields i).isSome

variable {t : Table Key Field Value} {u : Update Key Field Value} {k : Key} {i : Field}

theorem keeps_merge : Keeps t u (merge t u) := by
  intro k i hnone
  unfold merge
  rw [hnone, Option.none_or]

theorem overwrite_of_none (h : u k = none) : overwrite t u k = t k := by
  unfold overwrite
  rw [h, Option.getD_none]

theorem overwrite_of_some {fields : Field → Option Value} (h : u k = some fields) :
    overwrite t u k = fields := by
  unfold overwrite
  rw [h, Option.getD_some]

theorem given_of_some {fields : Field → Option Value} (h : u k = some fields) :
    u.given k i = fields i := by
  unfold Update.given
  rw [h, Option.bind_some]

theorem overwrite_eq_merge (h : Covers u t) : overwrite t u = merge t u := by
  funext k i
  unfold merge
  cases hk : u k with
  | none =>
    have hnone : u.given k i = none := by
      unfold Update.given
      rw [hk, Option.bind_none]
    rw [overwrite_of_none hk, hnone, Option.none_or]
  | some fields =>
    rw [overwrite_of_some hk, given_of_some hk]
    cases hi : fields i with
    | some v => rfl
    | none =>
      -- a field that is left out was not there before
      have hold : ¬ (t k i).isSome := by
        intro hsome
        have hgiven := h k fields hk i hsome
        rw [hi] at hgiven
        cases hgiven
      rw [Option.none_or, Option.not_isSome_iff_eq_none.mp hold]

/-- **Replacing whole tables** keeps what is not given exactly for the updates
    that leave out no field. -/
theorem keeps_overwrite_iff : Keeps t u (overwrite t u) ↔ Covers u t := by
  constructor
  · intro hkeeps k fields hk i hsome
    by_contra hleft
    rw [Option.not_isSome_iff_eq_none] at hleft
    have hsame := hkeeps k i ((given_of_some hk).trans hleft)
    rw [overwrite_of_some hk, hleft] at hsame
    rw [← hsame] at hsome
    cases hsome
  · intro hcovers
    rw [overwrite_eq_merge hcovers]
    exact keeps_merge

/-- One update after the other: what none of them gives is kept. -/
theorem merge_foldl_keeps {us : List (Update Key Field Value)}
    (hnone : ∀ u ∈ us, u.given k i = none) : us.foldl merge t k i = t k i := by
  induction us generalizing t with
  | nil => rfl
  | cons u us ih =>
    rw [List.foldl_cons, ih fun v hv => hnone v (List.mem_cons_of_mem _ hv)]
    exact keeps_merge k i (hnone u List.mem_cons_self)

end NestedTable
