import Mathlib.Data.List.Induction

/-! # Runs of Labelled Transition Systems

    A transition relation `step : State → Label → State → Prop` and the
    finite runs it generates.  Everything the development says about
    "every run" or "every reachable state" goes through this module:

    * `Run step s ls t`: the labels `ls`, in order, lead from `s` to `t`.
    * `Run.invariant` and `Run.trace_invariant`: induction over a run, the
      second for properties that also mention the labels seen so far.
    * `restrict step ok`: the runs all of whose steps meet the condition `ok`
      on the state before the step and on the label.
    * `ofFun` and `ofPartial`: the runs of a step function are its computations.
    * `Meets` and `Run.of_meets`: computed runs under a condition that can be
      decided.
    * `Run.good_iff`: what just the runs under a condition keep.
    * `Run.length_le` and `Run.exists_final`: runs under a decreasing measure. -/

namespace Transition

variable {State Label : Type*}

/-! ## Runs -/

/-- `Run step s ls t`: performing `ls` in order from `s` can end in `t`. -/
inductive Run (step : State → Label → State → Prop) : State → List Label → State → Prop where
  | nil (s : State) : Run step s [] s
  | snoc {s t u : State} {ls : List Label} {l : Label} :
      Run step s ls t → step t l u → Run step s (ls ++ [l]) u

/-- A state that some run from `s₀` ends in. -/
def Reachable (step : State → Label → State → Prop) (s₀ s : State) : Prop :=
  ∃ ls, Run step s₀ ls s

/-- The runs whose steps all meet `ok` in the state they start from. -/
def restrict (step : State → Label → State → Prop) (ok : State → Label → Prop) :
    State → Label → State → Prop :=
  fun s l t => ok s l ∧ step s l t

variable {step : State → Label → State → Prop}

theorem Run.single {s t : State} {l : Label} (h : step s l t) : Run step s [l] t :=
  Run.snoc (Run.nil s) h

theorem Run.append {s t u : State} {ls ms : List Label}
    (hst : Run step s ls t) (htu : Run step t ms u) : Run step s (ls ++ ms) u := by
  induction htu with
  | nil => simpa using hst
  | snoc _ hl ih =>
    rw [← List.append_assoc]
    exact Run.snoc ih hl

theorem Run.cons {s t u : State} {l : Label} {ls : List Label}
    (hl : step s l t) (hr : Run step t ls u) : Run step s (l :: ls) u :=
  (Run.single hl).append hr

/-- Runs that meet a condition are runs. -/
theorem Run.of_restrict {ok : State → Label → Prop} {s t : State} {ls : List Label}
    (h : Run (restrict step ok) s ls t) : Run step s ls t := by
  induction h with
  | nil => exact Run.nil _
  | snoc _ hl ih => exact Run.snoc ih hl.2

/-- The last step of a run. -/
theorem Run.last {s u : State} {ls : List Label} {l : Label} (h : Run step s (ls ++ [l]) u) :
    ∃ t, Run step s ls t ∧ step t l u := by
  generalize hls : ls ++ [l] = all at h
  cases h with
  | nil => simp at hls
  | snoc hr hl =>
    obtain ⟨rfl, hlast⟩ := List.append_inj' hls rfl
    obtain rfl := List.singleton_inj.mp hlast
    exact ⟨_, hr, hl⟩

/-! ## Induction over a run -/

/-- A property that every step preserves holds at the end of every run. -/
theorem Run.invariant {inv : State → Prop} {s t : State} {ls : List Label}
    (h₀ : inv s) (hstep : ∀ t l u, inv t → step t l u → inv u)
    (h : Run step s ls t) : inv t := by
  induction h with
  | nil => exact h₀
  | snoc _ hl ih => exact hstep _ _ _ ih hl

/-- The same for a property that also speaks of the labels performed so far. -/
theorem Run.trace_invariant {inv : List Label → State → Prop} {s t : State} {ls : List Label}
    (h₀ : inv [] s)
    (hstep : ∀ ls t l u, Run step s ls t → inv ls t → step t l u → inv (ls ++ [l]) u)
    (h : Run step s ls t) : inv ls t := by
  induction h with
  | nil => exact h₀
  | snoc hr hl ih => exact hstep _ _ _ _ hr ih hl

/-! ## Deterministic systems -/

/-- The transition relation of a step function. -/
def ofFun (f : State → Label → State) : State → Label → State → Prop :=
  fun s l t => f s l = t

theorem run_ofFun_iff {f : State → Label → State} {s t : State} {ls : List Label} :
    Run (ofFun f) s ls t ↔ ls.foldl f s = t := by
  constructor
  · intro h
    induction h with
    | nil => rfl
    | snoc _ hl ih => rw [List.foldl_append, ih]; exact hl
  · rintro rfl
    induction ls using List.reverseRecOn with
    | nil => exact Run.nil s
    | append_singleton ls l ih =>
      rw [List.foldl_append]
      exact Run.snoc ih rfl

/-- Every state of the computation meets the condition on the label that comes next. -/
def Meets (f : State → Label → State) (ok : State → Label → Prop) : State → List Label → Prop
  | _, [] => True
  | s, l :: ls => ok s l ∧ Meets f ok (f s l) ls

instance Meets.decidable (f : State → Label → State) (ok : State → Label → Prop)
    [∀ s l, Decidable (ok s l)] : ∀ s ls, Decidable (Meets f ok s ls)
  | _, [] => inferInstanceAs (Decidable True)
  | s, l :: ls =>
    have := Meets.decidable f ok (f s l) ls
    inferInstanceAs (Decidable (_ ∧ _))

theorem Run.of_meets {f : State → Label → State} {ok : State → Label → Prop} {s : State}
    {ls : List Label} (h : Meets f ok s ls) :
    Run (restrict (ofFun f) ok) s ls (ls.foldl f s) := by
  induction ls generalizing s with
  | nil => exact Run.nil s
  | cons l ls ih => exact Run.cons ⟨h.1, rfl⟩ (ih h.2)

/-- Where each step keeps `good` just if it meets `ok`, the runs that end in
    `good` are those all of whose steps meet `ok`. -/
theorem Run.good_iff {f : State → Label → State} {admits ok : State → Label → Prop}
    {inv good : State → Prop} {s t : State} {ls : List Label}
    (hinv : ∀ s l, inv s → admits s l → inv (f s l))
    (hgood : ∀ s l, inv s → admits s l → (good (f s l) ↔ good s ∧ ok s l))
    (hinv₀ : inv s) (hgood₀ : good s) (h : Run (restrict (ofFun f) admits) s ls t) :
    good t ↔ Run (restrict (restrict (ofFun f) admits) ok) s ls t := by
  induction h with
  | nil => exact iff_of_true hgood₀ (Run.nil s)
  | @snoc t u ls l hrun hl ih =>
    have hend : inv t := by
      apply hrun.invariant hinv₀
      rintro t l u ht ⟨hadm, rfl⟩
      exact hinv t l ht hadm
    have hstep := hgood t l hend hl.1
    rw [show f t l = u from hl.2, ih] at hstep
    rw [hstep]
    constructor
    · rintro ⟨hgoodRun, hok⟩
      exact Run.snoc hgoodRun ⟨hok, hl⟩
    · intro hall
      obtain ⟨t', hgoodRun, hok, -⟩ := hall.last
      -- the step function leads to the same state
      have hsame : t' = t := by
        rw [← run_ofFun_iff.mp hgoodRun.of_restrict.of_restrict,
          ← run_ofFun_iff.mp hrun.of_restrict]
      rw [hsame] at hgoodRun hok
      exact ⟨hgoodRun, hok⟩

/-- The transition relation of a step function that may refuse a label. -/
def ofPartial (f : State → Label → Option State) : State → Label → State → Prop :=
  fun s l t => f s l = some t

/-- The runs of a partial step function are its computations. -/
theorem run_ofPartial_iff {f : State → Label → Option State} {s t : State} {ls : List Label} :
    Run (ofPartial f) s ls t ↔ ls.foldlM f s = some t := by
  constructor
  · intro h
    induction h with
    | nil => rfl
    | snoc _ hl ih =>
      rw [List.foldlM_append, ih]
      simpa [ofPartial] using hl
  · intro h
    induction ls using List.reverseRecOn generalizing t with
    | nil =>
      obtain rfl : s = t := by simpa using h
      exact Run.nil s
    | append_singleton ls l ih =>
      rw [List.foldlM_append, Option.bind_eq_bind, Option.bind_eq_some_iff] at h
      obtain ⟨u, hu, hl⟩ := h
      exact Run.snoc (ih hu) (by simpa [ofPartial] using hl)

/-! ## Termination -/

/-- Steps that decrease a measure bound the length of every run. -/
theorem Run.length_le {measure : State → Nat} {s t : State} {ls : List Label}
    (hstep : ∀ s l t, step s l t → measure t < measure s) (h : Run step s ls t) :
    ls.length + measure t ≤ measure s := by
  induction h with
  | nil => simp
  | snoc _ hl ih =>
    have hlt := hstep _ _ _ hl
    rw [List.length_append, List.length_singleton]
    omega

/-- Where every state with the invariant that is not final can take a step,
    and steps decrease a measure, some run reaches a final state. -/
theorem Run.exists_final {measure : State → Nat} {inv final : State → Prop} {s : State}
    (hs : inv s) (hinv : ∀ s l t, inv s → step s l t → inv t)
    (hstep : ∀ s l t, step s l t → measure t < measure s)
    (hprogress : ∀ s, inv s → ¬ final s → ∃ l t, step s l t) :
    ∃ ls t, Run step s ls t ∧ final t := by
  induction hn : measure s using Nat.strongRecOn generalizing s with
  | ind n ih =>
    by_cases hfinal : final s
    · exact ⟨[], s, Run.nil s, hfinal⟩
    · obtain ⟨l, u, hl⟩ := hprogress s hs hfinal
      have hlt := hstep s l u hl
      obtain ⟨ls, t, hrun, ht⟩ := ih (measure u) (by omega) (hinv s l u hs hl) rfl
      exact ⟨l :: ls, t, Run.cons hl hrun, ht⟩

end Transition
