import Mathlib.Tactic.Common

/-! # Scripts over a State

    A script reads and writes a state and may raise an error.  What it has
    written before the error stays: there is no rollback.

    * `outcome x s` is the result of a run from `s` and the state after it.
    * `Runs x s R` says that they satisfy `R`, `Returns x s Q` that there is
      no error as well.
    * `Observes f x` says that `x` reads nothing of the state but `f`, and
      keeps it. -/

/-- A computation with a state that an error leaves as it is. -/
abbrev Script (ε σ α : Type) : Type := ExceptT ε (StateM σ) α

namespace Script

variable {ε σ α β : Type} {x : Script ε σ α} {f : α → Script ε σ β} {s s' : σ}

/-! ## Outcomes -/

def outcome (x : Script ε σ α) (s : σ) : Except ε α × σ := x.run.run s

@[simp] theorem outcome_modify (g : σ → σ) (s : σ) :
    outcome (modify g : Script ε σ PUnit) s = (.ok ⟨⟩, g s) := rfl

theorem outcome_bind (x : Script ε σ α) (f : α → Script ε σ β) (s : σ) :
    outcome (x >>= f) s =
      match outcome x s with
      | (.ok a, s') => outcome (f a) s'
      | (.error e, s') => (.error e, s') := by
  cases h : outcome x s with
  | mk r s' =>
    have hrun : outcome (x >>= f) s = StateT.run (ExceptT.bindCont f r) s' := by
      have hx : StateT.run x s = (r, s') := h
      show StateT.run (StateT.bind x (ExceptT.bindCont f)) s = _
      simp only [StateT.run, StateT.bind] at hx ⊢
      rw [hx]
      rfl
    rw [hrun]
    cases r with
    | ok a => rfl
    | error e => rfl

theorem outcome_bind_ok {a : α} (h : outcome x s = (.ok a, s')) :
    outcome (x >>= f) s = outcome (f a) s' := by
  rw [outcome_bind, h]

theorem outcome_bind_error {e : ε} (h : outcome x s = (.error e, s')) :
    outcome (x >>= f) s = (.error e, s') := by
  rw [outcome_bind, h]

/-! ## What a run satisfies -/

def Runs (x : Script ε σ α) (s : σ) (R : Except ε α → σ → Prop) : Prop :=
  R (outcome x s).1 (outcome x s).2

def Returns (x : Script ε σ α) (s : σ) (Q : α → σ → Prop) : Prop :=
  ∃ a s', outcome x s = (.ok a, s') ∧ Q a s'

variable {Q Q' : α → σ → Prop} {R R' : Except ε α → σ → Prop} {P : β → σ → Prop}
  {T : Except ε β → σ → Prop}

theorem Runs.of_eq {r : Except ε α} (h : outcome x s = (r, s')) (hR : R r s') : Runs x s R := by
  unfold Runs
  rw [h]
  exact hR

theorem Runs.mono (h : Runs x s R) (hR : ∀ r s', R r s' → R' r s') : Runs x s R' :=
  hR _ _ h

theorem Runs.bind (hx : Runs x s R) (hok : ∀ a s', R (.ok a) s' → Runs (f a) s' T)
    (herror : ∀ e s', R (.error e) s' → T (.error e) s') : Runs (x >>= f) s T := by
  unfold Runs at hx ⊢
  rw [outcome_bind]
  cases h : outcome x s with
  | mk r s' =>
    rw [h] at hx
    cases r with
    | ok a => exact hok a s' hx
    | error e => exact herror e s' hx

/-- A first step whose outcome is known. -/
theorem Runs.bind_ok {a : α} (h : outcome x s = (.ok a, s')) (hf : Runs (f a) s' T) :
    Runs (x >>= f) s T := by
  unfold Runs at hf ⊢
  rw [outcome_bind_ok h]
  exact hf

theorem Runs.if_pos {c : Prop} [Decidable c] {y : Script ε σ α} (h : c) (hx : Runs x s R) :
    Runs (if c then x else y) s R := by
  rwa [ite_cond_eq_true _ _ (eq_true h)]

theorem Runs.if_neg {c : Prop} [Decidable c] {y : Script ε σ α} (h : ¬ c) (hy : Runs y s R) :
    Runs (if c then x else y) s R := by
  rwa [ite_cond_eq_false _ _ (eq_false h)]

theorem Returns.of_eq {a : α} (h : outcome x s = (.ok a, s')) (hQ : Q a s') : Returns x s Q :=
  ⟨a, s', h, hQ⟩

theorem Returns.pure {a : α} (hQ : Q a s) : Returns (pure a : Script ε σ α) s Q :=
  ⟨a, s, rfl, hQ⟩

theorem Returns.mono (h : Returns x s Q) (hQ : ∀ a s', Q a s' → Q' a s') : Returns x s Q' := by
  obtain ⟨a, s', heq, hq⟩ := h
  exact ⟨a, s', heq, hQ a s' hq⟩

theorem Returns.bind (hx : Returns x s Q) (hf : ∀ a s', Q a s' → Returns (f a) s' P) :
    Returns (x >>= f) s P := by
  obtain ⟨a, s', heq, hq⟩ := hx
  obtain ⟨b, t, hf, hp⟩ := hf a s' hq
  exact ⟨b, t, by rw [outcome_bind_ok heq, hf], hp⟩

/-- A loop, with an invariant of the elements that are done. -/
theorem Returns.forM {γ : Type} {g : γ → Script ε σ PUnit} {I : List γ → σ → Prop} {l : List γ}
    (h₀ : I [] s)
    (hstep : ∀ done, ∀ c ∈ l, ∀ t, I done t → Returns (g c) t fun _ t' => I (done ++ [c]) t') :
    Returns (l.forM g) s fun _ s' => I l s' := by
  have hall : ∀ (todo done : List γ) (t : σ), (∀ c ∈ todo, c ∈ l) → I done t →
      Returns (todo.forM g) t fun _ t' => I (done ++ todo) t' := by
    intro todo
    induction todo with
    | nil =>
      intro done t _ ht
      rw [List.append_nil]
      exact Returns.pure ht
    | cons c todo ih =>
      intro done t hmem ht
      apply Returns.bind (hstep done c (hmem c List.mem_cons_self) t ht)
      rintro _ t' ht'
      have hrest := ih (done ++ [c]) t' (fun d hd => hmem d (List.mem_cons_of_mem c hd)) ht'
      rwa [List.append_assoc] at hrest
  exact hall l [] s (fun _ h => h) h₀

/-! ## What a run depends on -/

/-- The result depends on nothing but `f` of the state, and `f` is kept. -/
def Observes {τ : Type} (f : σ → τ) (x : Script ε σ α) : Prop :=
  ∀ s, f (outcome x s).2 = f s ∧ ∀ s', f s' = f s → (outcome x s').1 = (outcome x s).1

section Observes

variable {τ : Type} {obs : σ → τ}

theorem Observes.pure (a : α) : Observes obs (pure a : Script ε σ α) :=
  fun _ => ⟨rfl, fun _ _ => rfl⟩

theorem Observes.throw (e : ε) : Observes obs (throw e : Script ε σ α) :=
  fun _ => ⟨rfl, fun _ _ => rfl⟩

theorem Observes.ite {c : Prop} [Decidable c] {y : Script ε σ α} (hx : Observes obs x)
    (hy : Observes obs y) : Observes obs (if c then x else y) := by
  split
  · exact hx
  · exact hy

theorem Observes.bind (hx : Observes obs x) (hf : ∀ a, Observes obs (f a)) :
    Observes obs (x >>= f) := by
  intro s
  obtain ⟨hkept, hsame⟩ := hx s
  cases h : outcome x s with
  | mk r t =>
    rw [h] at hkept hsame
    have hother : ∀ s', obs s' = obs s → ∃ t', outcome x s' = (r, t') ∧ obs t' = obs t := by
      intro s' hs'
      refine ⟨(outcome x s').2, Prod.ext (hsame s' hs') rfl, ?_⟩
      rw [(hx s').1, hs', hkept]
    cases r with
    | ok a =>
      rw [outcome_bind_ok h]
      refine ⟨((hf a t).1).trans hkept, fun s' hs' => ?_⟩
      obtain ⟨t', ht', hobs⟩ := hother s' hs'
      rw [outcome_bind_ok ht']
      exact (hf a t).2 t' hobs
    | error e =>
      rw [outcome_bind_error h]
      refine ⟨hkept, fun s' hs' => ?_⟩
      obtain ⟨t', ht', -⟩ := hother s' hs'
      rw [outcome_bind_error ht']

end Observes

end Script
