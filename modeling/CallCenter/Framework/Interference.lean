import Mathlib.Logic.Relation

/-! # Programs on a State that Others Change Too

    A thread is a tree of operations on a shared state: `Prog.call op k`
    performs `op` and goes on with `k` of its result.  Between two operations
    other threads and the environment may change the state, and how an
    operation turns out is the environment's answer to it.

    * `World`: what the operations do, which answers a run admits, and what
      the others do to the state.
    * `World.wp`: every outcome of the program satisfies the postcondition,
      whatever the others do in between.
    * `World.Triple` and its rules: one rule per program construct; an
      assertion that stands between two operations has to be `Stable`.
    * `World.wp_call`, `World.wp_others`, `World.wp_ret`: `wp` is an invariant
      of the interleaved execution.
    * `World.Exec`: the executions without interference, and `exec`, which
      computes them from the list of answers.
    * `World.Runs`: the executions with interference. -/

namespace Interference

/-! ## Section 1: Programs -/

/-- A thread that returns an `α`. -/
inductive Prog (Op : Type) (Ret : Op → Type) (α : Type) where
  | ret (a : α)
  | call (op : Op) (k : Ret op → Prog Op Ret α)

variable {Op : Type} {Ret : Op → Type} {Ans σ α β : Type}

namespace Prog

/-- Run `p` and go on with its result. -/
def bind : Prog Op Ret α → (α → Prog Op Ret β) → Prog Op Ret β
  | .ret a, f => f a
  | .call op k, f => .call op fun r => (k r).bind f

/-- One operation. -/
def op (o : Op) : Prog Op Ret (Ret o) := .call o .ret

instance : Monad (Prog Op Ret) where
  pure := .ret
  bind := bind

theorem bind_ret (p : Prog Op Ret α) : p.bind .ret = p := by
  induction p with
  | ret a => rfl
  | call op k ih => simp only [bind, ih]

theorem bind_bind {γ : Type} (p : Prog Op Ret α) (f : α → Prog Op Ret β)
    (g : β → Prog Op Ret γ) : (p.bind f).bind g = p.bind fun a => (f a).bind g := by
  induction p with
  | ret a => rfl
  | call op k ih => simp only [bind, ih]

instance : LawfulMonad (Prog Op Ret) :=
  LawfulMonad.mk' _ bind_ret (fun _ _ => rfl) bind_bind

end Prog

/-! ## Section 2: Worlds -/

/-- The state that a thread shares with others. -/
structure World (Op : Type) (Ret : Op → Type) (Ans σ : Type) where
  /-- The result and the effect of an operation under the environment's
      answer; `none` if the answer does not fit the operation. -/
  perform : (op : Op) → Ans → σ → Option (Ret op × σ)
  /-- The answers admitted in a state. -/
  admits : σ → Op → Ans → Prop
  /-- One step of another thread or of the environment. -/
  others : σ → σ → Prop

/-- What the others may have made of a state. -/
def World.Later (w : World Op Ret Ans σ) : σ → σ → Prop := Relation.ReflTransGen w.others

/-- An assertion that the others keep. -/
def World.Stable (w : World Op Ret Ans σ) (P : σ → Prop) : Prop :=
  ∀ s t, w.others s t → P s → P t

section Rules

variable {w : World Op Ret Ans σ} {P P' : σ → Prop}

theorem World.Stable.later (hP : w.Stable P) {s t : σ} (hst : w.Later s t) (hs : P s) : P t := by
  induction hst with
  | refl => exact hs
  | tail _ hstep ih => exact hP _ _ hstep ih

/-! ## Section 3: Weakest preconditions -/

/-- The program ends in `Q` only, whatever the others do before, between and
    after its operations. -/
def World.wp (w : World Op Ret Ans σ) (Q : α → σ → Prop) : Prog Op Ret α → σ → Prop
  | .ret a, s => ∀ t, w.Later s t → Q a t
  | .call op k, s => ∀ t, w.Later s t → ∀ ans r u, w.admits t op ans →
      w.perform op ans t = some (r, u) → w.wp Q (k r) u

/-- `{P} p {Q}` -/
def World.Triple (w : World Op Ret Ans σ) (P : σ → Prop) (p : Prog Op Ret α)
    (Q : α → σ → Prop) : Prop :=
  ∀ s, P s → w.wp Q p s

variable {Q Q' : α → σ → Prop} {p : Prog Op Ret α}

theorem World.wp_later {s t : σ} (hst : w.Later s t) (h : w.wp Q p s) : w.wp Q p t := by
  cases p with
  | ret a => exact fun u htu => h u (hst.trans htu)
  | call op k => exact fun u htu => h u (hst.trans htu)

theorem World.wp_mono (hQ : ∀ a s, Q a s → Q' a s) {s : σ} (h : w.wp Q p s) : w.wp Q' p s := by
  induction p generalizing s with
  | ret a => exact fun t hst => hQ a t (h t hst)
  | call op k ih =>
    intro t hst ans r u hadm hperf
    exact ih r (h t hst ans r u hadm hperf)

theorem World.wp_bind {R : β → σ → Prop} {f : α → Prog Op Ret β} {s : σ}
    (h : w.wp (fun a t => w.wp R (f a) t) p s) : w.wp R (p.bind f) s := by
  induction p generalizing s with
  | ret a => exact h s Relation.ReflTransGen.refl
  | call op k ih =>
    intro t hst ans r u hadm hperf
    exact ih r (h t hst ans r u hadm hperf)

theorem World.wp_true {s : σ} : w.wp (fun _ _ => True) p s := by
  induction p generalizing s with
  | ret a => exact fun _ _ => trivial
  | call op k ih => exact fun _ _ _ r _ _ _ => ih r

/-! ### Rules for triples -/

theorem World.Triple.conseq (h : w.Triple P p Q) (hP : ∀ s, P' s → P s)
    (hQ : ∀ a s, Q a s → Q' a s) : w.Triple P' p Q' := by
  intro s hs
  exact World.wp_mono hQ (h s (hP s hs))

/-- A fact that does not depend on the state. -/
theorem World.Triple.of_fact {fact : Prop} (h : fact → w.Triple P p Q) :
    w.Triple (fun s => P s ∧ fact) p Q := by
  intro s hs
  exact h hs.2 s hs.1

theorem World.Triple.ret {a : α} (hQ : w.Stable (Q a)) (h : ∀ s, P s → Q a s) :
    w.Triple P (.ret a) Q := by
  intro s hs t hst
  exact hQ.later hst (h s hs)

/-- An operation and what follows: `R r` is the assertion between them. -/
theorem World.Triple.call {o : Op} {k : Ret o → Prog Op Ret α} (hP : w.Stable P)
    (R : Ret o → σ → Prop)
    (hop : ∀ s ans r t, P s → w.admits s o ans → w.perform o ans s = some (r, t) → R r t)
    (hk : ∀ r, w.Triple (R r) (k r) Q) : w.Triple P (.call o k) Q := by
  intro s hs t hst ans r u hadm hperf
  exact hk r u (hop t ans r u (hP.later hst hs) hadm hperf)

/-- The same for a program written with `>>=`. -/
theorem World.Triple.op {o : Op} {k : Ret o → Prog Op Ret α} (hP : w.Stable P)
    (R : Ret o → σ → Prop)
    (hop : ∀ s ans r t, P s → w.admits s o ans → w.perform o ans s = some (r, t) → R r t)
    (hk : ∀ r, w.Triple (R r) (k r) Q) : w.Triple P (Prog.op o >>= k) Q :=
  World.Triple.call hP R hop hk

theorem World.Triple.bind {R : α → σ → Prop} {S : β → σ → Prop} {f : α → Prog Op Ret β}
    (hp : w.Triple P p R) (hf : ∀ a, w.Triple (R a) (f a) S) : w.Triple P (p.bind f) S := by
  intro s hs
  exact World.wp_bind (World.wp_mono hf (hp s hs))

theorem World.Triple.ite {c : Prop} [Decidable c] {p' : Prog Op Ret α}
    (htrue : c → w.Triple P p Q) (hfalse : ¬ c → w.Triple P p' Q) :
    w.Triple P (if c then p else p') Q := by
  split
  · next hc => exact htrue hc
  · next hc => exact hfalse hc

/-- A loop over a list; the invariant speaks of the elements already done. -/
theorem World.Triple.forM {γ : Type} {xs : List γ} {f : γ → Prog Op Ret PUnit}
    (inv : List γ → σ → Prop) (hend : w.Stable (inv xs))
    (hf : ∀ done x rest, xs = done ++ x :: rest →
      w.Triple (inv done) (f x) fun _ => inv (done ++ [x])) :
    w.Triple (inv []) (xs.forM f) fun _ => inv xs := by
  suffices hgen : ∀ rest done, xs = done ++ rest →
      w.Triple (inv done) (rest.forM f) fun _ => inv xs from hgen xs [] rfl
  intro rest
  induction rest with
  | nil =>
    intro done hdone
    rw [List.append_nil] at hdone
    subst hdone
    exact World.Triple.ret hend fun _ hs => hs
  | cons x rest ih =>
    intro done hdone
    exact World.Triple.bind (hf done x rest hdone) fun _ => ih (done ++ [x]) (by simp [hdone])

/-! ## Section 4: Interleaved executions

    These three make `wp` of the rest of a program an invariant of every
    system that runs it: each operation of the program and each step of the
    others keeps it, and at the end it is the postcondition. -/

theorem World.wp_call {op : Op} {k : Ret op → Prog Op Ret α} {ans : Ans} {r : Ret op} {s t : σ}
    (h : w.wp Q (.call op k) s) (hadm : w.admits s op ans)
    (hperf : w.perform op ans s = some (r, t)) : w.wp Q (k r) t :=
  h s Relation.ReflTransGen.refl ans r t hadm hperf

theorem World.wp_others {s t : σ} (hothers : w.others s t) (h : w.wp Q p s) : w.wp Q p t :=
  World.wp_later (Relation.ReflTransGen.single hothers) h

theorem World.wp_ret {a : α} {s : σ} (h : w.wp Q (.ret a) s) : Q a s :=
  h s Relation.ReflTransGen.refl

/-! ## Section 5: Executions without interference -/

/-- The program runs from `s` to `t` alone, under admitted answers. -/
inductive World.Exec (w : World Op Ret Ans σ) : Prog Op Ret α → σ → α → σ → Prop where
  | ret (a : α) (s : σ) : World.Exec w (.ret a) s a s
  | call {op : Op} {k : Ret op → Prog Op Ret α} {ans : Ans} {r : Ret op} {s t u : σ} {a : α} :
      w.admits s op ans → w.perform op ans s = some (r, t) → World.Exec w (k r) t a u →
      World.Exec w (.call op k) s a u

theorem World.Exec.wp {s t : σ} {a : α} (hexec : w.Exec p s a t) (h : w.wp Q p s) : Q a t := by
  induction hexec with
  | ret a s => exact World.wp_ret h
  | call hadm hperf _ ih => exact ih (World.wp_call h hadm hperf)

theorem World.exec_ret_iff {a b : α} {s t : σ} : w.Exec (.ret a) s b t ↔ b = a ∧ t = s := by
  constructor
  · intro h
    cases h with
    | ret => exact ⟨rfl, rfl⟩
  · rintro ⟨rfl, rfl⟩
    exact World.Exec.ret _ _

theorem World.exec_op_iff {o : Op} {k : Ret o → Prog Op Ret α} {s u : σ} {a : α} :
    w.Exec (Prog.op o >>= k) s a u ↔
      ∃ ans r t, w.admits s o ans ∧ w.perform o ans s = some (r, t) ∧ w.Exec (k r) t a u := by
  constructor
  · intro h
    cases h with
    | call hadm hperf hk => exact ⟨_, _, _, hadm, hperf, hk⟩
  · rintro ⟨ans, r, t, hadm, hperf, hk⟩
    exact World.Exec.call hadm hperf hk

theorem World.exec_bind_iff {f : α → Prog Op Ret β} {s u : σ} {b : β} :
    w.Exec (p >>= f) s b u ↔ ∃ a t, w.Exec p s a t ∧ w.Exec (f a) t b u := by
  induction p generalizing s with
  | ret a =>
    constructor
    · exact fun h => ⟨a, s, World.Exec.ret a s, h⟩
    · rintro ⟨a', t, ha, hf⟩
      obtain ⟨rfl, rfl⟩ := World.exec_ret_iff.mp ha
      exact hf
  | call op k ih =>
    constructor
    · intro h
      cases h with
      | call hadm hperf hk =>
        obtain ⟨a, t, ha, hf⟩ := (ih _).mp hk
        exact ⟨a, t, World.Exec.call hadm hperf ha, hf⟩
    · rintro ⟨a, t, ha, hf⟩
      cases ha with
      | call hadm hperf hk => exact World.Exec.call hadm hperf ((ih _).mpr ⟨a, t, hk, hf⟩)

/-- Where every operation has an admitted answer, every program can be executed. -/
theorem World.exists_exec
    (htotal : ∀ s op, ∃ ans r t, w.admits s op ans ∧ w.perform op ans s = some (r, t))
    (p : Prog Op Ret α) (s : σ) : ∃ a t, w.Exec p s a t := by
  induction p generalizing s with
  | ret a => exact ⟨a, s, World.Exec.ret a s⟩
  | call op k ih =>
    obtain ⟨ans, r, t, hadm, hperf⟩ := htotal s op
    obtain ⟨a, u, hexec⟩ := ih r t
    exact ⟨a, u, World.Exec.call hadm hperf hexec⟩

end Rules

/-- The execution under a list of answers; `none` if one of them does not fit
    its operation or the list has not the right length. -/
def exec (perform : (op : Op) → Ans → σ → Option (Ret op × σ)) :
    Prog Op Ret α → List Ans → σ → Option (α × σ)
  | .ret a, [], s => some (a, s)
  | .ret _, _ :: _, _ => none
  | .call _ _, [], _ => none
  | .call op k, ans :: rest, s =>
    match perform op ans s with
    | some (r, t) => exec perform (k r) rest t
    | none => none

/-- A computed execution under admitted answers is an execution. -/
theorem exec_sound {w : World Op Ret Ans σ} {p : Prog Op Ret α} {answers : List Ans} {s t : σ}
    {a : α} (hadm : ∀ ans ∈ answers, ∀ s op, w.admits s op ans)
    (h : exec w.perform p answers s = some (a, t)) : w.Exec p s a t := by
  induction p generalizing answers s with
  | ret b =>
    cases answers with
    | nil =>
      simp only [exec, Option.some.injEq, Prod.mk.injEq] at h
      obtain ⟨rfl, rfl⟩ := h
      exact World.Exec.ret _ _
    | cons _ _ => simp [exec] at h
  | call op k ih =>
    cases answers with
    | nil => simp [exec] at h
    | cons ans rest =>
      simp only [exec] at h
      split at h
      · next r u hperf =>
        have hrest := ih r (fun ans' h' => hadm ans' (List.mem_cons_of_mem _ h')) h
        exact World.Exec.call (hadm ans List.mem_cons_self _ _) hperf hrest
      · simp at h

/-- Every execution of a thread whose admission does not depend on the state
    is computed from a list of answers. -/
theorem exec_complete {w : World Op Ret Ans σ} {ok : Ans → Prop} {p : Prog Op Ret α} {s t : σ}
    {a : α} (hok : ∀ s op ans, w.admits s op ans → ok ans) (h : w.Exec p s a t) :
    ∃ answers, (∀ ans ∈ answers, ok ans) ∧ exec w.perform p answers s = some (a, t) := by
  induction h with
  | ret a s => exact ⟨[], by simp, rfl⟩
  | @call op k ans r s t u b hadm hperf _ ih =>
    obtain ⟨answers, hall, hexec⟩ := ih
    refine ⟨ans :: answers, ?_, ?_⟩
    · intro x hx
      rcases List.mem_cons.mp hx with rfl | hx
      · exact hok _ _ _ hadm
      · exact hall x hx
    · simp only [exec, hperf]
      exact hexec

/-- A triple bounds every computed execution. -/
theorem exec_spec {w : World Op Ret Ans σ} {p : Prog Op Ret α} {P : σ → Prop}
    {Q : α → σ → Prop} (h : w.Triple P p Q) {answers : List Ans} {s t : σ} {a : α} (hs : P s)
    (hadm : ∀ ans ∈ answers, ∀ s op, w.admits s op ans)
    (hexec : exec w.perform p answers s = some (a, t)) : Q a t :=
  (exec_sound hadm hexec).wp (h s hs)

/-! ## Section 6: Executions with interference -/

/-- The program runs from `s` to `t` while the others step too. -/
inductive World.Runs (w : World Op Ret Ans σ) : Prog Op Ret α → σ → α → σ → Prop where
  | ret {a : α} {s t : σ} : w.Later s t → World.Runs w (.ret a) s a t
  | call {op : Op} {k : Ret op → Prog Op Ret α} {ans : Ans} {r : Ret op} {s s' t u : σ} {a : α} :
      w.Later s s' → w.admits s' op ans → w.perform op ans s' = some (r, t) →
      World.Runs w (k r) t a u → World.Runs w (.call op k) s a u

/-- A triple bounds every execution. -/
theorem World.Runs.triple {w : World Op Ret Ans σ} {p : Prog Op Ret α} {P : σ → Prop}
    {Q : α → σ → Prop} {s t : σ} {a : α} (hruns : w.Runs p s a t) (h : w.Triple P p Q)
    (hs : P s) : Q a t := by
  have hwp := h s hs
  clear h hs
  induction hruns with
  | ret hst => exact hwp _ hst
  | call hst hadm hperf _ ih => exact ih (hwp _ hst _ _ _ hadm hperf)

/-- An execution in which the others do not step. -/
theorem World.Runs.of_exec {w : World Op Ret Ans σ} {p : Prog Op Ret α} {s t : σ} {a : α}
    (h : w.Exec p s a t) : w.Runs p s a t := by
  induction h with
  | ret a s => exact World.Runs.ret Relation.ReflTransGen.refl
  | call hadm hperf _ ih => exact World.Runs.call Relation.ReflTransGen.refl hadm hperf ih

/-- Every operation of the program has the property `P`. -/
def Prog.All (P : Op → Prop) : Prog Op Ret α → Prop
  | .ret _ => True
  | .call op k => P op ∧ ∀ r, (k r).All P

theorem Prog.All.bind {P : Op → Prop} {p : Prog Op Ret α} {f : α → Prog Op Ret β} (hp : p.All P)
    (hf : ∀ a, (f a).All P) : (p >>= f).All P := by
  induction p with
  | ret a => exact hf a
  | call op k ih => exact ⟨hp.1, fun r => ih r (hp.2 r)⟩

/-- What every operation keeps, the program keeps. -/
theorem World.Triple.of_all {w : World Op Ret Ans σ} {P : Op → Prop} {I : σ → Prop}
    {p : Prog Op Ret α} (hI : w.Stable I)
    (hop : ∀ op, P op → ∀ s ans r t, I s → w.admits s op ans → w.perform op ans s = some (r, t) →
      I t) (hp : p.All P) : w.Triple I p fun _ => I := by
  induction p with
  | ret a => exact World.Triple.ret hI fun _ hs => hs
  | call op k ih =>
    apply World.Triple.call hI fun _ => I
    · exact hop op hp.1
    · exact fun r => ih r (hp.2 r)

/-- The world of a thread that is alone, under answers with the property `ok`. -/
def World.alone (perform : (op : Op) → Ans → σ → Option (Ret op × σ)) (ok : Ans → Prop) :
    World Op Ret Ans σ where
  perform := perform
  admits _ _ ans := ok ans
  others _ _ := False

theorem World.stable_alone {perform : (op : Op) → Ans → σ → Option (Ret op × σ)}
    {ok : Ans → Prop} (P : σ → Prop) : (World.alone perform ok).Stable P := by
  intro _ _ h _
  exact h.elim

end Interference
