import Mathlib.Data.List.Infix
import Mathlib.Data.List.TakeWhile
import Mathlib.Order.Basic
import Mathlib.Tactic.Common

/-! # Streaks in a History

    A history is a list with its most recent event first.  Some events are
    counted (`bad`), and some are `marked`.

    * `Streak bad n l`: the `n` most recent events are all counted.
    * `MarkedEvery m bad marked l`: of the counted events every `m`-th one is
      marked, as a counter does that starts anew at `m`.
    * `streak_since_iff`: the `m` most recent events since the last mark are all
      counted exactly when the count has come to a multiple of `m` by a streak. -/

namespace History

variable {α : Type*} (bad marked : α → Bool)

/-! ## Streaks -/

/-- The `n` most recent events are all counted. -/
def Streak (n : Nat) (l : List α) : Prop :=
  ∃ recent, recent <+: l ∧ recent.length = n ∧ ∀ e ∈ recent, bad e = true

/-- The events since the last mark. -/
def since (l : List α) : List α := l.takeWhile fun e => !marked e

/-- Every `m`-th of the counted events is marked. -/
def MarkedEvery (m : Nat) (l : List α) : Prop :=
  ∀ e before, e :: before <:+ l → bad e = true →
    (marked e = true ↔ m ∣ (e :: before).countP bad)

variable {bad marked} {m : Nat} {e : α} {l : List α}

theorem Streak.mono {n : Nat} {l' : List α} (h : Streak bad n l) (hl : l <+: l') :
    Streak bad n l' := by
  obtain ⟨recent, hrecent, hlen, hbad⟩ := h
  exact ⟨recent, hrecent.trans hl, hlen, hbad⟩

theorem streak_iff_take {n : Nat} :
    Streak bad n l ↔ n ≤ l.length ∧ ∀ e ∈ l.take n, bad e = true := by
  constructor
  · rintro ⟨recent, hrecent, rfl, hbad⟩
    rw [← List.prefix_iff_eq_take.mp hrecent]
    exact ⟨hrecent.length_le, hbad⟩
  · rintro ⟨hlen, hbad⟩
    exact ⟨l.take n, List.take_prefix n l, List.length_take_of_le hlen, hbad⟩

instance {n : Nat} : Decidable (Streak bad n l) := decidable_of_iff' _ streak_iff_take

theorem streak_map {β : Type*} {f : β → α} {n : Nat} {l : List β} :
    Streak bad n (l.map f) ↔ Streak (bad ∘ f) n l := by
  rw [streak_iff_take, streak_iff_take, List.length_map, ← List.map_take, List.forall_mem_map]
  rfl

theorem markedEvery_nil : MarkedEvery bad marked m [] := by
  intro e before h
  simp at h

theorem MarkedEvery.suffix {l' : List α} (h : MarkedEvery bad marked m l) (hl : l' <:+ l) :
    MarkedEvery bad marked m l' := fun f before hsuffix => h f before (hsuffix.trans hl)

theorem MarkedEvery.cons (h : MarkedEvery bad marked m l)
    (he : bad e = true → (marked e = true ↔ m ∣ (e :: l).countP bad)) :
    MarkedEvery bad marked m (e :: l) := by
  intro f before hsuffix hbad
  rcases List.suffix_cons_iff.mp hsuffix with heq | hsuffix
  · obtain ⟨rfl, rfl⟩ := List.cons.inj heq
    exact he hbad
  · exact h f before hsuffix hbad

/-! ## Marks by count -/

/-- The count over a front that is counted as a whole. -/
theorem countP_front {front : List α} (hfront : ∀ e ∈ front, bad e = true) (rest : List α) :
    (front ++ rest).countP bad = front.length + rest.countP bad := by
  rw [List.countP_append, List.countP_eq_length.mpr hfront]

/-- In a front that is counted as a whole, a mark stands where the count comes
    to a multiple of `m`. -/
theorem MarkedEvery.front {front back rest : List α} (h : MarkedEvery bad marked m l)
    (hl : l = front ++ e :: back ++ rest) (hback : ∀ f ∈ e :: back, bad f = true) :
    marked e = true ↔ m ∣ back.length + 1 + rest.countP bad := by
  have hsuffix : e :: (back ++ rest) <:+ l := ⟨front, by rw [hl]; simp⟩
  rw [h e _ hsuffix (hback e List.mem_cons_self), ← List.cons_append, countP_front hback rest,
    List.length_cons]

/-- Of a front that is counted as a whole and begins at a multiple of `m`,
    the first `m - 1` events have no mark. -/
theorem MarkedEvery.unmarked {front rest : List α} (h : MarkedEvery bad marked m l)
    (hl : front ++ rest = l) (hfront : ∀ f ∈ front, bad f = true) (hlen : front.length < m)
    (hdvd : m ∣ rest.countP bad) : ∀ f ∈ front, marked f = false := by
  intro f hf
  obtain ⟨before, after, rfl⟩ := List.append_of_mem hf
  have hafter : ∀ g ∈ f :: after, bad g = true :=
    fun g hg => hfront g (List.mem_append_right before hg)
  rw [Bool.eq_false_iff, ne_eq, h.front hl.symm hafter, ← Nat.dvd_add_iff_left hdvd]
  intro hle
  have := Nat.le_of_dvd (by omega) hle
  simp only [List.length_cons, List.length_append] at hlen
  omega

/-- If it begins elsewhere, one of them is marked. -/
theorem MarkedEvery.exists_marked {front rest : List α} (h : MarkedEvery bad marked m l)
    (hl : front ++ rest = l) (hfront : ∀ f ∈ front, bad f = true) (hlen : front.length + 1 = m)
    (hdvd : ¬ m ∣ rest.countP bad) : ∃ f ∈ front, marked f = true := by
  have hlt := Nat.mod_lt (rest.countP bad) (by omega : 0 < m)
  have hpos : rest.countP bad % m ≠ 0 := fun hzero => hdvd (Nat.dvd_of_mod_eq_zero hzero)
  obtain ⟨f, back, hback⟩ : ∃ f back, front.drop (rest.countP bad % m - 1) = f :: back := by
    apply List.exists_cons_of_length_pos
    rw [List.length_drop]
    omega
  have hsplit : front = front.take (rest.countP bad % m - 1) ++ f :: back := by
    rw [← hback, List.take_append_drop]
  have hfresh := congrArg List.length hback
  rw [List.length_drop, List.length_cons] at hfresh
  have hsub : ∀ g ∈ f :: back, g ∈ front := by
    intro g hg
    rw [hsplit]
    exact List.mem_append_right _ hg
  have hmark : marked f = true ↔ m ∣ back.length + 1 + rest.countP bad :=
    h.front (by rw [← hl, ← hsplit]) fun g hg => hfront g (hsub g hg)
  have hmultiple : back.length + 1 + rest.countP bad = m * (rest.countP bad / m + 1) := by
    have hdiv := Nat.div_add_mod (rest.countP bad) m
    rw [Nat.mul_add]
    omega
  exact ⟨f, hsub f List.mem_cons_self, hmark.mpr ⟨_, hmultiple⟩⟩

theorem prefix_cons_of_length {recent : List α} (hm : 1 ≤ m) (h : recent <+: e :: l)
    (hlen : recent.length = m) : ∃ front, recent = e :: front ∧ front <+: l := by
  cases recent with
  | nil =>
    rw [List.length_nil] at hlen
    omega
  | cons f front =>
    obtain ⟨rfl, hfront⟩ := List.cons_prefix_cons.mp h
    exact ⟨front, rfl, hfront⟩

/-- **Streaks since the last mark**, where every `m`-th counted event is
    marked. -/
theorem streak_since_iff (hm : 1 ≤ m) (h : MarkedEvery bad marked m l) :
    Streak bad m (e :: since marked l) ↔
      m ∣ (e :: l).countP bad ∧ Streak bad m (e :: l) := by
  have hcount : ∀ {front rest : List α}, (∀ f ∈ e :: front, bad f = true) →
      (e :: front).length = m → front ++ rest = l →
        (m ∣ (e :: l).countP bad ↔ m ∣ rest.countP bad) := by
    intro front rest hbad hlen hl
    rw [← hl, ← List.cons_append, countP_front hbad, hlen,
      ← Nat.dvd_add_iff_right (Nat.dvd_refl m)]
  constructor
  · intro hstreak
    refine ⟨?_, hstreak.mono (List.cons_prefix_cons.mpr ⟨rfl, List.takeWhile_prefix _⟩)⟩
    obtain ⟨recent, hrecent, hlen, hbad⟩ := hstreak
    obtain ⟨front, rfl, hfront⟩ := prefix_cons_of_length hm hrecent hlen
    obtain ⟨rest, hl⟩ := hfront.trans (List.takeWhile_prefix _)
    rw [hcount hbad hlen hl]
    by_contra hdvd
    obtain ⟨f, hf, hmark⟩ :=
      h.exists_marked hl (fun g hg => hbad g (List.mem_cons_of_mem e hg)) hlen hdvd
    -- but there is no mark since the last one
    have hunmarked : marked f = false := by
      simpa using List.mem_takeWhile_imp (hfront.subset hf)
    rw [hmark] at hunmarked
    cases hunmarked
  · rintro ⟨hdvd, recent, hrecent, hlen, hbad⟩
    obtain ⟨front, rfl, rest, hl⟩ := prefix_cons_of_length hm hrecent hlen
    rw [hcount hbad hlen hl] at hdvd
    rw [List.length_cons] at hlen
    have hunmarked := h.unmarked hl (fun g hg => hbad g (List.mem_cons_of_mem e hg))
      (by omega) hdvd
    refine ⟨e :: front, ?_, hlen, hbad⟩
    rw [List.cons_prefix_cons, since, ← hl,
      List.takeWhile_append_of_pos fun f hf => by rw [hunmarked f hf]; rfl]
    exact ⟨rfl, List.prefix_append _ _⟩

/-- A counter that starts anew at `m` is the count modulo `m`. -/
theorem counter_step (hm : 1 ≤ m) (n : Nat) :
    (m ≤ n % m + 1 ↔ m ∣ n + 1) ∧
      (if m ≤ n % m + 1 then 0 else n % m + 1) = (n + 1) % m := by
  have hlt := Nat.mod_lt n hm
  have hmod : (n + 1) % m = (n % m + 1) % m := (Nat.mod_add_mod n m 1).symm
  rw [Nat.dvd_iff_mod_eq_zero, hmod]
  by_cases hfull : m ≤ n % m + 1
  · have heq : n % m + 1 = m := by omega
    rw [if_pos hfull, heq, Nat.mod_self]
    simp
  · have hsmall : (n % m + 1) % m = n % m + 1 := Nat.mod_eq_of_lt (by omega)
    rw [if_neg hfull, hsmall]
    simp [hfull]

end History
