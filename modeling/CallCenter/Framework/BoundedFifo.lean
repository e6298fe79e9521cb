import Mathlib.Data.List.Basic
import Mathlib.Data.List.Nodup

/-! # A Bounded Drop-Oldest FIFO

    The abstract queue: elements leave in the order in which they came,
    and a push that finds `cap` elements waiting throws the oldest one away.
    Every element carries its arrival number, so that "the same element"
    makes sense when two pushes brought equal values.

    Main result: `accounting_push` and `accounting_pop` preserve
    `Accounting`, i.e. what left followed by what waits is the pushed
    sequence minus exactly the evicted arrivals. -/

namespace BoundedFifo

variable {α : Type*}

/-- A queue with its past.  Elements are paired with their arrival number. -/
structure History (α : Type*) where
  /-- Everything ever pushed, in order. -/
  pushed : List α
  /-- What was popped, in order. -/
  popped : List (α × Nat)
  /-- What is waiting, oldest first. -/
  items : List (α × Nat)
  /-- The arrival numbers thrown away by a push that found the queue full. -/
  evicted : List Nat

def empty : History α := ⟨[], [], [], []⟩

/-- Throw the oldest waiting element away. -/
def evictOldest (h : History α) : History α :=
  match h.items with
  | [] => h
  | x :: rest => { h with items := rest, evicted := h.evicted ++ [x.2] }

/-- Append an element and give it the next arrival number. -/
def append (h : History α) (a : α) : History α :=
  { h with items := h.items ++ [(a, h.pushed.length)], pushed := h.pushed ++ [a] }

def push (cap : Nat) (h : History α) (a : α) : History α :=
  append (if cap ≤ h.items.length then evictOldest h else h) a

/-- Take the oldest element out; nothing happens on the empty queue. -/
def pop (h : History α) : History α :=
  match h.items with
  | [] => h
  | x :: rest => { h with items := rest, popped := h.popped ++ [x] }

theorem evictOldest_cons {h : History α} {x : α × Nat} {rest : List (α × Nat)}
    (hitems : h.items = x :: rest) :
    evictOldest h = { h with items := rest, evicted := h.evicted ++ [x.2] } := by
  simp [evictOldest, hitems]

theorem pop_cons {h : History α} {x : α × Nat} {rest : List (α × Nat)}
    (hitems : h.items = x :: rest) :
    pop h = { h with items := rest, popped := h.popped ++ [x] } := by
  simp [pop, hitems]

/-- The pushed sequence without the arrivals in `evicted`. -/
def survivors (pushed : List α) (evicted : List Nat) : List (α × Nat) :=
  pushed.zipIdx.filter fun p => p.2 ∉ evicted

/-- Nothing is reordered, duplicated or lost except by eviction. -/
structure Accounting (h : History α) : Prop where
  conserved : h.popped ++ h.items = survivors h.pushed h.evicted
  evicted_lt : ∀ k ∈ h.evicted, k < h.pushed.length

theorem accounting_empty : Accounting (empty : History α) :=
  ⟨by simp [empty, survivors], by simp [empty]⟩

/-! ## Arrival numbers -/

theorem nodup_survivors (pushed : List α) (evicted : List Nat) :
    ((survivors pushed evicted).map Prod.snd).Nodup := by
  have hsub : (survivors pushed evicted).map Prod.snd |>.Sublist (pushed.zipIdx.map Prod.snd) :=
    List.filter_sublist.map _
  refine hsub.nodup ?_
  rw [List.zipIdx_map_snd]
  exact List.nodup_range'

theorem survivors_append (pushed : List α) (evicted : List Nat) (a : α)
    (hlt : ∀ k ∈ evicted, k < pushed.length) :
    survivors (pushed ++ [a]) evicted = survivors pushed evicted ++ [(a, pushed.length)] := by
  have hnew : pushed.length ∉ evicted := fun h => Nat.lt_irrefl _ (hlt _ h)
  simp [survivors, List.zipIdx_append, List.filter_append, hnew]

theorem survivors_evict (pushed : List α) (evicted : List Nat) (k : Nat) :
    survivors pushed (evicted ++ [k]) =
      (survivors pushed evicted).filter fun p => p.2 ≠ k := by
  simp only [survivors, List.filter_filter]
  congr 1
  funext p
  by_cases hk : p.2 = k <;> simp [hk]

/-- Dropping the number of one element from a list without repeated numbers
    drops exactly that element. -/
theorem filter_ne_of_nodup {xs ys : List (α × Nat)} {x : α × Nat}
    (hnd : ((xs ++ x :: ys).map Prod.snd).Nodup) :
    (xs ++ x :: ys).filter (fun p => p.2 ≠ x.2) = xs ++ ys := by
  rw [List.map_append, List.map_cons] at hnd
  have hmid := List.nodup_middle.mp hnd
  rw [List.nodup_cons, List.mem_append] at hmid
  have hxs : ∀ p ∈ xs, p.2 ≠ x.2 := fun p hp h =>
    hmid.1 (Or.inl (h ▸ List.mem_map_of_mem hp))
  have hys : ∀ p ∈ ys, p.2 ≠ x.2 := fun p hp h =>
    hmid.1 (Or.inr (h ▸ List.mem_map_of_mem hp))
  rw [List.filter_append, List.filter_cons_of_neg (by simp)]
  rw [List.filter_eq_self.mpr (by simpa using hxs), List.filter_eq_self.mpr (by simpa using hys)]

/-! ## Preservation -/

theorem accounting_evictOldest {h : History α} (hacc : Accounting h) :
    Accounting (evictOldest h) := by
  unfold evictOldest
  split
  case h_1 => exact hacc
  case h_2 x rest hitems =>
    have hcons := hacc.conserved
    rw [hitems] at hcons
    refine ⟨?_, ?_⟩
    · show h.popped ++ rest = survivors h.pushed (h.evicted ++ [x.2])
      rw [survivors_evict, ← hcons, filter_ne_of_nodup]
      rw [hcons]
      exact nodup_survivors _ _
    · intro k hk
      rcases List.mem_append.mp hk with hk | hk
      · exact hacc.evicted_lt k hk
      · have hmem : x ∈ survivors h.pushed h.evicted := by rw [← hcons]; simp
        obtain rfl : k = x.2 := by simpa using hk
        have hx := (List.mem_filter.mp hmem).1
        simpa using (List.mem_zipIdx' hx).1

theorem accounting_append {h : History α} (hacc : Accounting h) (a : α) :
    Accounting (append h a) := by
  refine ⟨?_, ?_⟩
  · show h.popped ++ (h.items ++ [(a, h.pushed.length)]) = survivors (h.pushed ++ [a]) h.evicted
    rw [survivors_append _ _ _ hacc.evicted_lt, ← hacc.conserved, List.append_assoc]
  · intro k hk
    have hlt : k < h.pushed.length := hacc.evicted_lt k hk
    show k < (h.pushed ++ [a]).length
    simp only [List.length_append, List.length_singleton]
    omega

theorem accounting_push {h : History α} (hacc : Accounting h) (cap : Nat) (a : α) :
    Accounting (push cap h a) := by
  unfold push
  split
  · exact accounting_append (accounting_evictOldest hacc) a
  · exact accounting_append hacc a

theorem accounting_pop {h : History α} (hacc : Accounting h) : Accounting (pop h) := by
  unfold pop
  split
  case h_1 => exact hacc
  case h_2 x rest hitems =>
    refine ⟨?_, hacc.evicted_lt⟩
    show (h.popped ++ [x]) ++ rest = survivors h.pushed h.evicted
    rw [← hacc.conserved, hitems, List.append_assoc, List.singleton_append]

/-! ## Waiting elements, without their numbers -/

/-- The values waiting, oldest first. -/
def values (h : History α) : List α := h.items.map Prod.fst

/-- A push on the waiting values alone. -/
def enqueue (cap : Nat) (q : List α) (a : α) : List α :=
  (if cap ≤ q.length then q.tail else q) ++ [a]

theorem enqueue_of_lt {cap : Nat} {q : List α} (h : q.length < cap) (a : α) :
    enqueue cap q a = q ++ [a] := by
  have hroom : ¬ cap ≤ q.length := by omega
  rw [enqueue, if_neg hroom]

theorem enqueue_of_le {cap : Nat} {q : List α} (h : cap ≤ q.length) (a : α) :
    enqueue cap q a = q.tail ++ [a] := by
  rw [enqueue, if_pos h]

theorem values_append (h : History α) (a : α) : values (append h a) = values h ++ [a] := by
  simp [values, append]

theorem values_evictOldest (h : History α) : values (evictOldest h) = (values h).tail := by
  unfold evictOldest values
  cases hitems : h.items <;> simp [hitems]

theorem values_push (cap : Nat) (h : History α) (a : α) :
    values (push cap h a) = enqueue cap (values h) a := by
  have hlen : (values h).length = h.items.length := by simp [values]
  unfold push enqueue
  rw [values_append, hlen]
  split
  · rw [values_evictOldest]
  · rfl

theorem values_pop (h : History α) : values (pop h) = (values h).tail := by
  unfold pop values
  cases hitems : h.items <;> simp [hitems]

end BoundedFifo
