import Mathlib.Data.List.Basic
import Mathlib.Data.List.Nodup
import Mathlib.Logic.Function.Basic

/-! # Singly Linked Lists in a Heap

    A heap maps addresses to nodes with a value and a `next` pointer.
    `Chain h p as` says that following `next` from the pointer `p` visits
    exactly the addresses `as`, in order, and then reaches NULL.

    The rules below are the ones an implementation with `head` and `tail`
    pointers needs: the frame rule, unlinking at the head, and linking a
    node behind the last one. -/

namespace LinkedHeap

/-- Addresses; a pointer is an `Option Addr`, with `none` for NULL. -/
abbrev Addr : Type := Nat

structure Node (α : Type*) where
  val : α
  next : Option Addr

/-- `none` is memory that is not allocated. -/
abbrev Heap (α : Type*) := Addr → Option (Node α)

variable {α β : Type*}

def store (h : Heap α) (a : Addr) (n : Node α) : Heap α := Function.update h a (some n)

def free (h : Heap α) (a : Addr) : Heap α := Function.update h a none

@[simp] theorem store_self (h : Heap α) (a : Addr) (n : Node α) : store h a n a = some n := by
  simp [store]

theorem store_ne (h : Heap α) {a b : Addr} (n : Node α) (hne : b ≠ a) : store h a n b = h b := by
  simp [store, hne]

theorem free_ne (h : Heap α) {a b : Addr} (hne : b ≠ a) : free h a b = h b := by
  simp [free, hne]

/-! ## Chains -/

inductive Chain (h : Heap α) : Option Addr → List Addr → Prop where
  | nil : Chain h none []
  | cons {a : Addr} {n : Node α} {as : List Addr} :
      h a = some n → Chain h n.next as → Chain h (some a) (a :: as)

/-- The values stored at a list of addresses, each through `f`. -/
def contents (f : Addr → α → β) (h : Heap α) (as : List Addr) : List β :=
  as.filterMap fun a => (h a).map fun n => f a n.val

theorem chain_some_iff {h : Heap α} {a : Addr} {as : List Addr} :
    Chain h (some a) as ↔ ∃ n rest, h a = some n ∧ Chain h n.next rest ∧ as = a :: rest := by
  constructor
  · intro hc
    cases hc with
    | cons hn hrest => exact ⟨_, _, hn, hrest, rfl⟩
  · rintro ⟨n, rest, hn, hrest, rfl⟩
    exact Chain.cons hn hrest

/-- The first address of a chain is what its pointer points to. -/
theorem Chain.head_eq {h : Heap α} {p : Option Addr} {as : List Addr} (hc : Chain h p as) :
    p = as.head? := by
  cases hc <;> rfl

theorem Chain.allocated {h : Heap α} {p : Option Addr} {as : List Addr} (hc : Chain h p as) :
    ∀ a ∈ as, (h a).isSome := by
  induction hc with
  | nil => simp
  | cons hn _ ih =>
    intro b hb
    rcases List.mem_cons.mp hb with rfl | hb
    · simp [hn]
    · exact ih b hb

/-- **Frame rule**: a heap that agrees on the chain's addresses has the same chain. -/
theorem Chain.frame {h h' : Heap α} {p : Option Addr} {as : List Addr} (hc : Chain h p as)
    (hagree : ∀ a ∈ as, h' a = h a) : Chain h' p as := by
  induction hc with
  | nil => exact Chain.nil
  | cons hn _ ih =>
    refine Chain.cons ((hagree _ List.mem_cons_self).trans hn) ?_
    exact ih fun b hb => hagree b (List.mem_cons_of_mem _ hb)

/-- Contents depend on the values only, not on the `next` pointers. -/
theorem contents_congr {f g : Addr → α → β} {h h' : Heap α} {as : List Addr}
    (hfg : ∀ a ∈ as, f a = g a) (hval : ∀ a ∈ as, (h' a).map Node.val = (h a).map Node.val) :
    contents f h' as = contents g h as := by
  unfold contents
  refine List.filterMap_congr fun a ha => ?_
  have hmap := congrArg (Option.map (g a)) (hval a ha)
  simpa [Option.map_map, Function.comp_def, hfg a ha] using hmap

theorem Chain.store_ne {h : Heap α} {p : Option Addr} {as : List Addr} (hc : Chain h p as)
    {a : Addr} (n : Node α) (ha : a ∉ as) : Chain (store h a n) p as :=
  hc.frame fun _ hb => LinkedHeap.store_ne h n fun hab => ha (hab ▸ hb)

theorem Chain.free_ne {h : Heap α} {p : Option Addr} {as : List Addr} (hc : Chain h p as)
    {a : Addr} (ha : a ∉ as) : Chain (free h a) p as :=
  hc.frame fun _ hb => LinkedHeap.free_ne h fun hab => ha (hab ▸ hb)

theorem contents_cons (f : Addr → α → β) {h : Heap α} {a : Addr} {n : Node α}
    (hn : h a = some n) (as : List Addr) :
    contents f h (a :: as) = f a n.val :: contents f h as := by
  simp [contents, hn]

theorem contents_append (f : Addr → α → β) (h : Heap α) (as bs : List Addr) :
    contents f h (as ++ bs) = contents f h as ++ contents f h bs := by
  simp [contents]

/-- A chain has one value for each of its addresses. -/
theorem Chain.length_contents {h : Heap α} {p : Option Addr} {as : List Addr}
    (hc : Chain h p as) (f : Addr → α → β) : (contents f h as).length = as.length := by
  induction hc with
  | nil => rfl
  | cons hn _ ih => rw [contents_cons f hn, List.length_cons, List.length_cons, ih]

/-- **Linking behind the last node**: once `z`, the last node of the chain,
    points to the node `b`, which ends in NULL, the chain continues with `b`. -/
theorem Chain.snoc {h : Heap α} {p : Option Addr} {as : List Addr} {z b : Addr} {nz nb : Node α}
    (hc : Chain h p as) (hnd : as.Nodup) (hlast : as.getLast? = some z)
    (hz : h z = some nz) (hb : h b = some nb) (hnil : nb.next = none) (hnot : b ∉ as) :
    Chain (store h z { nz with next := some b }) p (as ++ [b]) := by
  have hzmem : z ∈ as := List.mem_of_getLast? hlast
  have hbz : b ≠ z := fun h => hnot (h ▸ hzmem)
  have hsb : store h z { nz with next := some b } b = some nb := by
    rw [LinkedHeap.store_ne h _ hbz, hb]
  have htail : Chain (store h z { nz with next := some b }) (some b) [b] :=
    Chain.cons hsb (hnil ▸ Chain.nil)
  induction hc with
  | nil => simp at hlast
  | @cons a n rest hn hrest ih =>
    rw [List.nodup_cons] at hnd
    cases rest with
    | nil =>
      obtain rfl : a = z := by simpa using hlast
      exact Chain.cons (store_self _ _ _) htail
    | cons c rest =>
      have hlast' : (c :: rest).getLast? = some z := by simpa using hlast
      have haz : a ≠ z := fun h => hnd.1 (h ▸ List.mem_of_getLast? hlast')
      refine Chain.cons ((LinkedHeap.store_ne h _ haz).trans hn) ?_
      exact ih hnd.2 hlast' (fun hmem => hnot (List.mem_cons_of_mem _ hmem))
        (List.mem_of_getLast? hlast')

/-- Changing a `next` pointer changes no value. -/
theorem val_store_next {h : Heap α} {z : Addr} {nz : Node α} (hz : h z = some nz)
    (p : Option Addr) (b : Addr) :
    (store h z { nz with next := p } b).map Node.val = (h b).map Node.val := by
  by_cases hb : b = z
  · subst hb
    rw [store_self, hz]
    rfl
  · rw [LinkedHeap.store_ne h _ hb]

theorem Chain.unique {h : Heap α} {p : Option Addr} {as bs : List Addr} (ha : Chain h p as)
    (hb : Chain h p bs) : as = bs := by
  induction ha generalizing bs with
  | nil => cases hb with
    | nil => rfl
  | cons hn _ ih =>
    obtain ⟨n, rest, hn', hrest, rfl⟩ := chain_some_iff.mp hb
    obtain rfl := Option.some.inj (hn.symm.trans hn')
    rw [ih hrest]

/-! ## Freeing a list -/

/-- Free one node after the other, each after its `next` pointer is read;
    `none` if a node is not allocated or the list has more than `fuel` nodes. -/
def freeAll : Nat → Heap α → Option Addr → Option (Heap α)
  | _, h, none => some h
  | 0, _, some _ => none
  | fuel + 1, h, some a => (h a).bind fun n => freeAll fuel (free h a) n.next

/-- A list of distinct nodes is freed to its end, and nothing else. -/
theorem freeAll_chain {h : Heap α} {p : Option Addr} {as : List Addr} (hc : Chain h p as)
    (hnd : as.Nodup) {fuel : Nat} (hfuel : as.length ≤ fuel) :
    ∃ h', freeAll fuel h p = some h' ∧ ∀ b, h' b = if b ∈ as then none else h b := by
  induction as generalizing h p fuel with
  | nil =>
    cases hc
    cases fuel <;> exact ⟨h, rfl, fun b => by simp⟩
  | cons a as ih =>
    cases hc with
    | @cons _ n _ hn hrest =>
      obtain ⟨hnot, hnd⟩ := List.nodup_cons.mp hnd
      cases fuel with
      | zero => exact absurd hfuel (Nat.not_succ_le_zero _)
      | succ fuel =>
        -- the rest of the list survives the first node
        obtain ⟨h', hfree, hheap⟩ := ih (hrest.free_ne hnot) hnd (Nat.le_of_succ_le_succ hfuel)
        refine ⟨h', by simpa [freeAll, hn] using hfree, fun b => ?_⟩
        rw [hheap]
        by_cases hb : b = a
        · subst hb
          simp [hnot, free]
        · simp [hb, LinkedHeap.free_ne]

end LinkedHeap
