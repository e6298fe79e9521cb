import Mathlib.Data.List.Nodup
import Mathlib.Data.List.Pairwise

/-! # Tables with a Unique Key

    A table is the list of its rows, of which no two have one key.

    * `insertAll`: an INSERT of several rows, which fails as a whole.
    * `upsertAll`: the same with a clause for rows whose key is there already.
    * `Filled`: the table holds the rows of certain batches.  Where the keys of
      all batches are different, repeated batches add nothing
      (`Filled.insertAll`, `Filled.upsertAll`). -/

namespace KeyedTable

variable {Row Key : Type*} [DecidableEq Key] (key : Row → Key)

/-- Each row is new, or none is inserted. -/
def insertAll (t rows : List Row) : Option (List Row) :=
  if (rows.map key).Nodup ∧ ∀ row ∈ rows, key row ∉ t.map key then some (t ++ rows) else none

/-- A row whose key is there is touched, another one is appended. -/
def upsert (touch : Row → Row) (t : List Row) (row : Row) : List Row :=
  if key row ∈ t.map key then t.map fun r => if key r = key row then touch r else r
  else t ++ [row]

def upsertAll (touch : Row → Row) (t rows : List Row) : List Row :=
  rows.foldl (upsert key touch) t

/-- The table holds just the rows of these batches. -/
structure Filled (t : List Row) (batches : List (List Row)) : Prop where
  nodup : (t.map key).Nodup
  mem_iff : ∀ row, row ∈ t ↔ ∃ batch ∈ batches, row ∈ batch

variable {key} {t : List Row} {done all : List (List Row)} {batch : List Row}

omit [DecidableEq Key] in
theorem filled_nil : Filled key [] [] := ⟨List.nodup_nil, fun row => by simp⟩

omit [DecidableEq Key] in
/-- A key tells the batch. -/
theorem batch_eq (hall : (all.flatten.map key).Nodup) {batch batch' : List Row}
    (hb : batch ∈ all) (hb' : batch' ∈ all) {row row' : Row} (hrow : row ∈ batch)
    (hrow' : row' ∈ batch') (hkey : key row = key row') : batch = batch' := by
  have hmem := List.mem_flatten_of_mem hb hrow
  have hmem' := List.mem_flatten_of_mem hb' hrow'
  obtain rfl := List.inj_on_of_nodup_map hall hmem hmem' hkey
  by_contra hne
  have hdisjoint := (List.nodup_flatten.mp hall.of_map).2
  have hsymm : Std.Symm (@List.Disjoint Row) := ⟨fun _ _ => List.disjoint_symm⟩
  exact hdisjoint.forall hb hb' hne hrow hrow'

omit [DecidableEq Key] in
theorem nodup_batch (hall : (all.flatten.map key).Nodup) (hb : batch ∈ all) :
    (batch.map key).Nodup :=
  hall.sublist ((List.sublist_flatten_of_mem hb).map key)

omit [DecidableEq Key] in
/-- The keys of a batch are all there, or none of them is. -/
theorem Filled.key_mem_iff (h : Filled key t done) (hall : (all.flatten.map key).Nodup)
    (hdone : ∀ b ∈ done, b ∈ all) (hb : batch ∈ all) {row : Row} (hrow : row ∈ batch) :
    key row ∈ t.map key ↔ batch ∈ done := by
  constructor
  · intro hkey
    obtain ⟨row', hrow', heq⟩ := List.mem_map.mp hkey
    obtain ⟨b, hbdone, hmem⟩ := (h.mem_iff row').mp hrow'
    rwa [← batch_eq hall (hdone b hbdone) hb hmem hrow heq]
  · intro hbdone
    exact List.mem_map_of_mem ((h.mem_iff row).mpr ⟨batch, hbdone, hrow⟩)

omit [DecidableEq Key] in
/-- A batch that is done is done again. -/
theorem Filled.again (h : Filled key t done) (hb : batch ∈ done) :
    Filled key t (done ++ [batch]) := by
  refine ⟨h.nodup, fun row => ?_⟩
  rw [h.mem_iff]
  simp only [List.mem_append, List.mem_singleton]
  constructor
  · rintro ⟨b, hmem, hrow⟩
    exact ⟨b, Or.inl hmem, hrow⟩
  · rintro ⟨b, hmem | rfl, hrow⟩
    · exact ⟨b, hmem, hrow⟩
    · exact ⟨b, hb, hrow⟩

omit [DecidableEq Key] in
theorem Filled.append (h : Filled key t done) (hnodup : (batch.map key).Nodup)
    (hnew : ∀ row ∈ batch, key row ∉ t.map key) : Filled key (t ++ batch) (done ++ [batch]) := by
  constructor
  case nodup =>
    rw [List.map_append, List.nodup_append']
    refine ⟨h.nodup, hnodup, fun k hk hk' => ?_⟩
    obtain ⟨row, hrow, rfl⟩ := List.mem_map.mp hk'
    exact hnew row hrow hk
  case mem_iff =>
    intro row
    rw [List.mem_append, h.mem_iff]
    simp only [List.mem_append, List.mem_singleton]
    constructor
    · rintro (⟨b, hmem, hrow⟩ | hrow)
      · exact ⟨b, Or.inl hmem, hrow⟩
      · exact ⟨batch, Or.inr rfl, hrow⟩
    · rintro ⟨b, hmem | rfl, hrow⟩
      · exact Or.inl ⟨b, hmem, hrow⟩
      · exact Or.inr hrow

/-- An INSERT of a batch, which fails if it is a repetition. -/
theorem Filled.insertAll (h : Filled key t done) (hall : (all.flatten.map key).Nodup)
    (hdone : ∀ b ∈ done, b ∈ all) (hb : batch ∈ all) (hne : batch ≠ []) :
    Filled key ((KeyedTable.insertAll key t batch).getD t) (done ++ [batch]) := by
  unfold KeyedTable.insertAll
  by_cases hold : batch ∈ done
  · obtain ⟨row, hrow⟩ := List.exists_mem_of_ne_nil batch hne
    have hkey := (h.key_mem_iff hall hdone hb hrow).mpr hold
    rw [if_neg fun hnew => hnew.2 row hrow hkey]
    exact h.again hold
  · have hnew (row : Row) (hrow : row ∈ batch) : key row ∉ t.map key := fun hkey =>
      hold ((h.key_mem_iff hall hdone hb hrow).mp hkey)
    have hnodup := nodup_batch hall hb
    rw [if_pos ⟨hnodup, hnew⟩]
    exact h.append hnodup hnew

/-! ### Rows that are touched -/

/-- A row afterwards, if touching a row twice is touching it once. -/
theorem mem_upsert {touch : Row → Row} (hkey : ∀ r, key (touch r) = key r)
    (hidem : ∀ r, touch (touch r) = touch r) {row : Row} (hrow : touch row = row) {r : Row}
    (h : r ∈ upsert key touch t row) :
    touch r = r ∧ key r = key row ∨ r ∈ t ∧ key r ≠ key row := by
  unfold upsert at h
  split at h
  · obtain ⟨r', hr', rfl⟩ := List.mem_map.mp h
    by_cases heq : key r' = key row
    · rw [if_pos heq]
      exact Or.inl ⟨hidem r', (hkey r').trans heq⟩
    · rw [if_neg heq]
      exact Or.inr ⟨hr', heq⟩
  · next hnew =>
    rcases List.mem_append.mp h with hold | hlast
    · exact Or.inr ⟨hold, fun heq => hnew (heq ▸ List.mem_map_of_mem hold)⟩
    · obtain rfl := List.mem_singleton.mp hlast
      exact Or.inl ⟨hrow, rfl⟩

/-- What an INSERT names is touched, and the other rows are as before. -/
theorem mem_upsertAll {touch : Row → Row} (hkey : ∀ r, key (touch r) = key r)
    (hidem : ∀ r, touch (touch r) = touch r) {rows : List Row}
    (hrows : ∀ row ∈ rows, touch row = row) {r : Row} (h : r ∈ upsertAll key touch t rows) :
    touch r = r ∧ key r ∈ rows.map key ∨ r ∈ t ∧ key r ∉ rows.map key := by
  unfold upsertAll at h
  induction rows generalizing t with
  | nil => exact Or.inr ⟨h, List.not_mem_nil⟩
  | cons row rows ih =>
    obtain ⟨hrow, hrows⟩ := List.forall_mem_cons.mp hrows
    rw [List.map_cons, List.mem_cons]
    rcases ih hrows h with ⟨hfixed, hmem⟩ | ⟨hbefore, hnot⟩
    · exact Or.inl ⟨hfixed, Or.inr hmem⟩
    · rcases mem_upsert hkey hidem hrow hbefore with ⟨hfixed, heq⟩ | ⟨hold, hne⟩
      · exact Or.inl ⟨hfixed, Or.inl heq⟩
      · exact Or.inr ⟨hold, fun hmem => hmem.elim hne hnot⟩

theorem length_le_upsertAll (touch : Row → Row) (t rows : List Row) :
    t.length ≤ (upsertAll key touch t rows).length := by
  unfold upsertAll
  induction rows generalizing t with
  | nil => exact Nat.le_refl _
  | cons row rows ih =>
    have hstep : t.length ≤ (upsert key touch t row).length := by
      unfold upsert
      split <;> simp
    exact Nat.le_trans hstep (ih _)

section Touch

variable {Core : Type*} {coreKey : Core → Key} {core : Row → Core} {touch : Row → Row}

theorem map_upsert (hkey : ∀ row, key row = coreKey (core row))
    (htouch : ∀ row, core (touch row) = core row) (t : List Row) (row : Row) :
    (upsert key touch t row).map core =
      if coreKey (core row) ∈ (t.map core).map coreKey then t.map core
      else t.map core ++ [core row] := by
  have hkeys : t.map key = (t.map core).map coreKey := by
    rw [List.map_map]
    exact List.map_congr_left fun row _ => hkey row
  unfold upsert
  rw [hkeys, hkey]
  split
  · rw [List.map_map]
    refine List.map_congr_left fun r _ => ?_
    simp only [Function.comp_apply]
    split
    · exact htouch r
    · rfl
  · rw [List.map_append]
    rfl

/-- What is fixed of the rows, after a batch whose keys are there. -/
theorem map_upsertAll_old (hkey : ∀ row, key row = coreKey (core row))
    (htouch : ∀ row, core (touch row) = core row) {t rows : List Row}
    (hold : ∀ row ∈ rows, coreKey (core row) ∈ (t.map core).map coreKey) :
    (upsertAll key touch t rows).map core = t.map core := by
  unfold upsertAll
  induction rows generalizing t with
  | nil => rfl
  | cons row rows ih =>
    have hstep : (upsert key touch t row).map core = t.map core := by
      rw [map_upsert hkey htouch, if_pos (hold row List.mem_cons_self)]
    rw [List.foldl_cons, ih, hstep]
    intro row' hrow'
    rw [hstep]
    exact hold row' (List.mem_cons_of_mem _ hrow')

/-- And after one of which none is there. -/
theorem map_upsertAll_new (hkey : ∀ row, key row = coreKey (core row))
    (htouch : ∀ row, core (touch row) = core row) {t rows : List Row}
    (hnodup : ((rows.map core).map coreKey).Nodup)
    (hnew : ∀ row ∈ rows, coreKey (core row) ∉ (t.map core).map coreKey) :
    (upsertAll key touch t rows).map core = t.map core ++ rows.map core := by
  unfold upsertAll
  induction rows generalizing t with
  | nil => simp
  | cons row rows ih =>
    obtain ⟨hrow, hnodup⟩ := List.nodup_cons.mp hnodup
    have hstep : (upsert key touch t row).map core = t.map core ++ [core row] := by
      rw [map_upsert hkey htouch, if_neg (hnew row List.mem_cons_self)]
    rw [List.foldl_cons, ih hnodup, hstep]
    · simp
    · intro row' hrow' hmem
      rw [hstep, List.map_append, List.mem_append] at hmem
      rcases hmem with hmem | hmem
      · exact hnew row' (List.mem_cons_of_mem _ hrow') hmem
      · rw [List.map_singleton, List.mem_singleton] at hmem
        exact hrow (hmem ▸ List.mem_map_of_mem (List.mem_map_of_mem hrow'))

/-- An INSERT of a batch with a clause for the rows that are there. -/
theorem Filled.upsertAll {t rows : List Row} {done all : List (List Core)}
    (h : Filled coreKey (t.map core) done) (hkey : ∀ row, key row = coreKey (core row))
    (htouch : ∀ row, core (touch row) = core row) (hall : (all.flatten.map coreKey).Nodup)
    (hdone : ∀ b ∈ done, b ∈ all) (hb : rows.map core ∈ all) :
    Filled coreKey ((KeyedTable.upsertAll key touch t rows).map core)
      (done ++ [rows.map core]) := by
  have hiff (row : Row) (hrow : row ∈ rows) :=
    h.key_mem_iff hall hdone hb (@List.mem_map_of_mem _ _ _ _ core hrow)
  by_cases hold : rows.map core ∈ done
  · rw [map_upsertAll_old hkey htouch fun row hrow => (hiff row hrow).mpr hold]
    exact h.again hold
  · have hnodup := nodup_batch hall hb
    have hnew (row : Row) (hrow : row ∈ rows) : coreKey (core row) ∉ (t.map core).map coreKey :=
      fun hmem => hold ((hiff row hrow).mp hmem)
    rw [map_upsertAll_new hkey htouch hnodup hnew]
    refine h.append hnodup fun c hc => ?_
    obtain ⟨row, hrow, rfl⟩ := List.mem_map.mp hc
    exact hnew row hrow

end Touch

end KeyedTable
