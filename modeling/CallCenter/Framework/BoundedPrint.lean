import CallCenter.Framework.CFormat

/-! # Printing Text by Text into a Buffer

    `offset += snprintf(buf + offset, (size_t)(size - offset), …)`, repeated.
    `snprintf` returns the length of the whole text, also if it has cut it.

    * `inside_printAll_iff`: all calls stay inside the buffer exactly if the
      texts before the last one are together shorter than the buffer.
    * `holds_printAll`: then the buffer holds what one `snprintf` of all texts
      would have left in it. -/

namespace BoundedPrint

open CFormat

/-! ## Section 1: Calls -/

/-- `(size_t)n` -/
def sizeT (n : Int) : Nat := (n % 2 ^ 64).toNat

/-- `snprintf(buf + offset, size, …)` with the text that the format makes. -/
structure Call where
  offset : Int
  size : Nat
  text : CStr
  deriving DecidableEq, Repr

/-- The bytes that are written from `buf + offset` on. -/
def Call.written (c : Call) : CStr := if c.size = 0 then [] else snprintf c.size c.text ++ [0]

/-- The byte at `buf + i` is written. -/
def Call.Writes (c : Call) (i : Int) : Prop :=
  c.offset ≤ i ∧ i < c.offset + c.written.length

/-- The memory around the buffer after the call; address 0 is `buf`. -/
def Call.store (mem : Int → UInt8) (c : Call) : Int → UInt8 := fun i =>
  if c.offset ≤ i then (c.written[(i - c.offset).toNat]?).getD (mem i) else mem i

/-- The call is made with the room that is left, and writes nowhere else. -/
structure Call.Inside (resultSize : Int) (c : Call) : Prop where
  offset_lt : c.offset < resultSize
  size_eq : (c.size : Int) = resultSize - c.offset
  writes : ∀ i, c.Writes i → 0 ≤ i ∧ i < resultSize

theorem Call.inside_def {resultSize : Int} {c : Call} :
    c.Inside resultSize ↔ c.offset < resultSize ∧ (c.size : Int) = resultSize - c.offset ∧
      (c.written = [] ∨ 0 ≤ c.offset ∧ c.offset + c.written.length ≤ resultSize) := by
  constructor
  · rintro ⟨hlt, hsize, hwrites⟩
    refine ⟨hlt, hsize, ?_⟩
    by_cases hnil : c.written = []
    · exact .inl hnil
    · have hpos := List.length_pos_iff.mpr hnil
      have hfirst := hwrites c.offset ⟨by omega, by omega⟩
      have hlast := hwrites (c.offset + c.written.length - 1) ⟨by omega, by omega⟩
      exact .inr ⟨hfirst.1, by omega⟩
  · rintro ⟨hlt, hsize, hnil | ⟨hlo, hhi⟩⟩
    · refine ⟨hlt, hsize, ?_⟩
      rintro i ⟨hlo, hhi⟩
      rw [hnil, List.length_nil] at hhi
      omega
    · refine ⟨hlt, hsize, ?_⟩
      rintro i ⟨hi, hi'⟩
      omega

instance (resultSize : Int) (c : Call) : Decidable (c.Inside resultSize) :=
  decidable_of_iff' _ Call.inside_def

/-- The offset and the calls so far. -/
structure Cursor where
  offset : Int
  calls : List Call

def Cursor.start : Cursor := ⟨0, []⟩

def Cursor.print (resultSize : Int) (c : Cursor) (text : CStr) : Cursor where
  offset := c.offset + text.length
  calls := c.calls ++ [⟨c.offset, sizeT (resultSize - c.offset), text⟩]

def Cursor.printAll (resultSize : Int) (c : Cursor) (texts : List CStr) : Cursor :=
  texts.foldl (Cursor.print resultSize) c

@[simp] theorem printAll_nil (resultSize : Int) (c : Cursor) : c.printAll resultSize [] = c := rfl

@[simp] theorem printAll_cons (resultSize : Int) (c : Cursor) (text : CStr) (texts : List CStr) :
    c.printAll resultSize (text :: texts) = (c.print resultSize text).printAll resultSize texts :=
  rfl

theorem printAll_append (resultSize : Int) (c : Cursor) (texts texts' : List CStr) :
    c.printAll resultSize (texts ++ texts') =
      (c.printAll resultSize texts).printAll resultSize texts' := List.foldl_append

/-- A loop that prints the separator before every text but the first. -/
theorem intersperse_cons {α : Type} (sep x : α) (xs : List α) :
    (x :: xs).intersperse sep = x :: xs.flatMap fun y => [sep, y] := by
  induction xs generalizing x with
  | nil => rfl
  | cons y ys ih =>
    rw [List.intersperse_cons_cons, ih, List.flatMap_cons]
    rfl

/-! ## Section 2: Staying inside -/

variable {resultSize : Int}

theorem length_written_le (c : Call) : c.written.length ≤ c.size := by
  unfold Call.written
  split
  · exact Nat.zero_le _
  · rw [List.length_append, snprintf, List.length_take, List.length_singleton]
    omega

theorem sizeT_of_nonneg {n : Int} (hlo : 0 ≤ n) (hhi : n < 2 ^ 64) : (sizeT n : Int) = n := by
  unfold sizeT
  rw [Int.emod_eq_of_lt hlo hhi, Int.toNat_of_nonneg hlo]

theorem inside_iff (hsize : resultSize < 2 ^ 64) {offset : Int} (hoffset : 0 ≤ offset)
    (text : CStr) :
    Call.Inside resultSize ⟨offset, sizeT (resultSize - offset), text⟩ ↔ offset < resultSize := by
  constructor
  · exact fun h => h.offset_lt
  · intro hlt
    have hroom := sizeT_of_nonneg (n := resultSize - offset) (by omega) (by omega)
    refine ⟨hlt, hroom, ?_⟩
    rintro i ⟨hlo, hhi⟩
    have hle := length_written_le ⟨offset, sizeT (resultSize - offset), text⟩
    dsimp only at hlo hhi hle
    omega

/-- The offset of the last call is the length of the texts before it, and it
    is the greatest one. -/
theorem inside_printAll_iff (hsize : resultSize < 2 ^ 64) {c : Cursor} (hoffset : 0 ≤ c.offset)
    {texts : List CStr} (htexts : texts ≠ []) :
    (∀ call ∈ (c.printAll resultSize texts).calls, call.Inside resultSize) ↔
      (∀ call ∈ c.calls, call.Inside resultSize) ∧
        c.offset + texts.dropLast.flatten.length < resultSize := by
  induction texts generalizing c with
  | nil => exact absurd rfl htexts
  | cons text texts ih =>
    have hcalls : (∀ call ∈ (c.print resultSize text).calls, call.Inside resultSize) ↔
        (∀ call ∈ c.calls, call.Inside resultSize) ∧ c.offset < resultSize := by
      unfold Cursor.print
      rw [List.forall_mem_append, List.forall_mem_singleton, inside_iff hsize hoffset]
    cases texts with
    | nil =>
      rw [printAll_cons, printAll_nil, hcalls]
      simp
    | cons text' texts =>
      rw [printAll_cons, ih (by simp only [Cursor.print]; omega) (List.cons_ne_nil _ _), hcalls,
        List.dropLast_cons_of_ne_nil (List.cons_ne_nil _ _), List.flatten_cons,
        List.length_append, Cursor.print]
      push_cast
      constructor
      · rintro ⟨⟨hbefore, -⟩, hlt⟩
        exact ⟨hbefore, by omega⟩
      · rintro ⟨hbefore, hlt⟩
        exact ⟨⟨hbefore, by omega⟩, by omega⟩

/-- A run that ends with a text of one byte: all of it but the NUL has room. -/
theorem inside_closed_iff (hsize : resultSize < 2 ^ 64) (texts : List CStr) {last : CStr}
    (hlast : last.length = 1) :
    (∀ call ∈ (Cursor.start.printAll resultSize (texts ++ [last])).calls,
      call.Inside resultSize) ↔ (texts.flatten ++ last).length ≤ resultSize := by
  rw [inside_printAll_iff hsize (Int.le_refl 0) (by simp), List.dropLast_concat,
    List.length_append, hlast]
  have hzero : Cursor.start.offset = 0 := rfl
  rw [hzero]
  constructor
  · rintro ⟨-, hlt⟩
    omega
  · intro hle
    exact ⟨nofun, by omega⟩

/-! ## Section 3: What the buffer holds -/

/-- The bytes at `buf + offset`. -/
def BytesAt (mem : Int → UInt8) (offset : Int) (bytes : CStr) : Prop :=
  ∀ k : Nat, k < bytes.length → bytes[k]? = some (mem (offset + k))

/-- The buffer holds a text as `snprintf` leaves it. -/
def Holds (resultSize : Nat) (mem : Int → UInt8) (text : CStr) : Prop :=
  BytesAt mem 0 (snprintf resultSize text ++ [0])

theorem bytesAt_nil (mem : Int → UInt8) (offset : Int) : BytesAt mem offset [] :=
  fun _ hk => absurd hk (Nat.not_lt_zero _)

theorem BytesAt.append {mem : Int → UInt8} {s t : CStr} (hs : BytesAt mem 0 s)
    (ht : BytesAt mem s.length t) : BytesAt mem 0 (s ++ t) := by
  intro k hk
  by_cases hlt : k < s.length
  · rw [List.getElem?_append_left hlt]
    exact hs k hlt
  · rw [List.length_append] at hk
    rw [List.getElem?_append_right (by omega), ht (k - s.length) (by omega)]
    congr 2
    omega

theorem BytesAt.of_append {mem : Int → UInt8} {s t : CStr} (h : BytesAt mem 0 (s ++ t)) :
    BytesAt mem 0 s := by
  intro k hk
  rw [← h k (by rw [List.length_append]; omega), List.getElem?_append_left hk]

theorem bytesAt_store (mem : Int → UInt8) (c : Call) :
    BytesAt (c.store mem) c.offset c.written := by
  intro k hk
  unfold Call.store
  rw [if_pos (by omega), show (c.offset + k - c.offset).toNat = k by omega,
    List.getElem?_eq_getElem hk]
  rfl

theorem store_before {mem : Int → UInt8} {c : Call} {i : Int} (hi : i < c.offset) :
    c.store mem i = mem i := if_neg (by omega)

theorem snprintf_append {size : Nat} {s : CStr} (hs : s.length < size) (t : CStr) :
    snprintf size (s ++ t) = s ++ snprintf (size - s.length) t := by
  unfold snprintf
  rw [List.take_append, List.take_of_length_le (by omega), Nat.sub_right_comm]

/-- A call behind a text that fits. -/
theorem holds_store {size : Nat} (hsize : size < 2 ^ 64) {mem : Int → UInt8} {s : CStr}
    (hs : BytesAt mem 0 s) (hlt : s.length < size) (t : CStr) :
    Holds size (Call.store mem ⟨s.length, sizeT (size - s.length), t⟩) (s ++ t) := by
  have hroom : sizeT ((size : Int) - s.length) = size - s.length := by
    have h := sizeT_of_nonneg (n := (size : Int) - s.length) (by omega) (by omega)
    omega
  have hwritten : Call.written ⟨s.length, sizeT (size - s.length), t⟩ =
      snprintf (size - s.length) t ++ [0] := by
    unfold Call.written
    dsimp only
    rw [hroom, if_neg (by omega)]
  unfold Holds
  rw [snprintf_append hlt, List.append_assoc, ← hwritten]
  apply BytesAt.append
  · intro k hk
    rw [hs k hk, store_before (by dsimp only; omega)]
  · exact bytesAt_store mem _

/-- The texts together, as one `snprintf` would print them. -/
theorem holds_printAll {size : Nat} (hsize : size < 2 ^ 64) {mem : Int → UInt8} {c : Cursor}
    {s : CStr} (hoffset : c.offset = s.length) (hs : BytesAt (c.calls.foldl Call.store mem) 0 s)
    {texts : List CStr} (htexts : texts ≠ [])
    (hfit : s.length + texts.dropLast.flatten.length < size) :
    Holds size ((c.printAll size texts).calls.foldl Call.store mem) (s ++ texts.flatten) := by
  induction texts generalizing c s with
  | nil => exact absurd rfl htexts
  | cons text texts ih =>
    have hnext : Holds size ((c.print size text).calls.foldl Call.store mem) (s ++ text) := by
      unfold Cursor.print
      rw [List.foldl_append, hoffset]
      exact holds_store hsize hs (by omega) text
    cases texts with
    | nil => simpa using hnext
    | cons text' texts =>
      rw [List.dropLast_cons_of_ne_nil (List.cons_ne_nil _ _), List.flatten_cons,
        List.length_append] at hfit
      rw [printAll_cons, List.flatten_cons, ← List.append_assoc]
      have hlength : (s ++ text).length < size := by
        rw [List.length_append]
        omega
      apply ih (by simp [Cursor.print, hoffset]) _ (List.cons_ne_nil _ _)
      · rw [List.length_append]
        omega
      -- a text that fits stands in the buffer as it is
      · unfold Holds at hnext
        rw [snprintf_fits hlength] at hnext
        exact hnext.of_append

theorem offset_printAll (c : Cursor) (texts : List CStr) :
    (c.printAll resultSize texts).offset = c.offset + texts.flatten.length := by
  induction texts generalizing c with
  | nil => simp
  | cons text texts ih =>
    rw [printAll_cons, ih, List.flatten_cons, List.length_append]
    simp only [Cursor.print]
    push_cast
    omega

/-- The first `offset` bytes of the buffer, which held `mem` before. -/
def Cursor.printed (c : Cursor) (mem : Int → UInt8) : CStr :=
  (List.range c.offset.toNat).map fun i : Nat => c.calls.foldl Call.store mem i

theorem length_dropLast_flatten_le (texts : List CStr) :
    texts.dropLast.flatten.length ≤ texts.flatten.length := by
  rcases List.eq_nil_or_concat' texts with rfl | ⟨front, last, rfl⟩
  · exact Nat.le_refl _
  · rw [List.dropLast_concat, List.flatten_append, List.length_append]
    exact Nat.le_add_right _ _

/-- Texts that fit stand in the buffer one behind the other. -/
theorem printed_printAll {size : Nat} (hsize : size < 2 ^ 64) (mem : Int → UInt8)
    {texts : List CStr} (htexts : texts ≠ []) (hfit : texts.flatten.length < size) :
    (Cursor.start.printAll size texts).printed mem = texts.flatten := by
  have hlast := length_dropLast_flatten_le texts
  have hholds := holds_printAll hsize (c := Cursor.start) (s := []) rfl (bytesAt_nil mem 0) htexts
    (by rw [List.length_nil]; omega)
  rw [List.nil_append, Holds, snprintf_fits hfit] at hholds
  have hbytes := hholds.of_append
  have hoffset : (Cursor.start.printAll size texts).offset = texts.flatten.length := by
    rw [offset_printAll]
    exact Int.zero_add _
  unfold Cursor.printed
  rw [hoffset, Int.toNat_natCast]
  apply List.ext_getElem?
  intro k
  rw [List.getElem?_map]
  by_cases hk : k < texts.flatten.length
  · rw [List.getElem?_range hk, Option.map_some, hbytes k hk, Int.zero_add]
  · rw [List.getElem?_eq_none (by rw [List.length_range]; omega),
      List.getElem?_eq_none (by omega)]
    rfl

theorem holds_closed {size : Nat} (hsize : size < 2 ^ 64) (mem : Int → UInt8)
    {texts : List CStr} {last : CStr} (hlast : last.length = 1)
    (hfit : (texts.flatten ++ last).length ≤ size) :
    Holds size ((Cursor.start.printAll size (texts ++ [last])).calls.foldl Call.store mem)
      (texts.flatten ++ last) := by
  have hflatten : texts.flatten ++ last = [] ++ (texts ++ [last]).flatten := by simp
  rw [hflatten]
  apply holds_printAll hsize rfl (bytesAt_nil _ _) (by simp)
  rw [List.dropLast_concat, List.length_nil]
  rw [List.length_append, hlast] at hfit
  omega

end BoundedPrint
