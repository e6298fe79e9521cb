import CallCenter.Framework.CFormat

/-! # Reading a Text with `fgets`

    `while (fgets(line, n + 1, fp))` gives the body pieces of at most `n`
    bytes that end with a line or at `n` bytes.

    * `lines` splits a text into its lines, each with its line end; `cut n`
      cuts a line after every `n` bytes.
    * `readAll_eq`: the loop gives its body the pieces of the first line, then
      those of the second one, and so on. -/

namespace LineReader

open CFormat

/-! ## Section 1: Reading -/

/-- The next piece of a text, and what is left. -/
def fgets : Nat → CStr → CStr × CStr
  | n + 1, b :: rest =>
    if b = 10 then ([b], rest) else (b :: (fgets n rest).1, (fgets n rest).2)
  | _, rest => ([], rest)

theorem fgets_append (n : Nat) (text : CStr) : (fgets n text).1 ++ (fgets n text).2 = text := by
  induction n generalizing text with
  | zero => rfl
  | succ n ih =>
    cases text with
    | nil => rfl
    | cons b rest =>
      unfold fgets
      split
      · rfl
      · exact congrArg (b :: ·) (ih rest)

variable {σ : Type}

/-- The loop over the pieces. -/
def readAll (n : Nat) (step : σ → CStr → σ) (text : CStr) (s : σ) : σ :=
  if (fgets n text).1 = [] then s
  else readAll n step (fgets n text).2 (step s (fgets n text).1)
termination_by text.length
decreasing_by
  have hlength := congrArg List.length (fgets_append n text)
  have hpos := List.length_pos_iff.mpr ‹(fgets n text).1 ≠ []›
  rw [List.length_append] at hlength
  omega

/-! ## Section 2: Lines -/

/-- The lines of a text; the last one may have no line end. -/
def lines : CStr → List CStr
  | [] => []
  | b :: rest =>
    if b = 10 then [b] :: lines rest
    else
      match lines rest with
      | [] => [[b]]
      | line :: more => (b :: line) :: more

/-- A line, with its line end unless nothing follows. -/
structure LineBefore (line rest : CStr) : Prop where
  ne_nil : line ≠ []
  inner : 10 ∉ line.dropLast
  ends : line.getLast? = some 10 ∨ rest = []

theorem lines_append {line rest : CStr} (h : LineBefore line rest) :
    lines (line ++ rest) = line :: lines rest := by
  induction line with
  | nil => exact absurd rfl h.ne_nil
  | cons b line ih =>
    rw [List.cons_append, lines]
    cases line with
    | nil =>
      rcases h.ends with hlast | rfl
      · obtain rfl : b = 10 := Option.some.inj hlast
        rw [if_pos rfl]
        rfl
      · split <;> rfl
    | cons c line =>
      have hb : b ≠ 10 := by
        rintro rfl
        exact h.inner List.mem_cons_self
      have hrest : LineBefore (c :: line) rest := by
        refine ⟨List.cons_ne_nil _ _, fun hmem => h.inner ?_, h.ends⟩
        exact List.mem_cons_of_mem _ hmem
      rw [if_neg hb, ih hrest]

theorem exists_line {text : CStr} (htext : text ≠ []) :
    ∃ line rest, text = line ++ rest ∧ LineBefore line rest := by
  induction text with
  | nil => exact absurd rfl htext
  | cons b text ih =>
    by_cases hb : b = 10
    · exact ⟨[b], text, rfl, List.cons_ne_nil _ _, List.not_mem_nil, .inl (congrArg some hb)⟩
    · by_cases hnil : text = []
      · subst hnil
        exact ⟨[b], [], rfl, List.cons_ne_nil _ _, List.not_mem_nil, .inr rfl⟩
      · obtain ⟨line, rest, rfl, hline⟩ := ih hnil
        obtain ⟨c, line, rfl⟩ := List.exists_cons_of_ne_nil hline.ne_nil
        refine ⟨b :: c :: line, rest, rfl, List.cons_ne_nil _ _, ?_, hline.ends⟩
        intro hmem
        rcases List.mem_cons.mp hmem with h | h
        · exact hb h.symm
        · exact hline.inner h

/-- Lines from the front of a text are its first lines again. -/
theorem lines_flatten {front more : List CStr} {text : CStr} (h : lines text = front ++ more) :
    lines front.flatten = front := by
  induction front generalizing text with
  | nil => rfl
  | cons line front ih =>
    have htext : text ≠ [] := by
      rintro rfl
      cases h
    obtain ⟨line', rest, rfl, hline⟩ := exists_line htext
    rw [lines_append hline, List.cons_append] at h
    obtain ⟨rfl, hrest⟩ := List.cons.inj h
    have hbefore : LineBefore line' front.flatten := by
      refine ⟨hline.ne_nil, hline.inner, ?_⟩
      rcases hline.ends with hlast | rfl
      · exact .inl hlast
      · obtain ⟨rfl, -⟩ := List.append_eq_nil_iff.mp hrest.symm
        exact .inr rfl
    rw [List.flatten_cons, lines_append hbefore, ih hrest]

theorem flatten_lines (text : CStr) : (lines text).flatten = text := by
  induction text with
  | nil => rfl
  | cons b rest ih =>
    rw [lines]
    split
    · rw [List.flatten_cons, ih]
      rfl
    · cases hrest : lines rest with
      | nil =>
        rw [hrest] at ih
        rw [← ih]
        rfl
      | cons line more =>
        rw [hrest] at ih
        rw [← ih]
        rfl

/-! ## Section 3: Pieces -/

/-- A line, cut after every `n` bytes. -/
def cut (n : Nat) (line : CStr) : List CStr :=
  if line = [] ∨ n = 0 then [] else line.take n :: cut n (line.drop n)
termination_by line.length
decreasing_by
  have hline := not_or.mp ‹_›
  have hpos := List.length_pos_iff.mpr hline.1
  rw [List.length_drop]
  omega

variable {n : Nat} {line : CStr}

theorem cut_of_le (hne : line ≠ []) (hle : line.length ≤ n) : cut n line = [line] := by
  have hpos := List.length_pos_iff.mpr hne
  rw [cut, if_neg (by simp only [hne, false_or]; omega), List.take_of_length_le hle,
    List.drop_of_length_le hle, cut, if_pos (.inl rfl)]

theorem cut_of_lt (hn : 0 < n) (hlt : n < line.length) :
    cut n line = line.take n :: cut n (line.drop n) := by
  have hne : line ≠ [] := List.length_pos_iff.mp (by omega)
  rw [cut, if_neg (by simp only [hne, false_or]; omega)]

theorem flatten_cut (hn : 0 < n) (line : CStr) : (cut n line).flatten = line := by
  induction hlength : line.length using Nat.strong_induction_on generalizing line with
  | _ k ih =>
    subst hlength
    by_cases hne : line = []
    · subst hne
      rw [cut, if_pos (.inl rfl)]
      rfl
    · by_cases hle : line.length ≤ n
      · rw [cut_of_le hne hle, List.flatten_singleton]
      · rw [cut_of_lt hn (by omega), List.flatten_cons,
          ih _ (by rw [List.length_drop]; omega) _ rfl, List.take_append_drop]

theorem mem_cut {piece : CStr} (hpiece : piece ∈ cut n line) :
    piece ≠ [] ∧ piece.length ≤ n := by
  induction hlength : line.length using Nat.strong_induction_on generalizing line with
  | _ k ih =>
    subst hlength
    rw [cut] at hpiece
    split at hpiece
    · cases hpiece
    · next hline =>
      have hpos := List.length_pos_iff.mpr (not_or.mp hline).1
      rcases List.mem_cons.mp hpiece with rfl | hmore
      · rw [← List.length_pos_iff, List.length_take]
        omega
      · exact ih _ (by rw [List.length_drop]; omega) hmore rfl

theorem LineBefore.drop {rest : CStr} (h : LineBefore line rest) (hlt : n < line.length) :
    LineBefore (line.drop n) rest where
  ne_nil := by
    rw [← List.length_pos_iff, List.length_drop]
    omega
  inner := by
    intro hmem
    apply h.inner
    rw [List.dropLast_eq_take, List.length_drop, Nat.sub_right_comm, ← List.drop_take] at hmem
    rw [List.dropLast_eq_take]
    exact List.mem_of_mem_drop hmem
  ends := by
    rw [List.getLast?_drop, if_neg (by omega)]
    exact h.ends

/-! ## Section 4: The loop -/

theorem fgets_line {rest : CStr} (h : LineBefore line rest) :
    fgets n (line ++ rest) =
      if line.length ≤ n then (line, rest) else (line.take n, line.drop n ++ rest) := by
  induction line generalizing n with
  | nil => exact absurd rfl h.ne_nil
  | cons b line ih =>
    cases n with
    | zero => rfl
    | succ n =>
      cases line with
      | nil =>
        rw [if_pos (by simp)]
        rcases h.ends with hlast | rfl
        · obtain rfl : b = 10 := Option.some.inj hlast
          rfl
        · by_cases hb : b = 10
          · subst hb
            rfl
          · cases n <;> simp [fgets, hb]
      | cons c line =>
        have hb : b ≠ 10 := by
          rintro rfl
          exact h.inner List.mem_cons_self
        have hrest : LineBefore (c :: line) rest := by
          refine ⟨List.cons_ne_nil _ _, fun hmem => h.inner ?_, h.ends⟩
          exact List.mem_cons_of_mem _ hmem
        rw [List.cons_append, fgets, if_neg hb, ih hrest]
        by_cases hle : (c :: line).length ≤ n
        · rw [if_pos hle, if_pos (by simpa using hle)]
        · rw [if_neg hle, if_neg (by simpa using hle)]
          rfl

/-- **The loop** runs over the pieces of one line after the other. -/
theorem readAll_eq (hn : 0 < n) (step : σ → CStr → σ) (text : CStr) (s : σ) :
    readAll n step text s = (lines text).foldl (fun s line => (cut n line).foldl step s) s := by
  induction hlength : text.length using Nat.strong_induction_on generalizing text s with
  | _ k ih =>
    subst hlength
    by_cases htext : text = []
    · subst htext
      have hnil : (fgets n []).1 = [] := by cases n <;> rfl
      rw [readAll, if_pos hnil]
      rfl
    · obtain ⟨line, rest, rfl, hline⟩ := exists_line htext
      have hpos := List.length_pos_iff.mpr hline.ne_nil
      rw [readAll, fgets_line hline, lines_append hline, List.foldl_cons]
      by_cases hle : line.length ≤ n
      · have hshorter : rest.length < (line ++ rest).length := by
          rw [List.length_append]
          omega
        rw [if_pos hle, if_neg hline.ne_nil, ih _ hshorter _ _ rfl, cut_of_le hline.ne_nil hle]
        rfl
      -- a piece without the line end: the rest of the line comes next
      · have hlt : n < line.length := by omega
        have htake : line.take n ≠ [] := by
          rw [← List.length_pos_iff, List.length_take]
          omega
        have hshorter : (line.drop n ++ rest).length < (line ++ rest).length := by
          rw [List.length_append, List.length_append, List.length_drop]
          omega
        rw [if_neg hle, if_neg htake, ih _ hshorter _ _ rfl, lines_append (hline.drop hlt),
          cut_of_lt hn hlt]
        rfl

end LineReader
