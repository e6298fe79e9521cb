import CallCenter.Framework.SqlText

/-! # The Rows of an INSERT

    How MySQL reads the list of rows behind VALUES, on the tokens of
    `SqlText`.

    * `readRows` takes the values of each row; a number and a literal of the
      same bytes are the same value.
    * `valuesParts` prints rows, and `insertedRows_render` says that what is
      printed behind a header is read again. -/

namespace SqlText

open CFormat

/-! ## Section 1: Reading -/

/-- The rows, up to the first byte that belongs to none.  Inside a row: the
    values before, and the bytes of the present one. -/
def readRows : Option (List CStr × CStr) → List SqlToken → List (List CStr)
  | none, .byte 40 :: rest => readRows (some ([], [])) rest
  | none, .byte 44 :: rest => readRows none rest
  | none, _ => []
  | some (values, value), .byte 44 :: rest => readRows (some (values ++ [value], [])) rest
  | some (values, value), .byte 41 :: rest => (values ++ [value]) :: readRows none rest
  | some (values, value), .byte b :: rest => readRows (some (values, value ++ [b])) rest
  | some (values, value), .literal s :: rest => readRows (some (values, value ++ s)) rest
  | some _, [] => []

/-- The rows between a header and a clause, if the text has both. -/
def insertedRows (header : CStr) (clause : List SqlToken) (text : CStr) :
    Option (List (List CStr)) :=
  (lex text).bind fun ts =>
    if header.map .byte <+: ts ∧ clause <:+ ts then some (readRows none (ts.drop header.length))
    else none

/-! ## Section 2: Writing -/

inductive SqlValue where
  | string (s : CStr)
  | int (v : Int32)
  deriving DecidableEq, Repr

def SqlValue.part : SqlValue → SqlPart
  | .string s => .literal s
  | .int v => .int v

/-- The bytes that the server takes for the value. -/
def SqlValue.text : SqlValue → CStr
  | .string s => s
  | .int v => intText v

/-- Values with commas between them. -/
def valueParts : List SqlValue → List SqlPart
  | [] => []
  | [v] => [v.part]
  | v :: rest => v.part :: .text [44] :: valueParts rest

def rowParts (row : List SqlValue) : List SqlPart :=
  .text [40] :: (valueParts row ++ [.text [41]])

/-- Rows with commas between them. -/
def valuesParts : List (List SqlValue) → List SqlPart
  | [] => []
  | [row] => rowParts row
  | row :: rest => rowParts row ++ .text [44] :: valuesParts rest

theorem render_append (parts parts' : List SqlPart) :
    render (parts ++ parts') = render parts ++ render parts' := List.flatMap_append

theorem render_valuesParts (rows : List (List SqlValue)) :
    render (valuesParts rows) = [44].intercalate (rows.map fun row => render (rowParts row)) := by
  induction rows with
  | nil => rfl
  | cons row rows ih =>
    cases rows with
    | nil => simp [valuesParts]
    | cons next rows =>
      have hparts : valuesParts (row :: next :: rows) =
          rowParts row ++ .text [44] :: valuesParts (next :: rows) := rfl
      rw [hparts, render_append, render_cons, ih]
      simp [List.intercalate, SqlPart.render]

/-! ## Section 3: Reading what was written -/

theorem tokens_append (parts parts' : List SqlPart) :
    tokens (parts ++ parts') = tokens parts ++ tokens parts' := List.flatMap_append

theorem literals_append (parts parts' : List SqlPart) :
    literals (parts ++ parts') = literals parts ++ literals parts' := List.filterMap_append

theorem readRows_bytes {s : CStr} (hcomma : 44 ∉ s) (hclose : 41 ∉ s) (values : List CStr)
    (value : CStr) (rest : List SqlToken) :
    readRows (some (values, value)) (s.map .byte ++ rest) =
      readRows (some (values, value ++ s)) rest := by
  induction s generalizing value with
  | nil => simp
  | cons b s ih =>
    obtain ⟨hb, hcomma⟩ := not_or.mp (mt List.mem_cons.mpr hcomma)
    obtain ⟨hb', hclose⟩ := not_or.mp (mt List.mem_cons.mpr hclose)
    have hcons : readRows (some (values, value)) (.byte b :: (s.map .byte ++ rest)) =
        readRows (some (values, value ++ [b])) (s.map .byte ++ rest) :=
      readRows.eq_6 values value b _ (fun h => hb h.symm) fun h => hb' h.symm
    rw [List.map_cons, List.cons_append, hcons, ih hcomma hclose, List.append_assoc]
    rfl

theorem readRows_value (v : SqlValue) (values : List CStr) (rest : List SqlToken) :
    readRows (some (values, [])) (v.part.tokens ++ rest) =
      readRows (some (values, v.text)) rest := by
  cases v with
  | string s => rfl
  | int n =>
    have hno {b : UInt8} (hminus : b ≠ 45) (hdigit : isDigit b = false) : b ∉ intText n := by
      intro hb
      rcases mem_intText hb with heq | hb
      · exact hminus heq
      · rw [hdigit] at hb
        cases hb
    exact readRows_bytes (hno (by decide) (by decide)) (hno (by decide) (by decide)) values [] rest

/-- The values of a row, behind those that are read. -/
theorem readRows_values (v : SqlValue) (row : List SqlValue) (values : List CStr)
    (rest : List SqlToken) :
    readRows (some (values, [])) (tokens (valueParts (v :: row)) ++ .byte 41 :: rest) =
      (values ++ (v :: row).map SqlValue.text) :: readRows none rest := by
  induction row generalizing v values with
  | nil =>
    have hone : tokens (valueParts [v]) = v.part.tokens := List.append_nil _
    rw [hone, readRows_value]
    rfl
  | cons w row ih =>
    have hcons : tokens (valueParts (v :: w :: row)) =
        v.part.tokens ++ .byte 44 :: tokens (valueParts (w :: row)) := rfl
    have hcomma : readRows (some (values, v.text))
        (.byte 44 :: (tokens (valueParts (w :: row)) ++ .byte 41 :: rest)) =
      readRows (some (values ++ [v.text], []))
        (tokens (valueParts (w :: row)) ++ .byte 41 :: rest) := rfl
    rw [hcons, List.append_assoc, List.cons_append, readRows_value, hcomma, ih, List.append_assoc]
    rfl

theorem readRows_row {row : List SqlValue} (hrow : row ≠ []) (rest : List SqlToken) :
    readRows none (tokens (rowParts row) ++ rest) =
      row.map SqlValue.text :: readRows none rest := by
  cases row with
  | nil => exact absurd rfl hrow
  | cons v row =>
    have hparts : tokens (rowParts (v :: row)) ++ rest =
        .byte 40 :: (tokens (valueParts (v :: row)) ++ .byte 41 :: rest) := by
      unfold rowParts
      rw [tokens_cons, tokens_append, List.append_assoc, List.append_assoc]
      rfl
    have hopen : readRows none (.byte 40 :: (tokens (valueParts (v :: row)) ++ .byte 41 :: rest)) =
        readRows (some ([], [])) (tokens (valueParts (v :: row)) ++ .byte 41 :: rest) := rfl
    rw [hparts, hopen, readRows_values, List.nil_append]

theorem readRows_rows {rows : List (List SqlValue)} (hrows : ∀ row ∈ rows, row ≠ [])
    (rest : List SqlToken) :
    readRows none (tokens (valuesParts rows) ++ rest) =
      rows.map (List.map SqlValue.text) ++ readRows none rest := by
  induction rows with
  | nil => rfl
  | cons row rows ih =>
    obtain ⟨hrow, hrows⟩ := List.forall_mem_cons.mp hrows
    cases rows with
    | nil => exact readRows_row hrow rest
    | cons next rows =>
      have hparts : valuesParts (row :: next :: rows) =
          rowParts row ++ .text [44] :: valuesParts (next :: rows) := rfl
      have hcomma : readRows none
          (tokens (.text [44] :: valuesParts (next :: rows)) ++ rest) =
          readRows none (tokens (valuesParts (next :: rows)) ++ rest) := rfl
      rw [hparts, tokens_append, List.append_assoc, readRows_row hrow, hcomma, ih hrows]
      rfl

/-! ### What is printed is well formed -/

theorem wellFormed_values {tail : List SqlPart} (htail : WellFormed tail)
    (hhead : (render tail).head? ≠ some 39) (row : List SqlValue) :
    WellFormed (valueParts row ++ tail) := by
  induction row with
  | nil => exact htail
  | cons v row ih =>
    cases row with
    | nil =>
      cases v with
      | string s => exact ⟨hhead, htail⟩
      | int n => exact htail
    | cons w row =>
      have hcomma : WellFormed (.text [44] :: (valueParts (w :: row) ++ tail)) :=
        ⟨by decide, ih⟩
      cases v with
      | string s => exact ⟨nofun, hcomma⟩
      | int n => exact hcomma

theorem wellFormed_row {tail : List SqlPart} (htail : WellFormed tail) (row : List SqlValue) :
    WellFormed (rowParts row ++ tail) := by
  have hparts : rowParts row ++ tail = .text [40] :: (valueParts row ++ .text [41] :: tail) := by
    simp [rowParts]
  have hclose : WellFormed (.text [41] :: tail) := ⟨by decide, htail⟩
  have hhead : (render (.text [41] :: tail)).head? ≠ some 39 := by
    simp [SqlPart.render]
  rw [hparts]
  exact ⟨by decide, wellFormed_values hclose hhead row⟩

theorem wellFormed_rows {tail : List SqlPart} (htail : WellFormed tail)
    (rows : List (List SqlValue)) : WellFormed (valuesParts rows ++ tail) := by
  induction rows with
  | nil => exact htail
  | cons row rows ih =>
    cases rows with
    | nil => exact wellFormed_row htail row
    | cons next rows =>
      have hparts : valuesParts (row :: next :: rows) ++ tail =
          rowParts row ++ .text [44] :: (valuesParts (next :: rows) ++ tail) := by
        simp [valuesParts]
      have hcomma : WellFormed (.text [44] :: (valuesParts (next :: rows) ++ tail)) :=
        ⟨by decide, ih⟩
      rw [hparts]
      exact wellFormed_row hcomma row

theorem literals_values {row : List SqlValue} {s : CStr} (h : s ∈ literals (valueParts row)) :
    SqlValue.string s ∈ row := by
  induction row with
  | nil => cases h
  | cons v row ih =>
    cases row with
    | nil =>
      cases v with
      | string t =>
        obtain rfl := List.mem_singleton.mp h
        exact List.mem_cons_self
      | int n => cases h
    | cons w row =>
      cases v with
      | string t =>
        rcases List.mem_cons.mp h with rfl | h
        · exact List.mem_cons_self
        · exact List.mem_cons_of_mem _ (ih h)
      | int n => exact List.mem_cons_of_mem _ (ih h)

theorem literals_rows {rows : List (List SqlValue)} {s : CStr}
    (h : s ∈ literals (valuesParts rows)) : ∃ row ∈ rows, SqlValue.string s ∈ row := by
  have hrowParts {row : List SqlValue} (h : s ∈ literals (rowParts row)) :
      SqlValue.string s ∈ row := by
    have hparts : literals (rowParts row) = literals (valueParts row) := by
      unfold rowParts
      rw [← List.singleton_append, literals_append, literals_append]
      exact List.append_nil _
    rw [hparts] at h
    exact literals_values h
  induction rows with
  | nil => cases h
  | cons row rows ih =>
    cases rows with
    | nil => exact ⟨row, List.mem_cons_self, hrowParts h⟩
    | cons next rows =>
      have hparts : literals (valuesParts (row :: next :: rows)) =
          literals (rowParts row) ++ literals (valuesParts (next :: rows)) :=
        literals_append _ _
      rw [hparts, List.mem_append] at h
      rcases h with h | h
      · exact ⟨row, List.mem_cons_self, hrowParts h⟩
      · obtain ⟨row', hrow', hs⟩ := ih h
        exact ⟨row', List.mem_cons_of_mem _ hrow', hs⟩

/-- Bytes of which none is a quote or a backslash. -/
theorem plain_of_notMem {s : CStr} (hquote : 39 ∉ s) (hbackslash : 92 ∉ s) : plain s = true := by
  induction s with
  | nil => rfl
  | cons b s ih =>
    obtain ⟨hb, hquote⟩ := not_or.mp (mt List.mem_cons.mpr hquote)
    obtain ⟨hb', hbackslash⟩ := not_or.mp (mt List.mem_cons.mpr hbackslash)
    rw [← List.singleton_append, plain_append (plain_singleton (Ne.symm hb) (Ne.symm hb'))]
    exact ih hquote hbackslash

/-- **The rows of an INSERT** whose strings are plain are read as they are
    meant. -/
theorem insertedRows_render {header : CStr} (hheader : 39 ∉ header) {clause : List SqlPart}
    (hclause : WellFormed clause) (hclausePlain : ∀ s ∈ literals clause, plain s = true)
    (hstop : readRows none (tokens clause) = []) {rows : List (List SqlValue)}
    (hrows : ∀ row ∈ rows, row ≠ [])
    (hplain : ∀ row ∈ rows, ∀ s, SqlValue.string s ∈ row → plain s = true) :
    insertedRows header (tokens clause)
        (render (.text header :: (valuesParts rows ++ clause))) =
      some (rows.map (List.map SqlValue.text)) := by
  have hwf : WellFormed (.text header :: (valuesParts rows ++ clause)) :=
    ⟨hheader, wellFormed_rows hclause rows⟩
  have hliterals : ∀ s ∈ literals (.text header :: (valuesParts rows ++ clause)),
      plain s = true := by
    intro s hs
    rw [← List.singleton_append, literals_append, literals_append] at hs
    rcases List.mem_append.mp hs with hs | hs
    · cases hs
    rcases List.mem_append.mp hs with hs | hs
    · obtain ⟨row, hrow, hs⟩ := literals_rows hs
      exact hplain row hrow s hs
    · exact hclausePlain s hs
  have htokens : tokens (.text header :: (valuesParts rows ++ clause)) =
      header.map .byte ++ (tokens (valuesParts rows) ++ tokens clause) := by
    rw [tokens_cons, tokens_append]
    rfl
  have hdrop : (header.map SqlToken.byte ++ (tokens (valuesParts rows) ++ tokens clause)).drop
      header.length = tokens (valuesParts rows) ++ tokens clause :=
    List.drop_left' (List.length_map _)
  have hsuffix : tokens clause <:+
      header.map .byte ++ (tokens (valuesParts rows) ++ tokens clause) := by
    rw [← List.append_assoc]
    exact List.suffix_append _ _
  unfold insertedRows
  rw [lex_render hwf hliterals, Option.bind_some, htokens,
    if_pos ⟨List.prefix_append _ _, hsuffix⟩, hdrop, readRows_rows hrows, hstop, List.append_nil]

/-- A text with another header has no rows. -/
theorem insertedRows_other {header header' : CStr} (hne : ¬ header <+: header')
    (hne' : ¬ header' <+: header) (clause clause' : List SqlToken) {text : CStr}
    {rows : List (List CStr)} (h : insertedRows header clause text = some rows) :
    insertedRows header' clause' text = none := by
  have hinj : Function.Injective SqlToken.byte := fun _ _ => SqlToken.byte.inj
  obtain ⟨ts, hts, hrows⟩ := Option.bind_eq_some_iff.mp h
  have hprefix : header.map .byte <+: ts := by
    by_contra hnot
    rw [if_neg fun hboth => hnot hboth.1] at hrows
    cases hrows
  unfold insertedRows
  rw [hts, Option.bind_some, if_neg]
  rintro ⟨hprefix', -⟩
  rcases List.prefix_or_prefix_of_prefix hprefix hprefix' with hle | hle
  · exact hne ((List.prefix_map_iff_of_injective hinj).mp hle)
  · exact hne' ((List.prefix_map_iff_of_injective hinj).mp hle)

end SqlText
