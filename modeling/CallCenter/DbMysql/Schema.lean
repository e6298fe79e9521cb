import CallCenter.DbMysql.Statements
import CallCenter.Framework.CMemory
import CallCenter.Framework.LineReader

/-! # `db_mysql_init_schema`

    The schema file is read with `fgets` into a buffer of `DB_MAX_SQL_LEN`
    bytes, and each piece is looked at as if it were a line.  The pieces of a
    statement are collected in a buffer four times as long.

    * `Progress`: the statements of a file as its lines make them up.
    * `schema_iff`: the files whose statements are collected like that. -/

namespace DbMysql.Schema

open CFormat LineReader

/-! ## Section 1: The function -/

/-- `sizeof(statement)` -/
def statementSize : Nat := Statements.dbMaxSqlLen * 4

/-- What is read at a time: `fgets` keeps one byte for the NUL. -/
def pieceSize : Nat := Statements.dbMaxSqlLen - 1

/-- A space or a tab. -/
def isBlank (b : UInt8) : Bool := b == 32 || b == 9

/-- A space, a tab, or a byte of a line end. -/
def isWhite (b : UInt8) : Bool := isBlank b || b == 10 || b == 13

/-- `while (*s == ' ' || *s == '\t' || *s == '\n' || *s == '\r') s++` -/
def strip (s : CStr) : CStr := s.dropWhile isWhite

/-- The two tests with `continue`: a comment, or a line that is over. -/
def skipsPiece (line : CStr) : Bool :=
  let trimmed := line.dropWhile isBlank
  trimmed.take 2 = [45, 45] || trimmed.head? = some 10 || trimmed.head? = some 13 ||
    trimmed.head? = none

/-- The line without `"\n"` or `"\r\n"`. -/
def stripEnd (line : CStr) : CStr :=
  if line.getLast? = some 10 then
    if line.dropLast.getLast? = some 13 then line.dropLast.dropLast else line.dropLast
  else line

/-- `line[strlen(line) - 1] == ';'`, after the line end is taken off. -/
def endsStatement (line : CStr) : Bool := (stripEnd line).getLast? = some 59

/-- `statement`, the texts given to `db_mysql_execute`, and `stmt_count`. -/
structure Reader where
  statement : CStr
  executed : List CStr
  stmtCount : Nat
  deriving DecidableEq, Repr

def Reader.start : Reader := ⟨[], [], 0⟩

/-- The body of the loop.  `execute k` is the result of `db_mysql_execute` for
    the statement after `k` others. -/
def readPiece (execute : Nat → CStr → Int32) (r : Reader) (piece : CStr) : Reader :=
  let line := CMemory.text piece
  if skipsPiece line then r
  else
    -- a piece without room is left out, and nothing is said about it
    let statement :=
      if r.statement.length + line.length < statementSize - 2 then r.statement ++ line
      else r.statement
    if endsStatement line then
      if strip statement ≠ [] then
        { statement := []
          executed := r.executed ++ [strip statement]
          stmtCount :=
            if execute r.executed.length (strip statement) ≥ 0 then r.stmtCount + 1
            else r.stmtCount }
      else { r with statement := [] }
    else { r with statement := statement }

def readSchema (execute : Nat → CStr → Int32) (text : CStr) : Reader :=
  readAll pieceSize (readPiece execute) text .start

/-- `db_mysql_init_schema`: its result and the executed texts; without a file
    it is -2. -/
def dbMysqlInitSchema (execute : Nat → CStr → Int32) (file : Option CStr) : Int × List CStr :=
  match file with
  | none => (-2, [])
  | some text => ((readSchema execute text).stmtCount, (readSchema execute text).executed)

/-! ## Section 2: The statements of a file -/

/-- White space only, or a comment. -/
def skipsLine (line : CStr) : Bool := strip line = [] || (strip line).take 2 = [45, 45]

/-- The complete statements of some lines, without leading white space, and
    the lines after the last of them. -/
structure Progress where
  executed : List CStr
  pending : CStr
  deriving DecidableEq, Repr

def Progress.read (p : Progress) (line : CStr) : Progress :=
  if skipsLine line then p
  else if endsStatement line then ⟨p.executed ++ [strip (p.pending ++ line)], []⟩
  else ⟨p.executed, p.pending ++ line⟩

def progress (ls : List CStr) : Progress := ls.foldl Progress.read ⟨[], []⟩

/-- Nothing of the statements is lost, up to leading white space, and nothing
    else has been executed. -/
def Complete (r : Reader) (p : Progress) : Prop :=
  r.executed = p.executed ∧ strip r.statement = strip p.pending

/-! ## Section 3: The condition -/

/-- The pieces of a line; at the beginning of a statement without those that
    are white space only. -/
def keptPieces (stored line : CStr) : List CStr :=
  if stored = [] then (cut pieceSize line).dropWhile fun piece => strip piece = []
  else cut pieceSize line

/-- What is stored of a statement after one more line. -/
def storeLine (stored line : CStr) : CStr :=
  if skipsLine line then stored
  else if endsStatement line then []
  else stored ++ (keptPieces stored line).flatten

/-- There is room for a piece behind what is stored. -/
def HasRoom (stored piece : CStr) : Prop :=
  stored.length + piece.length < statementSize - 2

instance (stored piece : CStr) : Decidable (HasRoom stored piece) :=
  inferInstanceAs (Decidable (_ < _))

/-- All pieces belong to the statement, only the last one may end it, and
    there is room for them. -/
structure PiecesFit (stored : CStr) (pieces : List CStr) : Prop where
  kept : ∀ piece ∈ pieces, skipsPiece piece = false
  inner : ∀ piece ∈ pieces.dropLast, endsStatement piece = false
  room : HasRoom stored pieces.flatten

instance (stored : CStr) (pieces : List CStr) : Decidable (PiecesFit stored pieces) :=
  decidable_of_iff
    ((∀ piece ∈ pieces, skipsPiece piece = false) ∧
      (∀ piece ∈ pieces.dropLast, endsStatement piece = false) ∧ HasRoom stored pieces.flatten)
    ⟨fun h => ⟨h.1, h.2.1, h.2.2⟩, fun h => ⟨h.kept, h.inner, h.room⟩⟩

/-- The pieces of a comment or of a blank line are comments or blank as well,
    or have no effect for want of room. -/
def LineFits (stored line : CStr) : Prop :=
  if skipsLine line then
    ∀ piece ∈ cut pieceSize line,
      skipsPiece piece = true ∨ ¬ HasRoom stored piece ∧ endsStatement piece = false
  else PiecesFit stored (keptPieces stored line)

instance (stored line : CStr) : Decidable (LineFits stored line) :=
  decidable_of_iff
    (if skipsLine line then
      ∀ piece ∈ cut pieceSize line,
        skipsPiece piece = true ∨ ¬ HasRoom stored piece ∧ endsStatement piece = false
    else PiecesFit stored (keptPieces stored line)) Iff.rfl

def FitsFrom : CStr → List CStr → Prop
  | _, [] => True
  | stored, line :: more => LineFits stored line ∧ FitsFrom (storeLine stored line) more

instance FitsFrom.decidable : ∀ stored lines, Decidable (FitsFrom stored lines)
  | _, [] => inferInstanceAs (Decidable True)
  | stored, line :: more =>
    have := FitsFrom.decidable (storeLine stored line) more
    inferInstanceAs (Decidable (_ ∧ _))

/-- Every line fits what is stored before it. -/
def SchemaFits (text : CStr) : Prop := FitsFrom [] (lines text)

instance (text : CStr) : Decidable (SchemaFits text) :=
  inferInstanceAs (Decidable (FitsFrom [] (lines text)))

/-! ## Section 4: White space -/

theorem strip_append_of_ne {s : CStr} (hs : strip s ≠ []) (t : CStr) :
    strip (s ++ t) = strip s ++ t := by
  unfold strip at hs ⊢
  rw [List.dropWhile_append, if_neg (by simpa using hs)]

theorem strip_append_of_nil {s : CStr} (hs : strip s = []) (t : CStr) :
    strip (s ++ t) = strip t := by
  unfold strip at hs ⊢
  rw [List.dropWhile_append, if_pos (by simpa using hs)]

theorem length_strip_append_le (s t : CStr) :
    (strip (s ++ t)).length ≤ (strip s).length + t.length := by
  by_cases hs : strip s = []
  · rw [strip_append_of_nil hs, hs]
    have hle := (List.dropWhile_sublist isWhite (l := t)).length_le
    unfold strip
    omega
  · rw [strip_append_of_ne hs, List.length_append]

theorem length_strip_le_append (s t : CStr) : (strip s).length ≤ (strip (s ++ t)).length := by
  by_cases hs : strip s = []
  · rw [hs]
    exact Nat.zero_le _
  · rw [strip_append_of_ne hs, List.length_append]
    omega

theorem strip_append_congr {s s' : CStr} (h : strip s = strip s') (t : CStr) :
    strip (s ++ t) = strip (s' ++ t) := by
  by_cases hs : strip s = []
  · rw [strip_append_of_nil hs, strip_append_of_nil (h.symm.trans hs)]
  · rw [strip_append_of_ne hs, strip_append_of_ne (h ▸ hs), h]

/-- A piece that is white space only is skipped. -/
theorem skipsPiece_of_strip {piece : CStr} (h : strip piece = []) : skipsPiece piece = true := by
  have hwhite := List.dropWhile_eq_nil_iff.mp h
  have hnot := List.head?_dropWhile_not isBlank piece
  unfold skipsPiece
  dsimp only
  cases hcase : piece.dropWhile isBlank with
  | nil => rfl
  | cons b rest =>
    have hmem : b ∈ piece.dropWhile isBlank := hcase ▸ List.mem_cons_self
    have hb := hwhite b ((List.dropWhile_sublist isBlank).mem hmem)
    rw [hcase] at hnot
    have hblank : isBlank b = false := hnot
    simp only [isWhite, hblank, Bool.false_or, Bool.or_eq_true, beq_iff_eq] at hb
    rcases hb with rfl | rfl <;> simp

theorem strip_ne_nil {piece : CStr} (h : skipsPiece piece = false) : strip piece ≠ [] := by
  intro hnil
  rw [skipsPiece_of_strip hnil] at h
  cases h

/-- Dropping white pieces at the front loses white space only. -/
theorem strip_flatten_dropWhile (pieces : List CStr) :
    strip (pieces.dropWhile fun piece => strip piece = []).flatten = strip pieces.flatten := by
  induction pieces with
  | nil => rfl
  | cons piece pieces ih =>
    by_cases hpiece : strip piece = []
    · rw [List.dropWhile_cons_of_pos (by simpa using hpiece), ih, List.flatten_cons,
        strip_append_of_nil hpiece]
    · rw [List.dropWhile_cons_of_neg (by simpa using hpiece)]

/-! ## Section 5: One piece -/

section Run

variable (execute : Nat → CStr → Int32)

/-- The statement after a piece, before it is executed. -/
def statementWith (stored piece : CStr) : CStr :=
  if skipsPiece piece = true then stored
  else if HasRoom stored piece then stored ++ piece
  else stored

/-- The bytes that are not leading white space, executed or not. -/
def weight (r : Reader) : Nat := (strip r.statement).length + (r.executed.map List.length).sum

variable {r : Reader} {piece : CStr}

theorem readPiece_skip (hnul : 0 ∉ piece) (hskip : skipsPiece piece = true) :
    readPiece execute r piece = r := by
  unfold readPiece
  rw [CMemory.text_eq_self hnul]
  simp only [hskip, if_true]

theorem readPiece_keep (hnul : 0 ∉ piece) (hskip : skipsPiece piece = false)
    (hends : endsStatement piece = false) :
    readPiece execute r piece = { r with statement := statementWith r.statement piece } := by
  unfold readPiece statementWith
  rw [CMemory.text_eq_self hnul]
  simp only [hskip, hends, Bool.false_eq_true, if_false]
  rfl

theorem readPiece_ends (hnul : 0 ∉ piece) (hskip : skipsPiece piece = false)
    (hends : endsStatement piece = true) :
    (readPiece execute r piece).statement = [] ∧
      (readPiece execute r piece).executed =
        if strip (statementWith r.statement piece) = [] then r.executed
        else r.executed ++ [strip (statementWith r.statement piece)] := by
  have hstatement : (if r.statement.length + piece.length < statementSize - 2 then
      r.statement ++ piece else r.statement) = statementWith r.statement piece := by
    unfold statementWith
    rw [hskip]
    rfl
  unfold readPiece
  rw [CMemory.text_eq_self hnul]
  simp only [hskip, hends, Bool.false_eq_true, if_false, if_true, hstatement]
  by_cases hnil : strip (statementWith r.statement piece) = []
  · rw [if_neg (not_not.mpr hnil), if_pos hnil]
    exact ⟨rfl, rfl⟩
  · rw [if_pos hnil, if_neg hnil]
    exact ⟨rfl, rfl⟩

/-- Executing a statement moves its bytes, and loses none. -/
theorem weight_readPiece (hnul : 0 ∉ piece) :
    weight (readPiece execute r piece) =
      (strip (statementWith r.statement piece)).length + (r.executed.map List.length).sum := by
  cases hskip : skipsPiece piece with
  | true =>
    rw [readPiece_skip execute hnul hskip, statementWith, if_pos hskip]
    rfl
  | false =>
    cases hends : endsStatement piece with
    | false =>
      rw [readPiece_keep execute hnul hskip hends]
      rfl
    | true =>
      obtain ⟨hstatement, hexecuted⟩ := readPiece_ends execute (r := r) hnul hskip hends
      rw [weight, hstatement, hexecuted]
      split
      · next hnil => rw [hnil]; rfl
      · simp [strip]
        omega

theorem executed_readPiece (hnul : 0 ∉ piece) :
    r.executed.length ≤ (readPiece execute r piece).executed.length := by
  cases hskip : skipsPiece piece with
  | true => rw [readPiece_skip execute hnul hskip]
  | false =>
    cases hends : endsStatement piece with
    | false => rw [readPiece_keep execute hnul hskip hends]
    | true =>
      rw [(readPiece_ends execute (r := r) hnul hskip hends).2]
      split
      · exact Nat.le_refl _
      · simp

/-! ## Section 6: The pieces of a line -/

variable {pieces : List CStr}

/-- The pieces are given to the loop body. -/
abbrev run (execute : Nat → CStr → Int32) (r : Reader) (pieces : List CStr) : Reader :=
  pieces.foldl (readPiece execute) r

theorem run_cons :
    run execute r (piece :: pieces) = run execute (readPiece execute r piece) pieces := rfl

theorem weight_run_le (hnul : ∀ piece ∈ pieces, 0 ∉ piece) :
    weight r ≤ weight (run execute r pieces) ∧
      weight (run execute r pieces) ≤ weight r + pieces.flatten.length := by
  induction pieces generalizing r with
  | nil => exact ⟨Nat.le_refl _, Nat.le_refl _⟩
  | cons piece pieces ih =>
    have hstep := weight_readPiece execute (r := r) (hnul piece List.mem_cons_self)
    have hlo : (strip r.statement).length ≤ (strip (statementWith r.statement piece)).length := by
      unfold statementWith
      split
      · exact Nat.le_refl _
      · split
        · exact length_strip_le_append _ _
        · exact Nat.le_refl _
    have hhi : (strip (statementWith r.statement piece)).length ≤
        (strip r.statement).length + piece.length := by
      unfold statementWith
      split
      · exact Nat.le_add_right _ _
      · split
        · exact length_strip_append_le _ _
        · exact Nat.le_add_right _ _
    have hrest := ih (r := readPiece execute r piece)
      fun p hp => hnul p (List.mem_cons_of_mem _ hp)
    have hweight : weight r = (strip r.statement).length + (r.executed.map List.length).sum := rfl
    rw [List.flatten_cons, List.length_append, run_cons]
    omega

theorem executed_run (hnul : ∀ piece ∈ pieces, 0 ∉ piece) :
    r.executed.length ≤ (run execute r pieces).executed.length := by
  induction pieces generalizing r with
  | nil => exact Nat.le_refl _
  | cons piece pieces ih =>
    have hstep := executed_readPiece execute (r := r)
      (hnul piece List.mem_cons_self)
    exact hstep.trans (ih fun p hp => hnul p (List.mem_cons_of_mem _ hp))

variable {execute}

/-- Every piece is taken into the statement. -/
def AllTaken (execute : Nat → CStr → Int32) : Reader → List CStr → Prop
  | _, [] => True
  | r, piece :: pieces =>
    skipsPiece piece = false ∧ HasRoom r.statement piece ∧
      AllTaken execute (readPiece execute r piece) pieces

/-- If all bytes arrive, all pieces were taken. -/
theorem allTaken_of_weight (hnul : ∀ piece ∈ pieces, 0 ∉ piece) (hne : ∀ piece ∈ pieces, piece ≠ [])
    (hweight : weight (run execute r pieces) = weight r + pieces.flatten.length) :
    AllTaken execute r pieces := by
  induction pieces generalizing r with
  | nil => exact trivial
  | cons piece pieces ih =>
    have hnul' : ∀ p ∈ pieces, 0 ∉ p := fun p hp => hnul p (List.mem_cons_of_mem _ hp)
    have hstep := weight_readPiece execute (r := r) (hnul piece List.mem_cons_self)
    have hrest := (weight_run_le execute (r := readPiece execute r piece) hnul').2
    have hpos := List.length_pos_iff.mpr (hne piece List.mem_cons_self)
    have hr : weight r = (strip r.statement).length + (r.executed.map List.length).sum := rfl
    rw [List.flatten_cons, List.length_append, run_cons] at hweight
    have hmore : statementWith r.statement piece ≠ r.statement := by
      intro hsame
      rw [hsame] at hstep
      omega
    unfold statementWith at hmore hstep
    split at hmore
    · exact absurd rfl hmore
    · next hskip =>
      rw [if_neg hskip] at hstep
      split at hmore
      · next hroom =>
        rw [if_pos hroom] at hstep
        have hle := length_strip_append_le r.statement piece
        refine ⟨Bool.not_eq_true _ ▸ hskip, hroom,
          ih hnul' (fun p hp => hne p (List.mem_cons_of_mem _ hp)) ?_⟩
        omega
      · exact absurd rfl hmore

theorem statementWith_taken {stored piece : CStr} (hskip : skipsPiece piece = false)
    (hroom : HasRoom stored piece) : statementWith stored piece = stored ++ piece := by
  unfold statementWith
  rw [if_neg (by rw [hskip]; exact Bool.false_ne_true), if_pos hroom]

theorem strip_taken_ne_nil {stored piece : CStr} (hskip : skipsPiece piece = false) :
    strip (stored ++ piece) ≠ [] := by
  intro hnil
  have hle := length_strip_append_le stored piece
  by_cases hs : strip stored = []
  · rw [strip_append_of_nil hs] at hnil
    exact strip_ne_nil hskip hnil
  · rw [strip_append_of_ne hs] at hnil
    exact hs (List.append_eq_nil_iff.mp hnil).1

/-- Then every piece that ends in `';'` has executed something. -/
theorem executed_of_allTaken (hnul : ∀ piece ∈ pieces, 0 ∉ piece)
    (htaken : AllTaken execute r pieces) :
    (run execute r pieces).executed.length = r.executed.length + pieces.countP endsStatement := by
  induction pieces generalizing r with
  | nil => rfl
  | cons piece pieces ih =>
    obtain ⟨hskip, hroom, hrest⟩ := htaken
    have hfirst : 0 ∉ piece := hnul piece List.mem_cons_self
    rw [run_cons, ih (fun p hp => hnul p (List.mem_cons_of_mem _ hp)) hrest, List.countP_cons]
    cases hends : endsStatement piece with
    | false =>
      rw [readPiece_keep execute hfirst hskip hends]
      rfl
    | true =>
      rw [(readPiece_ends execute hfirst hskip hends).2, statementWith_taken hskip hroom,
        if_neg (strip_taken_ne_nil hskip), List.length_append]
      simp
      omega

variable (execute)

/-- Pieces that fit are collected, and executed if the last one ends in `';'`. -/
theorem run_of_fit (hnul : ∀ piece ∈ pieces, 0 ∉ piece) (hne : pieces ≠ [])
    (hfit : PiecesFit r.statement pieces) :
    if endsStatement (pieces.getLast hne) then
      (run execute r pieces).executed = r.executed ++ [strip (r.statement ++ pieces.flatten)] ∧
        (run execute r pieces).statement = []
    else
      (run execute r pieces).executed = r.executed ∧
        (run execute r pieces).statement = r.statement ++ pieces.flatten := by
  induction pieces generalizing r with
  | nil => exact absurd rfl hne
  | cons piece pieces ih =>
    have hfirst : 0 ∉ piece := hnul piece List.mem_cons_self
    have hskip := hfit.kept piece List.mem_cons_self
    have hall := hfit.room
    unfold HasRoom at hall
    rw [List.flatten_cons, List.length_append] at hall
    have hroom : HasRoom r.statement piece := by
      unfold HasRoom
      omega
    cases pieces with
    | nil =>
      rw [List.getLast_singleton, List.flatten_singleton]
      split
      · next hends =>
        obtain ⟨hstatement, hexecuted⟩ :=
          readPiece_ends execute (r := r) hfirst hskip hends
        rw [statementWith_taken hskip hroom, if_neg (strip_taken_ne_nil hskip)] at hexecuted
        exact ⟨hexecuted, hstatement⟩
      · next hends =>
        rw [Bool.not_eq_true] at hends
        have hkeep := readPiece_keep execute (r := r) hfirst hskip hends
        rw [statementWith_taken hskip hroom] at hkeep
        rw [run_cons, hkeep]
        exact ⟨rfl, rfl⟩
    | cons piece' pieces =>
      have hends := hfit.inner piece List.mem_cons_self
      have hkeep := readPiece_keep execute (r := r) hfirst hskip hends
      rw [statementWith_taken hskip hroom] at hkeep
      have hrest : PiecesFit (readPiece execute r piece).statement (piece' :: pieces) := by
        rw [hkeep]
        refine ⟨fun p hp => hfit.kept p (List.mem_cons_of_mem _ hp),
          fun p hp => hfit.inner p (List.mem_cons_of_mem _ hp), ?_⟩
        unfold HasRoom
        rw [List.length_append]
        omega
      have hrun := ih (fun p hp => hnul p (List.mem_cons_of_mem _ hp)) (List.cons_ne_nil _ _) hrest
      rw [List.getLast_cons (List.cons_ne_nil _ _), List.flatten_cons, ← List.append_assoc,
        run_cons]
      rw [hkeep] at hrun ⊢
      exact hrun

variable {execute}

theorem kept_of_allTaken (htaken : AllTaken execute r pieces) :
    ∀ piece ∈ pieces, skipsPiece piece = false := by
  induction pieces generalizing r with
  | nil => exact nofun
  | cons piece pieces ih =>
    obtain ⟨hskip, -, hrest⟩ := htaken
    intro p hp
    rcases List.mem_cons.mp hp with rfl | hp
    · exact hskip
    · exact ih hrest p hp

/-- There was room for the last piece, so there is for all of them. -/
theorem room_of_allTaken (hnul : ∀ piece ∈ pieces, 0 ∉ piece) (hne : pieces ≠ [])
    (htaken : AllTaken execute r pieces)
    (hinner : ∀ piece ∈ pieces.dropLast, endsStatement piece = false) :
    HasRoom r.statement pieces.flatten := by
  induction pieces generalizing r with
  | nil => exact absurd rfl hne
  | cons piece pieces ih =>
    obtain ⟨hskip, hroom, hrest⟩ := htaken
    cases pieces with
    | nil => rwa [List.flatten_singleton]
    | cons piece' pieces =>
      have hkeep := readPiece_keep execute (r := r) (hnul piece List.mem_cons_self)
        hskip (hinner piece List.mem_cons_self)
      rw [statementWith_taken hskip hroom] at hkeep
      have hmore := ih (fun p hp => hnul p (List.mem_cons_of_mem _ hp)) (List.cons_ne_nil _ _) hrest
        fun p hp => hinner p (List.mem_cons_of_mem _ hp)
      rw [hkeep] at hmore
      unfold HasRoom at hmore ⊢
      rw [List.flatten_cons]
      simp only [List.length_append] at hmore ⊢
      omega

/-! ## Section 7: One line -/

variable {p : Progress} {line : CStr}

/-- The line after its statement. -/
theorem Progress.read_content (hskip : skipsLine line = false) :
    p.read line = if endsStatement line then ⟨p.executed ++ [strip (p.pending ++ line)], []⟩
      else ⟨p.executed, p.pending ++ line⟩ := by
  unfold Progress.read
  rw [if_neg (by rw [hskip]; exact Bool.false_ne_true)]

/-- The pieces of a line of a statement. -/
structure PiecesOf (stored : CStr) (p : Progress) (line : CStr) (pieces : List CStr) : Prop where
  nul : ∀ piece ∈ pieces, 0 ∉ piece
  nonempty : ∀ piece ∈ pieces, piece ≠ []
  ne_nil : pieces ≠ []
  /-- The first piece is more than leading white space. -/
  first : ∀ piece ∈ pieces.head?, strip (stored ++ piece) ≠ []
  text : strip (p.pending ++ line) = strip (stored ++ pieces.flatten)
  /-- The end of the line is that of its last piece. -/
  last : skipsPiece (pieces.getLast ne_nil) = false →
    endsStatement line = endsStatement (pieces.getLast ne_nil)

theorem complete_of_fit (hpieces : PiecesOf r.statement p line pieces)
    (hexecuted : r.executed = p.executed) (hskip : skipsLine line = false)
    (hfit : PiecesFit r.statement pieces) : Complete (run execute r pieces) (p.read line) := by
  have hrun := run_of_fit execute hpieces.nul hpieces.ne_nil hfit
  rw [← hpieces.last (hfit.kept _ (List.getLast_mem hpieces.ne_nil))] at hrun
  rw [Progress.read_content hskip]
  unfold Complete
  split at hrun
  · next hends =>
    rw [if_pos hends, hrun.1, hrun.2, hexecuted, hpieces.text]
    exact ⟨rfl, rfl⟩
  · next hends =>
    rw [if_neg hends, hrun.1, hrun.2, hexecuted, hpieces.text]
    exact ⟨rfl, rfl⟩

/-- If nothing is lost, every piece was taken. -/
theorem allTaken_of_complete (hpieces : PiecesOf r.statement p line pieces)
    (hexecuted : r.executed = p.executed) (hskip : skipsLine line = false)
    (hcomplete : Complete (run execute r pieces) (p.read line)) : AllTaken execute r pieces := by
  have hweight : weight (run execute r pieces) =
      (strip (r.statement ++ pieces.flatten)).length + (r.executed.map List.length).sum := by
    unfold weight
    rw [hcomplete.1, hcomplete.2, Progress.read_content hskip, ← hpieces.text, hexecuted]
    split
    · simp [strip]
      omega
    · rfl
  obtain ⟨piece, pieces', rfl⟩ := List.exists_cons_of_ne_nil hpieces.ne_nil
  have hnul : 0 ∉ piece := hpieces.nul piece List.mem_cons_self
  have hnul' : ∀ p ∈ pieces', 0 ∉ p := fun p hp => hpieces.nul p (List.mem_cons_of_mem _ hp)
  have hfirst : strip (r.statement ++ piece) ≠ [] := hpieces.first piece rfl
  have hstep := weight_readPiece execute (r := r) hnul
  have hrest := (weight_run_le execute (r := readPiece execute r piece) hnul').2
  rw [List.flatten_cons, ← List.append_assoc, strip_append_of_ne hfirst, List.length_append,
    run_cons] at hweight
  have hmore : (strip r.statement).length < (strip (r.statement ++ piece)).length := by
    by_cases hs : strip r.statement = []
    · rw [hs]
      exact List.length_pos_iff.mpr hfirst
    · have hpos := List.length_pos_iff.mpr (hpieces.nonempty piece List.mem_cons_self)
      rw [strip_append_of_ne hs, List.length_append]
      omega
  unfold statementWith at hstep
  split at hstep
  · omega
  · next hkept =>
    split at hstep
    · next hroom =>
      refine ⟨Bool.not_eq_true _ ▸ hkept, hroom, allTaken_of_weight hnul'
        (fun p hp => hpieces.nonempty p (List.mem_cons_of_mem _ hp)) ?_⟩
      omega
    · omega

/-- **A line of a statement** is collected exactly if its pieces fit. -/
theorem complete_content_iff (hpieces : PiecesOf r.statement p line pieces)
    (hexecuted : r.executed = p.executed) (hskip : skipsLine line = false) :
    Complete (run execute r pieces) (p.read line) ↔ PiecesFit r.statement pieces := by
  constructor
  · intro hcomplete
    have htaken := allTaken_of_complete hpieces hexecuted hskip hcomplete
    have hkept := kept_of_allTaken htaken
    have hcount := executed_of_allTaken hpieces.nul htaken
    have hlast := hpieces.last (hkept _ (List.getLast_mem hpieces.ne_nil))
    rw [hcomplete.1, Progress.read_content hskip, hexecuted,
      ← List.dropLast_append_getLast hpieces.ne_nil, List.countP_append, List.countP_singleton,
      ← hlast] at hcount
    have hinner : ∀ piece ∈ pieces.dropLast, endsStatement piece = false := by
      have hzero : pieces.dropLast.countP endsStatement = 0 := by
        split at hcount
        · rw [List.length_append, List.length_singleton] at hcount
          omega
        · dsimp only at hcount
          omega
      intro piece hpiece
      simpa using List.countP_eq_zero.mp hzero piece hpiece
    exact ⟨hkept, hinner, room_of_allTaken hpieces.nul hpieces.ne_nil htaken hinner⟩
  · exact complete_of_fit hpieces hexecuted hskip

/-- A piece with text in it makes the statement longer. -/
theorem length_strip_lt {stored piece : CStr} (hskip : skipsPiece piece = false) :
    (strip stored).length < (strip (stored ++ piece)).length := by
  have hpiece := List.length_pos_iff.mpr (strip_ne_nil hskip)
  by_cases hs : strip stored = []
  · rw [strip_append_of_nil hs, hs]
    exact hpiece
  · have hsub := (List.dropWhile_sublist isWhite (l := piece)).length_le
    rw [strip_append_of_ne hs, List.length_append]
    unfold strip at hpiece
    omega

/-- A piece that was taken stands in the statement, or has been executed. -/
theorem run_taken_ne (hnul : 0 ∉ piece) (hnul' : ∀ p ∈ pieces, 0 ∉ p)
    (hskip : skipsPiece piece = false) (hroom : HasRoom r.statement piece) :
    ¬ ((run execute (readPiece execute r piece) pieces).executed = r.executed ∧
      strip (run execute (readPiece execute r piece) pieces).statement = strip r.statement) := by
  rintro ⟨hexecuted, hstatement⟩
  have hstep := weight_readPiece execute (r := r) hnul
  have hle := (weight_run_le execute (r := readPiece execute r piece) hnul').1
  have hmore : (strip r.statement).length < (strip (r.statement ++ piece)).length :=
    length_strip_lt hskip
  rw [statementWith_taken hskip hroom] at hstep
  have hsame : weight (run execute (readPiece execute r piece) pieces) =
      (strip r.statement).length + (r.executed.map List.length).sum := by
    unfold weight
    rw [hexecuted, hstatement]
  omega

/-- A piece without room that ends in `';'` has what is stored executed. -/
theorem run_early_ne (hnul : 0 ∉ piece) (hnul' : ∀ p ∈ pieces, 0 ∉ p)
    (hskip : skipsPiece piece = false) (hroom : ¬ HasRoom r.statement piece)
    (hends : endsStatement piece = true) (hlong : strip r.statement ≠ []) :
    (run execute (readPiece execute r piece) pieces).executed ≠ r.executed := by
  intro hsame
  have hstep := (readPiece_ends execute (r := r) hnul hskip hends).2
  rw [statementWith, hskip, if_neg Bool.false_ne_true, if_neg hroom, if_neg hlong] at hstep
  have hle := executed_run execute (r := readPiece execute r piece) hnul'
  rw [hsame, hstep, List.length_append, List.length_singleton] at hle
  omega

/-- **A comment or a blank line** has no effect exactly if no piece of it has. -/
theorem complete_skip_iff (hnul : ∀ piece ∈ pieces, 0 ∉ piece)
    (hshort : ∀ piece ∈ pieces, piece.length ≤ pieceSize)
    (hstored : strip r.statement = [] → r.statement = []) :
    (run execute r pieces).executed = r.executed ∧
        strip (run execute r pieces).statement = strip r.statement ↔
      ∀ piece ∈ pieces,
        skipsPiece piece = true ∨ ¬ HasRoom r.statement piece ∧ endsStatement piece = false := by
  induction pieces generalizing r with
  | nil => exact iff_of_true ⟨rfl, rfl⟩ nofun
  | cons piece pieces ih =>
    have hfirst : 0 ∉ piece := hnul piece List.mem_cons_self
    have hnul' : ∀ p ∈ pieces, 0 ∉ p := fun p hp => hnul p (List.mem_cons_of_mem _ hp)
    have hrest := ih (r := r) hnul' (fun p hp => hshort p (List.mem_cons_of_mem _ hp)) hstored
    rw [run_cons, List.forall_mem_cons, ← hrest]
    cases hskip : skipsPiece piece with
    | true =>
      rw [readPiece_skip execute hfirst hskip]
      simp
    | false =>
      by_cases hroom : HasRoom r.statement piece
      · refine iff_of_false ?_ ?_
        · exact run_taken_ne hfirst hnul' hskip hroom
        · rintro ⟨hnot | hnot, -⟩
          · cases hnot
          · exact hnot.1 hroom
      · cases hends : endsStatement piece with
        | false =>
          rw [readPiece_keep execute hfirst hskip hends, statementWith, hskip]
          simp [hroom]
        -- what is stored is executed too early
        | true =>
          refine iff_of_false ?_ ?_
          · rintro ⟨hexecuted, -⟩
            have hlong : strip r.statement ≠ [] := by
              intro hnil
              have hpiece := hshort piece List.mem_cons_self
              unfold HasRoom at hroom
              rw [hstored hnil, List.length_nil] at hroom
              simp only [pieceSize, statementSize, Statements.dbMaxSqlLen] at hpiece hroom
              omega
            exact run_early_ne hfirst hnul' hskip hroom hends hlong hexecuted
          · rintro ⟨hnot | hnot, -⟩
            · cases hnot
            · cases hnot.2

theorem run_of_skips (hnul : ∀ piece ∈ pieces, 0 ∉ piece)
    (hskips : ∀ piece ∈ pieces,
      skipsPiece piece = true ∨ ¬ HasRoom r.statement piece ∧ endsStatement piece = false) :
    run execute r pieces = r := by
  induction pieces with
  | nil => rfl
  | cons piece pieces ih =>
    have hfirst : 0 ∉ piece := hnul piece List.mem_cons_self
    have hstep : readPiece execute r piece = r := by
      cases hskip : skipsPiece piece with
      | true => exact readPiece_skip execute hfirst hskip
      | false =>
        rcases hskips piece List.mem_cons_self with hyes | ⟨hroom, hends⟩
        · rw [hskip] at hyes
          cases hyes
        · rw [readPiece_keep execute hfirst hskip hends, statementWith, hskip,
            if_neg Bool.false_ne_true, if_neg hroom]
    rw [run_cons, hstep]
    exact ih (fun p hp => hnul p (List.mem_cons_of_mem _ hp))
      fun p hp => hskips p (List.mem_cons_of_mem _ hp)

/-! ## Section 8: The file -/

theorem pieceSize_pos : 0 < pieceSize := by decide

/-- A line is over as its last piece is, unless that is skipped. -/
theorem endsStatement_append (s : CStr) (hskip : skipsPiece piece = false) :
    endsStatement (s ++ piece) = endsStatement piece := by
  have hne : piece ≠ [] := by
    rintro rfl
    cases hskip
  have hlast : ∀ t : CStr, t ≠ [] → (s ++ t).getLast? = t.getLast? := by
    intro t ht
    rw [List.getLast?_append_of_ne_nil _ ht]
  unfold endsStatement stripEnd
  rw [hlast piece hne]
  split
  · next hnewline =>
    have hinit : piece.dropLast ≠ [] := by
      intro hnil
      rw [← List.dropLast_append_getLast? 10 hnewline, hnil] at hskip
      cases hskip
    rw [List.dropLast_append_of_ne_nil hne, hlast _ hinit]
    split
    · next hreturn =>
      have hinit' : piece.dropLast.dropLast ≠ [] := by
        intro hnil
        rw [← List.dropLast_append_getLast? 10 hnewline,
          ← List.dropLast_append_getLast? 13 hreturn, hnil] at hskip
        cases hskip
      rw [List.dropLast_append_of_ne_nil hinit, hlast _ hinit']
    · rw [hlast _ hinit]
  · rw [hlast piece hne]

/-- What is stored is no white space, and up to that all that is pending. -/
structure Stored (stored : CStr) (p : Progress) : Prop where
  same : strip stored = strip p.pending
  begun : strip stored = [] → stored = []

theorem keptPieces_suffix (stored line : CStr) :
    ∃ white, cut pieceSize line = white ++ keptPieces stored line ∧
      (∀ piece ∈ white, strip piece = []) ∧ (stored ≠ [] → white = []) := by
  unfold keptPieces
  split
  · next hnil =>
    refine ⟨(cut pieceSize line).takeWhile fun piece => strip piece = [],
      List.takeWhile_append_dropWhile.symm, ?_, fun h => absurd hnil h⟩
    intro piece hpiece
    simpa using List.mem_takeWhile_imp hpiece
  · exact ⟨[], rfl, nofun, fun _ => rfl⟩

theorem nul_cut (hnul : 0 ∉ line) : ∀ piece ∈ cut pieceSize line, 0 ∉ piece := by
  intro piece hpiece hzero
  apply hnul
  rw [← flatten_cut pieceSize_pos line]
  exact List.mem_flatten_of_mem hpiece hzero

theorem piecesOf_kept {stored : CStr} (hnul : 0 ∉ line) (hstored : Stored stored p)
    (hskip : skipsLine line = false) : PiecesOf stored p line (keptPieces stored line) := by
  obtain ⟨white, hcut, hwhite, hbegun⟩ := keptPieces_suffix stored line
  have hline := flatten_cut pieceSize_pos line
  rw [hcut, List.flatten_append] at hline
  have hmem : ∀ piece ∈ keptPieces stored line, piece ∈ cut pieceSize line := by
    intro piece hpiece
    rw [hcut]
    exact List.mem_append_right _ hpiece
  have hcontent : strip line ≠ [] := by
    intro hnil
    rw [skipsLine, hnil] at hskip
    cases hskip
  have hdropped : stored = [] → strip line = strip (keptPieces stored line).flatten := by
    intro hnil
    rw [keptPieces, if_pos hnil, strip_flatten_dropWhile, flatten_cut pieceSize_pos]
  have hne : keptPieces stored line ≠ [] := by
    intro hnil
    by_cases hs : stored = []
    · apply hcontent
      rw [hdropped hs, hnil]
      rfl
    · rw [hbegun hs, hnil] at hline
      apply hcontent
      rw [← hline]
      rfl
  refine ⟨fun piece hp => nul_cut hnul piece (hmem piece hp),
    fun piece hp => (mem_cut (hmem piece hp)).1, hne, ?_, ?_, ?_⟩
  · intro piece hpiece
    by_cases hs : stored = []
    · rw [keptPieces, if_pos hs] at hpiece
      have hnot := List.head?_dropWhile_not (fun piece : CStr => decide (strip piece = []))
        (cut pieceSize line)
      rw [hpiece] at hnot
      rw [hs]
      simpa using hnot
    · rw [strip_append_of_ne fun h => hs (hstored.begun h)]
      intro hnil
      exact hs (hstored.begun (List.append_eq_nil_iff.mp hnil).1)
  · by_cases hs : stored = []
    · have hpending : strip p.pending = [] := by rw [← hstored.same, hs]; rfl
      rw [strip_append_of_nil hpending, hdropped hs, hs]
      rfl
    · rw [strip_append_congr hstored.same.symm]
      rw [hbegun hs, List.flatten_nil, List.nil_append] at hline
      rw [hline]
  · intro hkept
    have hsplit : line = white.flatten ++ (keptPieces stored line).dropLast.flatten ++
        (keptPieces stored line).getLast hne := by
      conv_lhs => rw [← hline, ← List.dropLast_append_getLast hne]
      simp
    conv_lhs => rw [hsplit]
    exact endsStatement_append _ hkept

/-- White pieces at the beginning of a statement do nothing. -/
theorem run_keptPieces (hnul : 0 ∉ line) :
    run execute r (cut pieceSize line) = run execute r (keptPieces r.statement line) := by
  obtain ⟨white, hcut, hwhite, -⟩ := keptPieces_suffix r.statement line
  have hsub : ∀ piece ∈ white, 0 ∉ piece := by
    intro piece hpiece
    apply nul_cut hnul
    rw [hcut]
    exact List.mem_append_left _ hpiece
  have hskips : white.foldl (readPiece execute) r = r := run_of_skips hsub fun piece hpiece =>
    .inl (skipsPiece_of_strip (hwhite piece hpiece))
  conv_lhs => rw [hcut, run, List.foldl_append, hskips]

variable (execute)

theorem complete_line_iff (hnul : 0 ∉ line) (hexecuted : r.executed = p.executed)
    (hstored : Stored r.statement p) :
    Complete (run execute r (cut pieceSize line)) (p.read line) ↔ LineFits r.statement line := by
  unfold LineFits
  cases hskip : skipsLine line with
  | true =>
    have hread : p.read line = p := by
      unfold Progress.read
      rw [hskip, if_pos rfl]
    rw [if_pos rfl, hread, Complete, ← hexecuted, ← hstored.same]
    exact complete_skip_iff (nul_cut hnul) (fun piece hp => (mem_cut hp).2) hstored.begun
  | false =>
    rw [if_neg Bool.false_ne_true, run_keptPieces hnul]
    exact complete_content_iff (piecesOf_kept hnul hstored hskip) hexecuted hskip

/-- What the next line finds. -/
theorem stored_line (hnul : 0 ∉ line) (hexecuted : r.executed = p.executed)
    (hstored : Stored r.statement p) (hfits : LineFits r.statement line) :
    (run execute r (cut pieceSize line)).statement = storeLine r.statement line ∧
      (run execute r (cut pieceSize line)).executed = (p.read line).executed ∧
      Stored (storeLine r.statement line) (p.read line) := by
  have hcomplete := (complete_line_iff execute hnul hexecuted hstored).mpr hfits
  have hstatement : (run execute r (cut pieceSize line)).statement =
      storeLine r.statement line := by
    unfold LineFits at hfits
    unfold storeLine
    cases hskip : skipsLine line with
    | true =>
      rw [hskip, if_pos rfl] at hfits
      rw [if_pos rfl, run_of_skips (nul_cut hnul) hfits]
    | false =>
      rw [hskip, if_neg Bool.false_ne_true] at hfits
      have hpieces := piecesOf_kept hnul hstored hskip
      have hrun := run_of_fit execute hpieces.nul hpieces.ne_nil hfits
      rw [← hpieces.last (hfits.kept _ (List.getLast_mem hpieces.ne_nil))] at hrun
      rw [if_neg Bool.false_ne_true, run_keptPieces hnul]
      split at hrun
      · next hends => rw [if_pos hends, hrun.2]
      · next hends => rw [if_neg hends, hrun.2]
  refine ⟨hstatement, hcomplete.1, ?_, ?_⟩
  · rw [← hstatement]
    exact hcomplete.2
  · unfold storeLine
    cases hskip : skipsLine line with
    | true => exact hstored.begun
    | false =>
      rw [if_neg Bool.false_ne_true]
      split
      · exact fun _ => rfl
      · have hpieces := piecesOf_kept hnul hstored hskip
        obtain ⟨first, more, hcons⟩ := List.exists_cons_of_ne_nil hpieces.ne_nil
        have hfirst := hpieces.first first (by rw [hcons]; rfl)
        intro hnil
        rw [hcons, List.flatten_cons, ← List.append_assoc, strip_append_of_ne hfirst] at hnil
        exact absurd (List.append_eq_nil_iff.mp hnil).1 hfirst

/-- All lines from a point on. -/
theorem complete_lines_iff {ls : List CStr} (hnul : ∀ line ∈ ls, 0 ∉ line)
    (hexecuted : r.executed = p.executed) (hstored : Stored r.statement p) :
    (∀ front more, ls = front ++ more →
      Complete (front.foldl (fun r line => run execute r (cut pieceSize line)) r)
        (front.foldl Progress.read p)) ↔ FitsFrom r.statement ls := by
  induction ls generalizing r p with
  | nil =>
    refine iff_of_true ?_ trivial
    intro front more hsplit
    obtain ⟨rfl, -⟩ := List.append_eq_nil_iff.mp hsplit.symm
    exact ⟨hexecuted, hstored.same⟩
  | cons line ls ih =>
    have hfirst : 0 ∉ line := hnul line List.mem_cons_self
    have hline := complete_line_iff execute hfirst hexecuted hstored
    have hrest : LineFits r.statement line → _ := fun hfits =>
      have h := stored_line execute hfirst hexecuted hstored hfits
      ih (r := run execute r (cut pieceSize line)) (p := p.read line)
        (fun l hl => hnul l (List.mem_cons_of_mem _ hl)) h.2.1 (h.1 ▸ h.2.2)
    constructor
    · intro hcomplete
      have hfits := hline.mp (hcomplete [line] ls rfl)
      have hstatement := (stored_line execute hfirst hexecuted hstored hfits).1
      refine ⟨hfits, ?_⟩
      rw [← hstatement]
      apply (hrest hfits).mp
      rintro front more rfl
      exact hcomplete (line :: front) more rfl
    · rintro ⟨hfits, hmore⟩ front more hsplit
      have hstatement := (stored_line execute hfirst hexecuted hstored hfits).1
      cases front with
      | nil => exact ⟨hexecuted, hstored.same⟩
      | cons line' front =>
        obtain ⟨rfl, rfl⟩ := List.cons.inj hsplit
        rw [← hstatement] at hmore
        exact (hrest hfits).mpr hmore front more rfl

theorem readSchema_eq (text : CStr) :
    readSchema execute text =
      (lines text).foldl (fun r line => run execute r (cut pieceSize line)) .start :=
  readAll_eq pieceSize_pos _ _ _

end Run

/-- A line that `fgets` reads at once. -/
theorem lineFits_short_iff {stored line : CStr} (hne : line ≠ []) (hshort : line.length ≤ pieceSize)
    (hskip : skipsLine line = false) :
    LineFits stored line ↔ skipsPiece line = false ∧ HasRoom stored line := by
  have hwhite : strip line ≠ [] := by
    intro hnil
    rw [skipsLine, hnil] at hskip
    cases hskip
  have hkept : keptPieces stored line = [line] := by
    unfold keptPieces
    rw [cut_of_le hne hshort]
    split
    · rw [List.dropWhile_cons_of_neg (by simpa using hwhite)]
    · rfl
  unfold LineFits
  rw [hskip, if_neg Bool.false_ne_true, hkept]
  constructor
  · intro hfit
    have hroom := hfit.room
    rw [List.flatten_singleton] at hroom
    exact ⟨hfit.kept line List.mem_cons_self, hroom⟩
  · rintro ⟨hpiece, hroom⟩
    refine ⟨?_, nofun, by rwa [List.flatten_singleton]⟩
    rwa [List.forall_mem_singleton]

/-- **A schema file** is executed statement by statement, with every part of
    each, exactly if every line fits. -/
theorem schema_iff (execute : Nat → CStr → Int32) {text : CStr} (hnul : 0 ∉ text) :
    (∀ front more, lines text = front ++ more →
      Complete (readSchema execute front.flatten) (progress front)) ↔ SchemaFits text := by
  have hlines : ∀ line ∈ lines text, 0 ∉ line := by
    intro line hline hzero
    apply hnul
    rw [← flatten_lines text]
    exact List.mem_flatten_of_mem hline hzero
  have hiff := complete_lines_iff execute (r := .start) (p := ⟨[], []⟩) hlines rfl
    ⟨rfl, fun _ => rfl⟩
  unfold SchemaFits
  rw [show ([] : CStr) = Reader.start.statement from rfl, ← hiff]
  constructor
  · intro h front more hsplit
    have hfront := h front more hsplit
    rwa [readSchema_eq, lines_flatten hsplit] at hfront
  · intro h front more hsplit
    rw [readSchema_eq, lines_flatten hsplit]
    exact h front more hsplit

/-- Three statements, the last one on three lines, under a comment. -/
def threeStatements : CStr :=
  cstr "-- the tables\nCREATE DATABASE cc;\n\nUSE cc;\nCREATE TABLE agents (\n  id INT\n);\n"

/-- All of them are executed, in their order and each with all its lines. -/
theorem schema_three :
    (readSchema (fun _ _ => 1) threeStatements).executed =
      [cstr "CREATE DATABASE cc;\n", cstr "USE cc;\n",
        cstr "CREATE TABLE agents (\n  id INT\n);\n"] := by
  have hfits : SchemaFits threeStatements := by decide +kernel
  have hwhole := (schema_iff (fun _ _ => 1) (by decide)).mpr hfits _ [] (List.append_nil _).symm
  rw [flatten_lines] at hwhole
  rw [hwhole.1]
  decide +kernel

/-- A comment of `n` more bytes. -/
def longComment (n : Nat) : CStr := 45 :: 45 :: List.replicate n 120

theorem mem_longComment {n : Nat} {b : UInt8} (hb : b ∈ longComment n) : b = 45 ∨ b = 120 := by
  rcases List.mem_cons.mp hb with rfl | hb
  · exact .inl rfl
  · rcases List.mem_cons.mp hb with rfl | hb
    · exact .inl rfl
    · exact .inr (List.eq_of_mem_replicate hb)

/-- What stands behind the first 4095 bytes of a comment is executed. -/
theorem schema_comment_executed :
    ¬ ∀ (execute : Nat → CStr → Int32) (text : CStr), 0 ∉ text →
      (readSchema execute text).executed = (progress (lines text)).executed := by
  intro h
  obtain ⟨n, hn⟩ : ∃ n, n + 2 = pieceSize := ⟨4093, rfl⟩
  have hnot : ∀ b : UInt8, b ≠ 45 → b ≠ 120 → b ∉ longComment n := by
    intro b h₁ h₂ hb
    rcases mem_longComment hb with rfl | rfl
    · exact h₁ rfl
    · exact h₂ rfl
  have hlength : (longComment n).length = pieceSize := by
    rw [← hn, longComment, List.length_cons, List.length_cons, List.length_replicate]
  have htail : cstr "DROP TABLE agents;\n" ≠ [] := by decide +kernel
  have hline : LineBefore (longComment n ++ cstr "DROP TABLE agents;\n") [] := by
    refine ⟨List.append_ne_nil_of_right_ne_nil _ htail, ?_, .inr rfl⟩
    rw [List.dropLast_append_of_ne_nil htail, List.mem_append, not_or]
    exact ⟨hnot 10 (by decide) (by decide), by decide +kernel⟩
  have hlines : lines (longComment n ++ cstr "DROP TABLE agents;\n") =
      [longComment n ++ cstr "DROP TABLE agents;\n"] := by
    have hsplit := lines_append hline
    rwa [List.append_nil] at hsplit
  have hlong : pieceSize < (longComment n ++ cstr "DROP TABLE agents;\n").length := by
    rw [List.length_append, hlength]
    exact Nat.lt_add_of_pos_right (List.length_pos_iff.mpr htail)
  have hcut : cut pieceSize (longComment n ++ cstr "DROP TABLE agents;\n") =
      [longComment n, cstr "DROP TABLE agents;\n"] := by
    rw [cut_of_lt pieceSize_pos hlong, List.take_left' hlength, List.drop_left' hlength,
      cut_of_le htail (by decide +kernel)]
  have hnul : 0 ∉ longComment n ++ cstr "DROP TABLE agents;\n" := by
    rw [List.mem_append, not_or]
    exact ⟨hnot 0 (by decide) (by decide), by decide +kernel⟩
  have hexecuted := h (fun _ _ => 0) _ hnul
  rw [readSchema_eq, hlines, List.foldl_cons, List.foldl_nil, hcut, run_cons,
    readPiece_skip _ (hnot 0 (by decide) (by decide)) rfl] at hexecuted
  have hspec : (progress [longComment n ++ cstr "DROP TABLE agents;\n"]).executed = [] := rfl
  rw [hspec] at hexecuted
  revert hexecuted
  decide +kernel

end DbMysql.Schema
