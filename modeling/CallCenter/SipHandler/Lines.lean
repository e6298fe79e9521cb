import CallCenter.SipHandler.Message

/-! # Header Lines

    What the header loop makes of a block of bytes, without pointers: the
    block is cut at every CRLF up to the first empty line, a line is cut at
    its first colon, and of the lines with one name the last one stays in
    the message (`sipParseHeaders_spec`).

    The rules before that theorem run the loop over a block that is given
    line by line. -/

namespace SipHandler

open CFormat CMemory

/-! ## Section 1: Blocks, lines and fields -/

/-- The lines of a block that end with CRLF; `cur` is the reversed line so far. -/
def linesFrom (cur : List UInt8) : List UInt8 → List (List UInt8)
  | [] => []
  | 13 :: 10 :: rest => cur.reverse :: linesFrom [] rest
  | b :: rest => linesFrom (b :: cur) rest

/-- The lines up to the first empty one. -/
def headerLines (block : List UInt8) : List (List UInt8) :=
  (linesFrom [] block).takeWhile (· ≠ [])

/-- The name and the value of a line. -/
def headerField (line : List UInt8) : Option (CStr × CStr) :=
  (splitOn [58] line).map fun r => (r.1, r.2.dropWhile (· = 32))

/-- The value of a line with the name `key`. -/
def valueFor (key : CStr) (line : List UInt8) : Option CStr :=
  (headerField line).bind fun field => if strcaseEq field.1 key then some field.2 else none

/-- The values of the lines with the name `key`, in order. -/
def headerValues (key : CStr) (block : List UInt8) : List CStr :=
  (headerLines block).filterMap (valueFor key)

/-- What is left of a value in a field of the message. -/
def storedText (cap : Nat) (value : CStr) : CStr := text (value.take (cap - 1))

theorem crlf_isPrefixOf (b : UInt8) (rest : List UInt8) :
    crlf.isPrefixOf (b :: rest) = true ↔ b = 13 ∧ ∃ t, rest = 10 :: t := by
  rw [List.isPrefixOf_iff_prefix]
  constructor
  · rintro ⟨t, ht⟩
    obtain ⟨rfl, rfl⟩ := List.cons.inj ht
    exact ⟨rfl, t, rfl⟩
  · rintro ⟨rfl, t, rfl⟩
    exact ⟨t, rfl⟩

theorem linesFrom_eq (cur block : List UInt8) :
    linesFrom cur block =
      match splitOn crlf block with
      | none => []
      | some (s, t) => (cur.reverse ++ s) :: linesFrom [] t := by
  induction block generalizing cur with
  | nil => rfl
  | cons b block ih =>
    by_cases hpre : crlf.isPrefixOf (b :: block) = true
    · rw [splitOn, if_pos hpre]
      obtain ⟨rfl, t, rfl⟩ := (crlf_isPrefixOf b block).mp hpre
      simp [linesFrom, crlf]
    · rw [splitOn, if_neg hpre]
      have hstep : linesFrom cur (b :: block) = linesFrom (b :: cur) block := by
        rw [linesFrom]
        intro t hb hblock
        exact hpre ((crlf_isPrefixOf b block).mpr ⟨hb, t, hblock⟩)
      rw [hstep, ih]
      cases splitOn crlf block with
      | none => rfl
      | some r => simp

/-- A CRLF behind bytes without one ends their line. -/
theorem splitOn_crlf {line : List UInt8} (hline : splitOn crlf line = none) (rest : List UInt8) :
    splitOn crlf (line ++ crlf ++ rest) = some (line, rest) := by
  induction line with
  | nil => simp [splitOn, crlf]
  | cons b line ih =>
    rw [splitOn] at hline
    split at hline
    · simp at hline
    · next hpre =>
      have hline' : splitOn crlf line = none := by simpa using hline
      have hpre' : ¬ crlf.isPrefixOf (b :: (line ++ crlf ++ rest)) = true := by
        intro h
        obtain ⟨rfl, t, ht⟩ := (crlf_isPrefixOf _ _).mp h
        apply hpre
        rw [crlf_isPrefixOf]
        cases line with
        | nil => simp [crlf] at ht
        | cons c line =>
          obtain ⟨rfl, -⟩ := List.cons.inj ht
          exact ⟨rfl, line, rfl⟩
      rw [List.cons_append, List.cons_append, splitOn, if_neg hpre', ih hline']
      rfl

/-- What stands before the first CRLF has none. -/
theorem splitOn_front {p s t : List UInt8} (h : splitOn crlf p = some (s, t)) :
    splitOn crlf s = none := by
  induction p generalizing s with
  | nil => simp [splitOn] at h
  | cons b p ih =>
    rw [splitOn] at h
    split at h
    · obtain ⟨rfl, rfl⟩ := Prod.mk.inj (Option.some.inj h)
      rfl
    · next hpre =>
      obtain ⟨⟨s', t'⟩, hrec, heq⟩ := Option.map_eq_some_iff.mp h
      obtain ⟨rfl, rfl⟩ := Prod.mk.inj heq
      have hp := splitOn_some hrec
      have hpre' : ¬ crlf.isPrefixOf (b :: s') = true := by
        intro hc
        obtain ⟨rfl, t, rfl⟩ := (crlf_isPrefixOf _ _).mp hc
        exact hpre ((crlf_isPrefixOf _ _).mpr ⟨rfl, t ++ crlf ++ t', by simp [hp]⟩)
      rw [splitOn, if_neg hpre', ih hrec]
      rfl

theorem headerLines_blank (rest : List UInt8) : headerLines (crlf ++ rest) = [] := by
  unfold headerLines
  rw [linesFrom_eq]
  have hnil : splitOn crlf [] = none := rfl
  have hsplit : splitOn crlf (crlf ++ rest) = some ([], rest) := splitOn_crlf hnil rest
  simp [hsplit]

theorem headerLines_cons {line : List UInt8} (hline : splitOn crlf line = none)
    (hne : line ≠ []) (rest : List UInt8) :
    headerLines (line ++ crlf ++ rest) = line :: headerLines rest := by
  unfold headerLines
  rw [linesFrom_eq, splitOn_crlf hline]
  simp [hne]

theorem headerLines_none {block : List UInt8} (h : splitOn crlf block = none) :
    headerLines block = [] := by
  unfold headerLines
  rw [linesFrom_eq, h]
  rfl

/-! ## Section 2: One line -/

/-- The first header of the chain with the name. -/
def headerOfKey (key : CStr) : Option TextHeader := textHeaders.find? fun h => strcaseEq key h.key

theorem strcaseEq_iff {s t : CStr} : strcaseEq s t = true ↔ s.map toLower = t.map toLower := by
  simp [strcaseEq]

/-- The names are different. -/
theorem headerOfKey_eq {key : CStr} {h : TextHeader} (hkey : strcaseEq key h.key = true) :
    headerOfKey key = some h := by
  have hsame : ∀ h' : TextHeader, strcaseEq key h'.key = strcaseEq h.key h'.key := by
    intro h'
    rw [Bool.eq_iff_iff, strcaseEq_iff, strcaseEq_iff, strcaseEq_iff.mp hkey]
  unfold headerOfKey
  simp only [hsame]
  cases h <;> decide

theorem headerOfKey_some {key : CStr} {h : TextHeader} (hfound : headerOfKey key = some h) :
    strcaseEq key h.key = true := by
  simpa using List.find?_some hfound

theorem strncaseEq_append {s key : CStr} (hlen : s.length = key.length) (rest : Ptr) :
    strncaseEq key (s ++ rest) = .ok (strcaseEq s key) := by
  induction key generalizing s with
  | nil =>
    obtain rfl := List.length_eq_zero_iff.mp hlen
    rfl
  | cons c key ih =>
    cases s with
    | nil => simp at hlen
    | cons b s =>
      rw [List.cons_append, strncaseEq]
      split
      · next hb =>
        rw [ih (by simpa using hlen)]
        simp [strcaseEq, hb]
      · next hb => simp [strcaseEq, hb]

theorem keyIs_append (s key : CStr) (rest : Ptr) :
    keyIs key s.length (s ++ rest) = .ok (strcaseEq s key) := by
  unfold keyIs
  split
  · next hlen => exact strncaseEq_append (by exact_mod_cast hlen) rest
  · next hlen =>
    have hne : strcaseEq s key = false := by
      rw [Bool.eq_false_iff, ne_eq, strcaseEq_iff]
      intro h
      have hlens := congrArg List.length h
      rw [List.length_map, List.length_map] at hlens
      exact hlen (by exact_mod_cast hlens)
    rw [hne]

theorem findHeader_append (s : CStr) (rest : Ptr) (hs : List TextHeader) :
    findHeader s.length (s ++ rest) hs = .ok (hs.find? fun h => strcaseEq s h.key) := by
  induction hs with
  | nil => rfl
  | cons h hs ih =>
    rw [findHeader, keyIs_append]
    show (if strcaseEq s h.key = true then _ else _) = _
    split
    · next hfound =>
      rw [List.find?_cons_of_pos (by simpa using hfound)]
      rfl
    · next hfound =>
      rw [List.find?_cons_of_neg (by simpa using hfound)]
      exact ih

theorem skipSpaces_append (v : List UInt8) (rest : Ptr) :
    skipSpaces v.length (v ++ rest) = .ok (v.dropWhile (· = 32) ++ rest) := by
  induction v with
  | nil => rfl
  | cons b v ih =>
    rw [List.cons_append, List.length_cons, skipSpaces]
    split
    · next hb => simpa [hb] using ih
    · next hb => simp [hb]

theorem ptrDiff_append (s p : Ptr) : ptrDiff p (s ++ p) = s.length := by
  unfold ptrDiff
  rw [List.length_append]
  omega

/-- A line without a colon is skipped. -/
theorem sipParseHeader_none {line : List UInt8} (h : headerField line = none) (eol : Ptr)
    (msg : SipMessage) : sipParseHeader (line ++ eol) eol msg = .ok msg := by
  have hcolon : 58 ∉ line := splitOn_byte_none (by simpa [headerField] using h)
  have hchr : memchr 58 line.length (line ++ eol) = .ok none := by
    apply memchr_missing (by simp)
    simpa using hcolon
  unfold sipParseHeader
  rw [ptrDiff_append, Int.toNat_natCast, hchr]
  rfl

/-- A line with a colon goes to the chain with its name and its value. -/
theorem sipParseHeader_some {line : List UInt8} {field : CStr × CStr}
    (h : headerField line = some field) (eol : Ptr) (msg : SipMessage) :
    ∃ rest, line ++ eol = field.1 ++ rest ∧
      sipParseHeader (line ++ eol) eol msg =
        storeHeader (field.1 ++ rest) field.1.length (field.2 ++ eol) field.2.length msg := by
  obtain ⟨⟨name, back⟩, hsplit, rfl⟩ := Option.map_eq_some_iff.mp h
  obtain ⟨rfl, hname⟩ := splitOn_byte_some hsplit
  refine ⟨58 :: (back ++ eol), by simp, ?_⟩
  have hlist : name ++ 58 :: back ++ eol = name ++ 58 :: (back ++ eol) := by simp
  have hchr : memchr 58 (name ++ 58 :: back).length (name ++ 58 :: (back ++ eol)) =
      .ok (some (58 :: (back ++ eol))) := by
    apply memchr_found hname
    simp
  unfold sipParseHeader
  rw [ptrDiff_append, Int.toNat_natCast, hlist, hchr]
  show (do
    let valueStart ← skipSpaces (ptrDiff eol (back ++ eol)).toNat (back ++ eol)
    storeHeader _ (ptrDiff (58 :: (back ++ eol)) (name ++ 58 :: (back ++ eol))) valueStart
      (ptrDiff eol valueStart) msg) = _
  rw [ptrDiff_append, ptrDiff_append, Int.toNat_natCast, skipSpaces_append]
  show storeHeader _ _ _ (ptrDiff eol (back.dropWhile (· = 32) ++ eol)) msg = _
  rw [ptrDiff_append]

/-- What a line with the given name and value does to the message; `eol` is
    what follows the value. -/
inductive Stored (name value : CStr) (eol : Ptr) (msg : SipMessage) : SipMessage → Prop where
  | text {h : TextHeader} (a : CharArray h.cap) : headerOfKey name = some h →
      Terminated a.bytes → a.cstring = storedText h.cap value →
      Stored name value eol msg (msg.setHeader h a)
  | length : headerOfKey name = none → strcaseEq name (cstr "Content-Length") = true →
      Stored name value eol msg { msg with contentLength := atoi (value ++ eol) }
  | other : headerOfKey name = none → strcaseEq name (cstr "Content-Length") = false →
      Stored name value eol msg msg

/-- The part of a value that is copied leaves room for the NUL. -/
theorem length_take_cap (h : TextHeader) (value : CStr) :
    (value.take (h.cap - 1)).length < h.cap := by
  have hcap : 0 < h.cap := by cases h <;> decide
  rw [List.length_take]
  omega

/-- The message after a line with the given name and value, which `eol` follows. -/
def fieldResult (name value : CStr) (eol : Ptr) (msg : SipMessage) : SipMessage :=
  match headerOfKey name with
  | some h =>
    msg.setHeader h ((msg.header h).overwrite (value.take (h.cap - 1)) (length_take_cap h value))
  | none =>
    if strcaseEq name (cstr "Content-Length") then { msg with contentLength := atoi (value ++ eol) }
    else msg

theorem storeHeader_eq (name value : CStr) (rest : Ptr) {eol : Ptr} (heol : Terminated eol)
    (msg : SipMessage) :
    storeHeader (name ++ rest) name.length (value ++ eol) value.length msg =
      .ok (fieldResult name value eol msg) := by
  unfold storeHeader fieldResult
  rw [findHeader_append]
  show (match headerOfKey name with
    | some h => _
    | none => _) = _
  cases hkey : headerOfKey name with
  | some h =>
    have hfit := length_take_cap h value
    -- the copy ends with the value or one byte before the end of the field
    have hlen : copyLen h.cap value.length = ((value.take (h.cap - 1)).length : Nat) := by
      rw [List.length_take] at hfit ⊢
      unfold copyLen
      split <;> omega
    have htake : (value ++ eol).take (value.take (h.cap - 1)).length = value.take (h.cap - 1) := by
      have hle : (value.take (h.cap - 1)).length ≤ value.length := List.length_take_le' _ _
      rw [List.take_append_of_le_length hle, List.length_take, Nat.min_comm, ← List.take_take]
      exact List.take_of_length_le hle
    dsimp only
    rw [CharArray.copyText_eq _ hfit hlen htake]
    rfl
  | none =>
    show storeContentLength _ _ _ _ = _
    unfold storeContentLength
    rw [keyIs_append]
    show (if strcaseEq name (cstr "Content-Length") = true then _ else _) = _
    dsimp only
    split
    · have hvalue : Terminated (value ++ eol) := List.mem_append_right _ heol
      rw [atoiAt_eq hvalue]
      rfl
    · rfl

theorem stored_fieldResult (name value : CStr) (eol : Ptr) (msg : SipMessage) :
    Stored name value eol msg (fieldResult name value eol msg) := by
  unfold fieldResult
  cases hkey : headerOfKey name with
  | some h =>
    exact Stored.text _ hkey (CharArray.terminated_overwrite _ _) (CharArray.cstring_overwrite _ _)
  | none =>
    dsimp only
    split
    · next hname => exact Stored.length hkey hname
    · next hname => exact Stored.other hkey (by simpa using hname)

/-- The message after a line. -/
def lineResult (line : List UInt8) (eol : Ptr) (msg : SipMessage) : SipMessage :=
  match headerField line with
  | none => msg
  | some field => fieldResult field.1 field.2 eol msg

theorem sipParseHeader_eq (line : List UInt8) {eol : Ptr} (heol : Terminated eol)
    (msg : SipMessage) :
    sipParseHeader (line ++ eol) eol msg = .ok (lineResult line eol msg) := by
  unfold lineResult
  cases hfield : headerField line with
  | none => exact sipParseHeader_none hfield eol msg
  | some field =>
    obtain ⟨rest, -, heq⟩ := sipParseHeader_some hfield eol msg
    rw [heq]
    exact storeHeader_eq field.1 field.2 rest heol msg

/-- What a line does to the message. -/
def LineStored (line : List UInt8) (eol : Ptr) (msg m : SipMessage) : Prop :=
  match headerField line with
  | none => m = msg
  | some field => Stored field.1 field.2 eol msg m

theorem lineStored_lineResult (line : List UInt8) (eol : Ptr) (msg : SipMessage) :
    LineStored line eol msg (lineResult line eol msg) := by
  unfold LineStored lineResult
  cases headerField line with
  | none => rfl
  | some field => exact stored_fieldResult field.1 field.2 eol msg

/-! ## Section 3: The loop -/

/-- `Parsed tail block msg m body`: the loop over the block, which `tail`
    follows, turns `msg` into `m` and leaves `body`. -/
inductive Parsed (tail : Ptr) : List UInt8 → SipMessage → SipMessage → List UInt8 → Prop where
  | blank (rest : List UInt8) (msg : SipMessage) : Parsed tail (crlf ++ rest) msg msg rest
  | stop {block : List UInt8} (msg : SipMessage) : splitOn crlf block = none →
      Parsed tail block msg msg block
  | line {line rest body : List UInt8} {msg m m' : SipMessage} : splitOn crlf line = none →
      line ≠ [] → LineStored line (crlf ++ rest ++ tail) msg m → Parsed tail rest m m' body →
      Parsed tail (line ++ crlf ++ rest) msg m' body

theorem blankLine_eq (block : List UInt8) (tail : Ptr) :
    blankLine (block ++ tail) block.length = .ok (crlf.isPrefixOf block) := by
  unfold blankLine
  split
  · next hlen =>
    have hcrlf : crlf.length ≤ block.length := hlen
    rw [startsWith_eq (by rw [List.length_append]; omega)]
    congr 1
    rw [Bool.eq_iff_iff, List.isPrefixOf_iff_prefix, List.isPrefixOf_iff_prefix]
    constructor
    · intro h
      exact List.prefix_of_prefix_length_le h (List.prefix_append _ _) hcrlf
    · intro h
      exact h.trans (List.prefix_append _ _)
  · next hlen =>
    have hne : crlf.isPrefixOf block = false := by
      rw [Bool.eq_false_iff, ne_eq, List.isPrefixOf_iff_prefix]
      intro h
      have hle := h.length_le
      simp only [crlf, List.length_cons, List.length_nil] at hle
      omega
    rw [hne]

/-- The empty line ends the loop. -/
theorem sipParseHeaders_blank (fuel : Nat) (rest : List UInt8) (tail : Ptr) (msg : SipMessage) :
    sipParseHeaders (fuel + 1) (crlf ++ rest ++ tail) (crlf ++ rest).length msg =
      .ok (msg, rest ++ tail, rest.length) := by
  have hlen : (crlf ++ rest).length = rest.length + 1 + 1 := by simp [crlf]
  have hblank : crlf.isPrefixOf (crlf ++ rest) = true := by simp
  rw [hlen, sipParseHeaders, ← hlen, blankLine_eq, hblank]
  show Except.ok (msg, (crlf ++ rest ++ tail).drop 2, (crlf ++ rest).length - 2) = _
  rw [hlen]
  rfl

/-- So does a block without a CRLF. -/
theorem sipParseHeaders_stop {fuel : Nat} {block : List UInt8} (hfuel : block.length ≤ fuel)
    (h : splitOn crlf block = none) (tail : Ptr) (msg : SipMessage) :
    sipParseHeaders fuel (block ++ tail) block.length msg =
      .ok (msg, block ++ tail, block.length) := by
  have hblank : ¬ crlf.isPrefixOf block = true := by
    intro hpre
    obtain ⟨rest, rfl⟩ := List.isPrefixOf_iff_prefix.mp hpre
    exact absurd h (by simp [crlf, splitOn])
  cases hlen : block.length with
  | zero => rw [sipParseHeaders]
  | succ n =>
    obtain ⟨k, rfl⟩ : ∃ k, fuel = k + 1 := ⟨fuel - 1, by omega⟩
    rw [sipParseHeaders, ← hlen, blankLine_eq]
    show (if crlf.isPrefixOf block = true then _ else _) = _
    have hshort : block.length ≤ (block ++ tail).length := by simp
    rw [if_neg hblank, memmem_eq hshort, List.take_left, h]
    rfl

/-- One round of the loop. -/
theorem sipParseHeaders_line {line : List UInt8} (hline : splitOn crlf line = none)
    (hne : line ≠ []) (fuel : Nat) (rest : List UInt8) {tail : Ptr} (htail : Terminated tail)
    (msg : SipMessage) :
    sipParseHeaders (fuel + 1) (line ++ crlf ++ rest ++ tail) (line ++ crlf ++ rest).length msg =
      sipParseHeaders fuel (rest ++ tail) rest.length
        (lineResult line (crlf ++ rest ++ tail) msg) := by
  have hlen : (line ++ crlf ++ rest).length = line.length + 1 + rest.length + 1 := by
    simp only [List.length_append, crlf, List.length_cons, List.length_nil]
    omega
  have hassoc : line ++ crlf ++ rest ++ tail = line ++ (crlf ++ rest ++ tail) := by simp
  have hshort : (line ++ crlf ++ rest).length ≤ (line ++ crlf ++ rest ++ tail).length := by simp
  have heol : Terminated (crlf ++ rest ++ tail) := List.mem_append_right _ htail
  have hblank : ¬ crlf.isPrefixOf (line ++ crlf ++ rest) = true := by
    obtain ⟨b, line, rfl⟩ := List.exists_cons_of_ne_nil hne
    rw [List.append_assoc, List.cons_append, crlf_isPrefixOf]
    rintro ⟨rfl, t, ht⟩
    -- the line itself would begin with a CRLF
    have hpre : ¬ crlf.isPrefixOf (13 :: line) = true := by
      intro hpre
      rw [splitOn, if_pos hpre] at hline
      cases hline
    rw [crlf_isPrefixOf] at hpre
    cases line with
    | nil => simp [crlf] at ht
    | cons c line => exact hpre ⟨rfl, line, by rw [(List.cons.inj ht).1]⟩
  rw [hlen, sipParseHeaders, ← hlen, blankLine_eq]
  show (if crlf.isPrefixOf (line ++ crlf ++ rest) = true then _ else _) = _
  rw [if_neg hblank, memmem_eq hshort, List.take_left, splitOn_crlf hline]
  show (do
    let m ← sipParseHeader (line ++ crlf ++ rest ++ tail)
      ((line ++ crlf ++ rest ++ tail).drop line.length) msg
    sipParseHeaders fuel (((line ++ crlf ++ rest ++ tail).drop line.length).drop 2)
      ((line ++ crlf ++ rest).length - ((ptrDiff
        ((line ++ crlf ++ rest ++ tail).drop line.length)
        (line ++ crlf ++ rest ++ tail)).toNat + 2)) m) = _
  have hrest : (line ++ crlf ++ rest).length - (line.length + 2) = rest.length := by omega
  rw [hassoc, List.drop_left, ptrDiff_append, Int.toNat_natCast, sipParseHeader_eq line heol, hrest]
  rfl

/-- **The header loop** ends without a fault. -/
theorem sipParseHeaders_spec {tail : Ptr} (htail : Terminated tail) {fuel : Nat}
    {block : List UInt8} (hfuel : block.length ≤ fuel) (msg : SipMessage) :
    Ends (sipParseHeaders fuel (block ++ tail) block.length msg) fun r =>
      ∃ body, r.2.1 = body ++ tail ∧ r.2.2 = body.length ∧ Parsed tail block msg r.1 body := by
  induction fuel generalizing block msg with
  | zero =>
    obtain rfl := List.length_eq_zero_iff.mp (by omega : block.length = 0)
    exact Ends.of_eq (sipParseHeaders_stop hfuel rfl tail msg) ⟨[], rfl, rfl, .stop msg rfl⟩
  | succ fuel ih =>
    cases hsplit : splitOn crlf block with
    | none =>
      exact Ends.of_eq (sipParseHeaders_stop hfuel hsplit tail msg)
        ⟨block, rfl, rfl, .stop msg hsplit⟩
    | some r =>
      obtain ⟨line, rest⟩ := r
      have hline := splitOn_front hsplit
      obtain rfl := splitOn_some hsplit
      by_cases hne : line = []
      · subst hne
        exact Ends.of_eq (sipParseHeaders_blank fuel rest tail msg)
          ⟨rest, rfl, rfl, Parsed.blank rest msg⟩
      · have hless : rest.length ≤ fuel := by
          simp only [List.length_append, crlf, List.length_cons, List.length_nil] at hfuel
          omega
        rw [sipParseHeaders_line hline hne fuel rest htail]
        apply Ends.mono (ih hless _)
        rintro r ⟨body, hptr, hremain, hparsed⟩
        exact ⟨body, hptr, hremain,
          Parsed.line hline hne (lineStored_lineResult _ _ _) hparsed⟩

end SipHandler
