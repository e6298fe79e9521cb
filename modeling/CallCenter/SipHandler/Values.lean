import CallCenter.SipHandler.Parse

/-! # Header Values

    The header fields of a parsed message in terms of the lines of its
    datagram, and the lines of a block that is printed with `headerLine`.

    * Section 1: a field holds the last value with its name
      (`Parsed.headerText`), and what such a value looks like (`FieldText`).
    * Section 2: a printed line has one value, the one that was printed
      (`headerValues_headerLine`). -/

namespace SipHandler

open CFormat CMemory

/-! ## Section 1: Values in a message -/

/-- A text that can stand in a header line and that a field of `n + 1` bytes
    can hold. -/
structure FieldText (n : Nat) (v : CStr) : Prop where
  noNul : 0 ∉ v
  noCrlf : ¬ crlf <:+: v
  noSpace : v.head? ≠ some 32
  fits : v.length ≤ n

theorem noCrlf_iff {s : List UInt8} : splitOn crlf s = none ↔ ¬ crlf <:+: s :=
  splitOn_none_iff (by decide)

theorem storedText_initial (cap : Nat) (value : CStr) : storedText cap value <+: value :=
  (List.takeWhile_prefix _).trans (List.take_prefix _ _)

theorem head_of_prefix {s t : List UInt8} (h : s <+: t) {b : UInt8} (ht : t.head? ≠ some b) :
    s.head? ≠ some b := by
  obtain ⟨d, rfl⟩ := h
  cases s with
  | nil => simp
  | cons c s => simpa using ht

/-- What is kept of a value. -/
theorem storedText_fieldText (cap : Nat) {value : CStr} (hcrlf : ¬ crlf <:+: value)
    (hspace : value.head? ≠ some 32) : FieldText (cap - 1) (storedText cap value) where
  noNul := notMem_text _
  noCrlf := fun h => hcrlf (h.trans (storedText_initial cap value).isInfix)
  noSpace := head_of_prefix (storedText_initial cap value) hspace
  fits := by
    have htext := (List.takeWhile_prefix (· ≠ 0) (l := value.take (cap - 1))).length_le
    have htake : (value.take (cap - 1)).length ≤ cap - 1 := by
      rw [List.length_take]
      omega
    exact htext.trans htake

/-- A text that fits is kept as it is. -/
theorem FieldText.stored {cap : Nat} {v : CStr} (h : FieldText (cap - 1) v) :
    storedText cap v = v := by
  unfold storedText
  rw [List.take_of_length_le h.fits, text_eq_self h.noNul]

theorem fieldText_nil (n : Nat) : FieldText n [] where
  noNul := by simp
  noCrlf := by decide
  noSpace := by simp
  fits := by simp

/-- A value stands behind the colon of its line. -/
theorem valueFor_spec {key line value : CStr} (hline : splitOn crlf line = none)
    (h : valueFor key line = some value) : ¬ crlf <:+: value ∧ value.head? ≠ some 32 := by
  obtain ⟨field, hfield, hvalue⟩ := Option.bind_eq_some_iff.mp h
  obtain ⟨⟨name, back⟩, hsplit, rfl⟩ := Option.map_eq_some_iff.mp hfield
  split at hvalue
  · obtain rfl := Option.some.inj hvalue
    obtain ⟨rfl, -⟩ := splitOn_byte_some hsplit
    constructor
    · intro hcrlf
      have hback : back.dropWhile (· = 32) <:+ name ++ 58 :: back :=
        (List.dropWhile_suffix _).trans ⟨name ++ [58], by simp⟩
      exact noCrlf_iff.mp hline (hcrlf.trans hback.isInfix)
    · intro hhead
      have hnot := List.head?_dropWhile_not (· = (32 : UInt8)) back
      rw [hhead] at hnot
      simp at hnot
  · cases hvalue

theorem headerValues_blank (key : CStr) (rest : List UInt8) :
    headerValues key (crlf ++ rest) = [] := by
  unfold headerValues
  rw [headerLines_blank]
  rfl

theorem headerValues_none (key : CStr) {block : List UInt8} (h : splitOn crlf block = none) :
    headerValues key block = [] := by
  unfold headerValues
  rw [headerLines_none h]
  rfl

theorem headerValues_cons (key : CStr) {line : List UInt8} (hline : splitOn crlf line = none)
    (hne : line ≠ []) (rest : List UInt8) :
    headerValues key (line ++ crlf ++ rest) =
      (valueFor key line).toList ++ headerValues key rest := by
  unfold headerValues
  rw [headerLines_cons hline hne, List.filterMap_cons]
  cases valueFor key line with
  | none => rfl
  | some v => rfl

section Loop

variable {tail : Ptr} {block body : List UInt8} {msg m : SipMessage}

/-- A line replaces the field of its name and no other. -/
theorem LineStored.headerText {line : List UInt8} {eol : Ptr} (h : LineStored line eol msg m)
    (k : TextHeader) :
    m.headerText k = ((valueFor k.key line).map (storedText k.cap)).getD (msg.headerText k) := by
  unfold LineStored at h
  unfold valueFor
  cases hfield : headerField line with
  | none =>
    rw [hfield] at h
    rw [h]
    rfl
  | some field =>
    rw [hfield] at h
    have hother : headerOfKey field.1 ≠ some k → strcaseEq field.1 k.key = false := by
      intro hne
      by_contra heq
      exact hne (headerOfKey_eq (by simpa using heq))
    cases h with
    | @text h' a hkey _ htext =>
      by_cases hk : k = h'
      · subst hk
        simp [SipMessage.headerText, SipMessage.setHeader, headerOfKey_some hkey, htext]
      · have hname := hother (by rw [hkey]; simpa using Ne.symm hk)
        simp [SipMessage.headerText, SipMessage.setHeader, hname, hk]
    | length hkey _ => simp [SipMessage.headerText, hother (by simp [hkey])]
    | other hkey _ => simp [hother (by simp [hkey])]

/-- **Last value wins**: a field holds what is kept of the last value with its
    name. -/
theorem Parsed.headerText (h : Parsed tail block msg m body) (k : TextHeader) :
    m.headerText k =
      ((headerValues k.key block).getLast?.map (storedText k.cap)).getD (msg.headerText k) := by
  induction h with
  | blank rest msg =>
    rw [headerValues_blank]
    rfl
  | stop msg hnone =>
    rw [headerValues_none _ hnone]
    rfl
  | @line line rest body msg m m' hcrlf hne hline hrest ih =>
    rw [headerValues_cons _ hcrlf hne, ih, hline.headerText k, List.getLast?_append]
    cases (headerValues k.key rest).getLast? with
    | none => cases valueFor k.key line <;> simp
    | some v => simp

/-- Every value of the block can stand in a line again. -/
theorem Parsed.values_spec (h : Parsed tail block msg m body) (key : CStr) :
    ∀ v ∈ headerValues key block, ¬ crlf <:+: v ∧ v.head? ≠ some 32 := by
  induction h with
  | blank rest msg => simp [headerValues_blank]
  | stop msg hnone => simp [headerValues_none _ hnone]
  | @line line rest body msg m m' hcrlf hne hline hrest ih =>
    intro v hv
    rw [headerValues_cons _ hcrlf hne] at hv
    rcases List.mem_append.mp hv with hv | hv
    · exact valueFor_spec hcrlf (by simpa using hv)
    · exact ih v hv

/-- A block without a length, or with zero for it. -/
theorem Parsed.contentLength_zero (h : Parsed tail block msg m body)
    (hvalues : ∀ v ∈ headerValues (cstr "Content-Length") block, v = cstr "0")
    (hmsg : msg.contentLength = 0) : m.contentLength = 0 := by
  induction h with
  | blank => exact hmsg
  | stop => exact hmsg
  | @line line rest body msg m m' hcrlf hne hline hrest ih =>
    rw [headerValues_cons _ hcrlf hne] at hvalues
    apply ih
    · intro v hv
      exact hvalues v (List.mem_append_right _ hv)
    · unfold LineStored at hline
      cases hfield : headerField line with
      | none =>
        rw [hfield] at hline
        rw [hline]
        exact hmsg
      | some field =>
        rw [hfield] at hline
        cases hline with
        | text a hkey _ _ => exact hmsg
        | other => exact hmsg
        | length _ hname =>
          have hvalue : valueFor (cstr "Content-Length") line = some field.2 := by
            simp [valueFor, hfield, hname]
          have hzero : field.2 = cstr "0" := hvalues field.2 (by simp [hvalue])
          have hdigit : NoDigitAhead (crlf ++ rest ++ tail) := by
            intro b hb
            obtain rfl : (13 : UInt8) = b := by simpa [crlf] using hb
            decide
          have hread : atoi (cstr "0" ++ (crlf ++ rest ++ tail)) = atoi (cstr "0") :=
            atoi_append (by decide) hdigit
          rw [hzero]
          exact hread

end Loop

/-! ## Section 2: Printed lines -/

/-- A name that can be printed in front of a colon. -/
structure HeaderName (key : CStr) : Prop where
  nonempty : key ≠ []
  noColon : 58 ∉ key
  noCr : 13 ∉ key

theorem crlf_infix_append {s t : List UInt8} (hs : 13 ∉ s) (ht : ¬ crlf <:+: t) :
    ¬ crlf <:+: s ++ t := by
  induction s with
  | nil => exact ht
  | cons b s ih =>
    simp only [List.mem_cons, not_or] at hs
    rw [List.cons_append, List.infix_cons_iff, not_or]
    refine ⟨?_, ih hs.2⟩
    intro hpre
    obtain ⟨d, hd⟩ := hpre
    exact hs.1 (List.cons.inj hd).1

/-- A printed line is cut out again with its name and its value. -/
theorem headerValues_headerLine {key value : CStr} (hkey : HeaderName key)
    (hcrlf : ¬ crlf <:+: value) (hspace : value.head? ≠ some 32) (k : CStr)
    (rest : List UInt8) :
    headerValues k (headerLine key value ++ rest) =
      (if strcaseEq key k then [value] else []) ++ headerValues k rest := by
  have hblank : cstr ": " = [58, 32] := by decide
  have hline : splitOn crlf (key ++ cstr ": " ++ value) = none := by
    rw [noCrlf_iff]
    apply crlf_infix_append _ hcrlf
    rw [hblank]
    simp [hkey.noCr]
  have hfield : headerField (key ++ cstr ": " ++ value) = some (key, value) := by
    have hdrop : value.dropWhile (· = 32) = value := by
      cases value with
      | nil => rfl
      | cons b value => simp at hspace; simp [hspace]
    have hassoc : key ++ cstr ": " ++ value = key ++ 58 :: (32 :: value) := by
      rw [hblank]
      simp
    unfold headerField
    rw [hassoc, splitOn_byte hkey.noColon]
    simp [hdrop]
  have hassoc : headerLine key value ++ rest = key ++ cstr ": " ++ value ++ crlf ++ rest := rfl
  rw [hassoc, headerValues_cons _ hline (by simp [hkey.nonempty])]
  congr 1
  unfold valueFor
  rw [hfield]
  show (if strcaseEq key k = true then some value else none).toList = _
  split
  · rfl
  · rfl

end SipHandler
