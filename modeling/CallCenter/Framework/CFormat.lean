import Mathlib.Data.Nat.Digits.Lemmas
import Mathlib.Data.List.Basic
import Mathlib.Data.List.TakeWhile
import Mathlib.Tactic.Linarith

/-! # C Strings, `snprintf` and `sscanf`

    The part of C's formatted input and output that record codecs use.
    A C string is the list of its bytes, without the terminating NUL.

    * `intText` is what `%d` prints, `scanInt` what `%d` reads, `atoi` the
      library function.
    * `snprintf` cuts its text to the buffer.
    * `sscanf` reads `%N[^c]`, `%d` and literal bytes, and returns the values
      assigned before the first failure.  A `%N[^c]` directive has no empty
      match, which is the point where codecs of this kind break.

    The rules `sscanf_set_cons`, `sscanf_lit_cons`, `sscanf_int_cons` and
    `sscanf_set_fail` run a scan over a text built from fields. -/

namespace CFormat

/-- A C string: its bytes before the terminating NUL. -/
abbrev CStr : Type := List UInt8

/-- Whether a string is in a list of strings is decided with this instance. -/
instance : LawfulBEq CStr := inferInstance

/-- The bytes of a string literal (UTF-8). -/
def cstr (s : String) : CStr := s.toList.flatMap String.utf8EncodeChar

/-! ## Integers -/

/-- The ASCII digit of `d`. -/
def digitByte (d : Nat) : UInt8 := UInt8.ofNat (48 + d)

def isDigit (b : UInt8) : Bool := 48 ≤ b && b ≤ 57

/-- `isspace` in the C locale. -/
def isSpace (b : UInt8) : Bool := b == 32 || (9 ≤ b && b ≤ 13)

def natText (n : Nat) : CStr :=
  if n = 0 then [48] else (Nat.digits 10 n).reverse.map digitByte

/-- What `%d` prints. -/
def intText (v : Int32) : CStr :=
  if v.toInt < 0 then 45 :: natText v.toInt.natAbs else natText v.toInt.natAbs

/-- What `%ld` prints. -/
def longText (v : Int) : CStr :=
  if v < 0 then 45 :: natText v.natAbs else natText v.natAbs

def digitsValue (ds : CStr) : Nat := ds.foldl (fun acc d => 10 * acc + (d.toNat - 48)) 0

/-- An optional sign, and whether it is a minus. -/
def scanSign : CStr → Bool × CStr
  | 45 :: rest => (true, rest)
  | 43 :: rest => (false, rest)
  | s => (false, s)

/-- The longest integer at the front, after white space, and what follows it. -/
def scanInt (s : CStr) : Option (Int × CStr) :=
  let (negative, s) := scanSign (s.dropWhile isSpace)
  let ds := s.takeWhile isDigit
  if ds = [] then none
  else some (if negative then -(digitsValue ds : Int) else digitsValue ds, s.drop ds.length)

/-- `strtol` saturates at `long`, and the result is then converted to `int`. -/
def toCInt (v : Int) : Int32 := Int32.ofInt (max (-2 ^ 63) (min v (2 ^ 63 - 1)))

def atoi (s : CStr) : Int32 :=
  match scanInt s with
  | some (v, _) => toCInt v
  | none => 0

/-! ### Printing and reading integers -/

theorem digitByte_toNat {d : Nat} (hd : d < 10) : (digitByte d).toNat = 48 + d := by
  simp only [digitByte, UInt8.toNat_ofNat']
  omega

theorem isDigit_digitByte {d : Nat} (hd : d < 10) : isDigit (digitByte d) = true := by
  have h := digitByte_toNat hd
  simp only [isDigit, Bool.and_eq_true, decide_eq_true_eq, UInt8.le_iff_toNat_le, h]
  exact ⟨by simp, by simp; omega⟩

theorem natText_ne_nil (n : Nat) : natText n ≠ [] := by
  unfold natText
  split
  · simp
  · next hn => simp [Nat.digits_ne_nil_iff_ne_zero.mpr hn]

theorem isDigit_of_mem_natText {n : Nat} {b : UInt8} (hb : b ∈ natText n) : isDigit b = true := by
  unfold natText at hb
  split at hb
  · simp only [List.mem_singleton] at hb
    subst hb
    decide
  · simp only [List.mem_map, List.mem_reverse] at hb
    obtain ⟨d, hd, rfl⟩ := hb
    exact isDigit_digitByte (Nat.digits_lt_base (by omega) hd)

theorem digitsValue_map (ds : List Nat) (hds : ∀ d ∈ ds, d < 10) :
    digitsValue (ds.reverse.map digitByte) = Nat.ofDigits 10 ds := by
  unfold digitsValue
  rw [List.foldl_map, List.foldl_reverse, Nat.ofDigits_eq_foldr]
  induction ds with
  | nil => rfl
  | cons d ds ih =>
    have hd : d < 10 := hds d List.mem_cons_self
    have htail := ih fun e he => hds e (List.mem_cons_of_mem _ he)
    simp only [List.foldr_cons, digitByte_toNat hd]
    rw [htail, Nat.cast_id]
    omega

theorem digitsValue_natText (n : Nat) : digitsValue (natText n) = n := by
  unfold natText
  split
  · next hn =>
    subst hn
    decide
  · rw [digitsValue_map _ fun d hd => Nat.digits_lt_base (by omega) hd, Nat.ofDigits_digits]

/-- The text of a number of four digits. -/
theorem natText_four {n : Nat} (hlo : 1000 ≤ n) (hhi : n ≤ 9999) :
    natText n = [digitByte (n / 1000), digitByte (n / 100 % 10), digitByte (n / 10 % 10),
      digitByte (n % 10)] := by
  have hten : n / 10 / 10 = n / 100 := by omega
  have hhundred : n / 100 / 10 = n / 1000 := by omega
  unfold natText
  rw [if_neg (by omega), Nat.digits_def' (by omega) (by omega),
    Nat.digits_def' (by omega) (by omega), hten, Nat.digits_def' (by omega) (by omega), hhundred,
    Nat.digits_of_lt 10 (n / 1000) (by omega) (by omega)]
  rfl

/-- A digit is the text of its value. -/
theorem digitByte_value {b : UInt8} (hb : isDigit b = true) :
    digitByte (b.toNat - 48) = b ∧ b.toNat - 48 < 10 := by
  simp only [isDigit, Bool.and_eq_true, decide_eq_true_eq, UInt8.le_iff_toNat_le] at hb
  obtain ⟨hlo, hhi⟩ := hb
  have hlo' : 48 ≤ b.toNat := hlo
  have hhi' : b.toNat ≤ 57 := hhi
  refine ⟨?_, by omega⟩
  unfold digitByte
  rw [show 48 + (b.toNat - 48) = b.toNat by omega]
  exact UInt8.ofNat_toNat

/-- A text that does not go on with a digit. -/
def NoDigitAhead (s : CStr) : Prop := ∀ b, s.head? = some b → isDigit b = false

theorem takeWhile_natText {n : Nat} {rest : CStr} (hrest : NoDigitAhead rest) :
    (natText n ++ rest).takeWhile isDigit = natText n := by
  have hall : ∀ b ∈ natText n, isDigit b = true := fun b hb => isDigit_of_mem_natText hb
  rw [List.takeWhile_append_of_pos hall]
  cases rest with
  | nil => simp
  | cons b rest => simp [hrest b rfl]

/-- The first byte of a printed number is a digit, neither a sign nor a space. -/
theorem natText_cons (n : Nat) : ∃ d ds, natText n = d :: ds ∧ isDigit d = true := by
  cases htext : natText n with
  | nil => exact absurd htext (natText_ne_nil n)
  | cons d ds => exact ⟨d, ds, rfl, isDigit_of_mem_natText (n := n) (by simp [htext])⟩

theorem not_sign_of_isDigit {d : UInt8} (hd : isDigit d = true) :
    isSpace d = false ∧ d ≠ 45 ∧ d ≠ 43 := by
  simp only [isDigit, Bool.and_eq_true, decide_eq_true_eq, UInt8.le_iff_toNat_le] at hd
  obtain ⟨hlo, hhi⟩ := hd
  have hlo' : 48 ≤ d.toNat := by simpa using hlo
  refine ⟨?_, ?_, ?_⟩
  · simp only [isSpace, Bool.or_eq_false_iff, beq_eq_false_iff_ne, ne_eq, Bool.and_eq_false_iff,
      decide_eq_false_iff_not, UInt8.le_iff_toNat_le]
    refine ⟨?_, Or.inr ?_⟩
    · rintro rfl
      simp at hlo'
    · simp
      omega
  · rintro rfl
    simp at hlo'
  · rintro rfl
    simp at hlo'

theorem scanSign_cons {d : UInt8} {s : CStr} (hminus : d ≠ 45) (hplus : d ≠ 43) :
    scanSign (d :: s) = (false, d :: s) := by
  unfold scanSign
  split
  · next heq => exact absurd (List.cons.inj heq).1 hminus
  · next heq => exact absurd (List.cons.inj heq).1 hplus
  · rfl

theorem scanInt_natText {n : Nat} {rest : CStr} (hrest : NoDigitAhead rest) :
    scanInt (natText n ++ rest) = some ((n : Int), rest) := by
  have htake := takeWhile_natText (n := n) hrest
  have hvalue := digitsValue_natText n
  obtain ⟨d, ds, htext, hd⟩ := natText_cons n
  rw [htext] at htake hvalue
  obtain ⟨hspace, hminus, hplus⟩ := not_sign_of_isDigit hd
  simp only [htext, List.cons_append] at htake ⊢
  have hsign : scanSign ((d :: (ds ++ rest)).dropWhile isSpace) = (false, d :: (ds ++ rest)) := by
    rw [List.dropWhile_cons_of_neg (by simp [hspace])]
    exact scanSign_cons hminus hplus
  simp only [scanInt, hsign, htake, hvalue]
  simp

theorem scanInt_neg_natText {n : Nat} {rest : CStr} (hrest : NoDigitAhead rest) :
    scanInt (45 :: natText n ++ rest) = some (-(n : Int), rest) := by
  have htake := takeWhile_natText (n := n) hrest
  have hvalue := digitsValue_natText n
  have hsign :
      scanSign ((45 :: natText n ++ rest).dropWhile isSpace) = (true, natText n ++ rest) := by
    rw [List.cons_append, List.dropWhile_cons_of_neg (by decide)]
    rfl
  simp only [scanInt, hsign, htake, hvalue]
  simp [natText_ne_nil n]

/-- `%d` reads back what `%d` printed. -/
theorem scanInt_intText {v : Int32} {rest : CStr} (hrest : NoDigitAhead rest) :
    scanInt (intText v ++ rest) = some (v.toInt, rest) := by
  unfold intText
  split
  · next hneg =>
    rw [scanInt_neg_natText hrest]
    simp only [Option.some.injEq, Prod.mk.injEq, and_true]
    omega
  · next hneg =>
    rw [scanInt_natText hrest]
    simp only [Option.some.injEq, Prod.mk.injEq, and_true]
    omega

theorem toCInt_toInt (v : Int32) : toCInt v.toInt = v := by
  have hlo := v.le_toInt
  have hhi := v.toInt_lt
  unfold toCInt
  rw [min_eq_left (by omega), max_eq_right (by omega), Int32.ofInt_toInt]

theorem atoi_intText_append {v : Int32} {rest : CStr} (hrest : NoDigitAhead rest) :
    atoi (intText v ++ rest) = v := by
  simp [atoi, scanInt_intText hrest, toCInt_toInt]

theorem atoi_intText (v : Int32) : atoi (intText v) = v := by
  have h : atoi (intText v ++ []) = v := atoi_intText_append (by simp [NoDigitAhead])
  rwa [List.append_nil] at h

/-- What comes behind a number is not looked at, if there is more than white
    space before it. -/
theorem atoi_append {s rest : CStr} (hs : ∃ b ∈ s, isSpace b = false) (hrest : NoDigitAhead rest) :
    atoi (s ++ rest) = atoi s := by
  obtain ⟨b, t, hdrop⟩ : ∃ b t, s.dropWhile isSpace = b :: t := by
    cases hcase : s.dropWhile isSpace with
    | nil =>
      obtain ⟨b, hb, hspace⟩ := hs
      have hall := List.dropWhile_eq_nil_iff.mp hcase b hb
      rw [hspace] at hall
      cases hall
    | cons b t => exact ⟨b, t, rfl⟩
  have hnil : (s.dropWhile isSpace).isEmpty = false := by rw [hdrop]; rfl
  have happend : (s ++ rest).dropWhile isSpace = b :: t ++ rest := by
    rw [List.dropWhile_append, hnil, hdrop]
    rfl
  have hsign : scanSign (b :: t ++ rest) =
      ((scanSign (b :: t)).1, (scanSign (b :: t)).2 ++ rest) := by
    by_cases hminus : b = 45
    · subst hminus
      rfl
    · by_cases hplus : b = 43
      · subst hplus
        rfl
      · rw [List.cons_append, scanSign_cons hminus hplus, scanSign_cons hminus hplus]
        rfl
  have hdigits : ∀ u : CStr, (u ++ rest).takeWhile isDigit = u.takeWhile isDigit := by
    intro u
    induction u with
    | nil =>
      cases rest with
      | nil => rfl
      | cons c rest => simp [hrest c rfl]
    | cons c u ih =>
      rw [List.cons_append, List.takeWhile_cons, List.takeWhile_cons, ih]
  simp only [atoi, scanInt, happend, hdrop, hsign, hdigits]
  split <;> split <;> simp_all

/-- A number below `10 ^ k` has at most `k` digits. -/
theorem length_natText_le {n k : Nat} (hk : 0 < k) (hn : n < 10 ^ k) :
    (natText n).length ≤ k := by
  unfold natText
  split
  · exact hk
  · simpa using (Nat.digits_length_le_iff (by omega) n).mpr hn

theorem mem_intText {v : Int32} {b : UInt8} (hb : b ∈ intText v) : b = 45 ∨ isDigit b = true := by
  unfold intText at hb
  split at hb
  · rcases List.mem_cons.mp hb with h | h
    · exact Or.inl h
    · exact Or.inr (isDigit_of_mem_natText h)
  · exact Or.inr (isDigit_of_mem_natText hb)

/-- An `int` takes at most eleven bytes. -/
theorem length_intText_le (v : Int32) : (intText v).length ≤ 11 := by
  have hlo := v.le_toInt
  have hhi := v.toInt_lt
  have hnat : (natText v.toInt.natAbs).length ≤ 10 := length_natText_le (by omega) (by omega)
  unfold intText
  split <;> simp <;> omega

theorem intText_inj {v w : Int32} (h : intText v = intText w) : v = w := by
  rw [← atoi_intText v, h, atoi_intText]

/-! ## Printing -/

/-- What `snprintf` leaves in a buffer of `size` bytes. -/
def snprintf (size : Nat) (text : CStr) : CStr := text.take (size - 1)

theorem snprintf_fits {size : Nat} {text : CStr} (h : text.length < size) :
    snprintf size text = text := by
  unfold snprintf
  exact List.take_of_length_le (by omega)

/-- Texts with one front that are not cut differ behind it. -/
theorem snprintf_append_inj {size : Nat} {front e e' : CStr}
    (hfit : (front ++ e).length + 1 < size)
    (h : snprintf size (front ++ e) = snprintf size (front ++ e')) : e = e' := by
  rw [snprintf_fits (by omega)] at h
  have hlens := congrArg List.length h
  rw [snprintf, List.length_take] at hlens
  have hshort : (front ++ e').length < size := by omega
  rw [snprintf_fits hshort] at h
  exact List.append_cancel_left h

/-! ## Scanning -/

/-- One directive of a scan format. -/
inductive Directive where
  /-- `%N[^c]`: at least one and at most `width` bytes different from `stop`. -/
  | set (width : Nat) (stop : UInt8)
  /-- `%d` -/
  | int
  /-- A byte that must come next. -/
  | lit (c : UInt8)
  deriving DecidableEq, Repr

/-- A value that a scan assigned. -/
inductive Value where
  | str (s : CStr)
  | int (v : Int32)
  deriving DecidableEq, Repr

/-- The values assigned, in order, up to the first directive that fails. -/
def sscanf : List Directive → CStr → List Value
  | [], _ => []
  | .lit c :: fmt, s =>
    match s with
    | [] => []
    | b :: rest => if b = c then sscanf fmt rest else []
  | .set width stop :: fmt, s =>
    let tok := (s.takeWhile (· ≠ stop)).take width
    if tok = [] then [] else .str tok :: sscanf fmt (s.drop tok.length)
  | .int :: fmt, s =>
    match scanInt s with
    | none => []
    | some (v, rest) => .int (toCInt v) :: sscanf fmt rest

/-- A text that is at its end or goes on with `stop`. -/
def StopsAt (stop : UInt8) (s : CStr) : Prop := ∀ b, s.head? = some b → b = stop

@[simp] theorem stopsAt_nil (stop : UInt8) : StopsAt stop [] := by simp [StopsAt]

@[simp] theorem stopsAt_cons (stop : UInt8) (s : CStr) : StopsAt stop (stop :: s) := by
  simp [StopsAt]

theorem StopsAt.noDigitAhead {stop : UInt8} {s : CStr} (h : StopsAt stop s)
    (hstop : isDigit stop = false) : NoDigitAhead s :=
  fun b hb => h b hb ▸ hstop

theorem sscanf_lit_cons (c : UInt8) (fmt : List Directive) (rest : CStr) :
    sscanf (.lit c :: fmt) (c :: rest) = sscanf fmt rest := by
  simp [sscanf]

theorem takeWhile_field {stop : UInt8} {tok rest : CStr} (hstop : stop ∉ tok)
    (hrest : StopsAt stop rest) : (tok ++ rest).takeWhile (· ≠ stop) = tok := by
  rw [List.takeWhile_append_of_pos fun b hb => by
    have : b ≠ stop := fun h => hstop (h ▸ hb)
    simpa using this]
  cases rest with
  | nil => simp
  | cons b rest => simp [hrest b rfl]

/-- A non-empty field that fits the width is read whole. -/
theorem sscanf_set_cons {width : Nat} {stop : UInt8} {tok rest : CStr} (fmt : List Directive)
    (hne : tok ≠ []) (hwidth : tok.length ≤ width) (hstop : stop ∉ tok)
    (hrest : StopsAt stop rest) :
    sscanf (.set width stop :: fmt) (tok ++ rest) = .str tok :: sscanf fmt rest := by
  simp only [sscanf, takeWhile_field hstop hrest, List.take_of_length_le hwidth, if_neg hne,
    List.drop_left]

/-- An empty field ends the scan. -/
theorem sscanf_set_fail {width : Nat} {stop : UInt8} {rest : CStr} (fmt : List Directive)
    (hrest : StopsAt stop rest) : sscanf (.set width stop :: fmt) rest = [] := by
  have h : ([] ++ rest).takeWhile (· ≠ stop) = [] := takeWhile_field (by simp) hrest
  rw [List.nil_append] at h
  simp only [sscanf, h, List.take_nil, if_pos]

theorem sscanf_int_cons {v : Int32} {rest : CStr} (fmt : List Directive)
    (hrest : NoDigitAhead rest) :
    sscanf (.int :: fmt) (intText v ++ rest) = .int v :: sscanf fmt rest := by
  simp only [sscanf, scanInt_intText hrest, toCInt_toInt]

end CFormat
