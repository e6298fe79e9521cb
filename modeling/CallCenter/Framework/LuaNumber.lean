import Mathlib.Data.Int.Log
import Mathlib.Data.Rat.Floor
import CallCenter.Framework.CFormat

/-! # Numbers of Lua 5.4

    A Lua number is a 64-bit integer or a double.  A double is given by the
    rational that it is, and `roundDouble` picks the one that is next to a
    rational, the even one of two.  Zero has no sign here.

    * Comparisons are those of the exact values, between integers and doubles
      too; nothing compares with NaN.
    * Integers wrap around.  If one operand is a double, both are.
    * `tonumber` reads the numerals of the manual: decimal or hexadecimal,
      integer or not, with white space around them. -/

namespace Lua

open CFormat

/-! ## Doubles -/

inductive LuaFloat where
  | finite (q : ℚ)
  | infinity (negative : Bool)
  | nan
  deriving DecidableEq, Repr

/-- The nearest integer, the even one of two. -/
def roundHalfEven (q : ℚ) : Int :=
  let floor := ⌊q⌋
  let rest := q - floor
  if rest < 1 / 2 then floor
  else if 1 / 2 < rest then floor + 1
  else if floor % 2 = 0 then floor else floor + 1

/-- The nearest double: 53 bits, the last of them worth at least `2 ^ -1074`. -/
def roundDouble (q : ℚ) : LuaFloat :=
  if q = 0 then .finite 0
  else
    let ulp : ℚ := 2 ^ max (Int.log 2 |q| - 52) (-1074)
    let rounded : ℚ := roundHalfEven (q / ulp) * ulp
    if 2 ^ 1024 ≤ |rounded| then .infinity (q < 0) else .finite rounded

def LuaFloat.lt : LuaFloat → LuaFloat → Bool
  | .nan, _ | _, .nan => false
  | .finite a, .finite b => a < b
  | .infinity negative, .finite _ => negative
  | .finite _, .infinity negative => !negative
  | .infinity a, .infinity b => a && !b

def LuaFloat.le : LuaFloat → LuaFloat → Bool
  | .nan, _ | _, .nan => false
  | .finite a, .finite b => a ≤ b
  | .infinity negative, .finite _ => negative
  | .finite _, .infinity negative => !negative
  | .infinity a, .infinity b => a || !b

def LuaFloat.add : LuaFloat → LuaFloat → LuaFloat
  | .nan, _ | _, .nan => .nan
  | .finite a, .finite b => roundDouble (a + b)
  | .infinity a, .infinity b => if a = b then .infinity a else .nan
  | .infinity a, .finite _ => .infinity a
  | .finite _, .infinity b => .infinity b

def LuaFloat.mul : LuaFloat → LuaFloat → LuaFloat
  | .nan, _ | _, .nan => .nan
  | .finite a, .finite b => roundDouble (a * b)
  | .infinity a, .infinity b => .infinity (a != b)
  | .infinity negative, .finite q | .finite q, .infinity negative =>
    if q = 0 then .nan else .infinity (negative != decide (q < 0))

/-! ## Numbers -/

inductive LuaNumber where
  | int (v : Int)
  | float (x : LuaFloat)
  deriving DecidableEq, Repr

/-- Integers wrap around at 64 bits. -/
def wrap64 (v : Int) : Int := (v + 2 ^ 63) % 2 ^ 64 - 2 ^ 63

/-- The value, for comparisons. -/
def LuaNumber.value : LuaNumber → LuaFloat
  | .int v => .finite v
  | .float x => x

/-- The value as a double, for arithmetic. -/
def LuaNumber.toFloat : LuaNumber → LuaFloat
  | .int v => roundDouble v
  | .float x => x

def LuaNumber.lt (a b : LuaNumber) : Bool := a.value.lt b.value

def LuaNumber.le (a b : LuaNumber) : Bool := a.value.le b.value

def LuaNumber.add : LuaNumber → LuaNumber → LuaNumber
  | .int a, .int b => .int (wrap64 (a + b))
  | a, b => .float (a.toFloat.add b.toFloat)

def LuaNumber.mul : LuaNumber → LuaNumber → LuaNumber
  | .int a, .int b => .int (wrap64 (a * b))
  | a, b => .float (a.toFloat.mul b.toFloat)

/-- The integer that `%d` prints; a double without one is an error. -/
def LuaNumber.toInteger? : LuaNumber → Option Int
  | .int v => some v
  | .float (.finite q) =>
    if q.den = 1 ∧ -2 ^ 63 ≤ q.num ∧ q.num < 2 ^ 63 then some q.num else none
  | .float _ => none

/-- What `..` makes of a number; `floatText` is the text of a double. -/
def LuaNumber.text (floatText : LuaFloat → CStr) : LuaNumber → CStr
  | .int v => longText v
  | .float x => floatText x

@[simp] theorem le_int_int (a b : Int) : (LuaNumber.int a).le (.int b) = decide (a ≤ b) := by
  simp [LuaNumber.le, LuaNumber.value, LuaFloat.le]

/-- What is not below an integer is at least the integer, or NaN. -/
theorem not_lt_int (x : LuaNumber) (a : Int) :
    (!x.lt (.int a)) = ((LuaNumber.int a).le x || decide (x = .float .nan)) := by
  cases x with
  | int v =>
    simp only [LuaNumber.lt, LuaNumber.le, LuaNumber.value, LuaFloat.lt, LuaFloat.le]
    simp only [← decide_not, not_lt, reduceCtorEq, decide_false, Bool.or_false]
  | float x =>
    cases x with
    | nan => rfl
    | infinity negative =>
      simp [LuaNumber.lt, LuaNumber.le, LuaNumber.value, LuaFloat.lt, LuaFloat.le]
    | finite v =>
      simp only [LuaNumber.lt, LuaNumber.le, LuaNumber.value, LuaFloat.lt, LuaFloat.le]
      simp [← decide_not, not_lt]

/-- What is not below an integer is not below a smaller one. -/
theorem lt_int_of_int_le {a b : Int} (hab : a ≤ b) {x : LuaNumber}
    (h : (LuaNumber.int b).le x = true) : x.lt (.int a) = false := by
  have hle : (LuaFloat.finite b).le x.value = true := h
  show x.value.lt (.finite a) = false
  cases hx : x.value with
  | nan => rfl
  | infinity negative =>
    rw [hx] at hle
    simpa [LuaFloat.le, LuaFloat.lt] using hle
  | finite q =>
    rw [hx] at hle
    have hbq : (b : ℚ) ≤ q := by simpa [LuaFloat.le] using hle
    have habq : (a : ℚ) ≤ b := by exact_mod_cast hab
    simpa [LuaFloat.lt] using habq.trans hbq

theorem int_lt_of_le_int {a b : Int} (hab : a ≤ b) {x : LuaNumber}
    (h : x.le (.int a) = true) : (LuaNumber.int b).lt x = false := by
  have hle : x.value.le (.finite a) = true := h
  show (LuaFloat.finite b).lt x.value = false
  cases hx : x.value with
  | nan => rfl
  | infinity negative =>
    rw [hx] at hle
    simpa [LuaFloat.le, LuaFloat.lt] using hle
  | finite q =>
    rw [hx] at hle
    have hqa : q ≤ (a : ℚ) := by simpa [LuaFloat.le] using hle
    have habq : (a : ℚ) ≤ b := by exact_mod_cast hab
    simpa [LuaFloat.lt] using hqa.trans habq

theorem le_int_mono {a b : Int} (hab : a ≤ b) {x : LuaNumber} (h : x.le (.int a) = true) :
    x.le (.int b) = true := by
  have hle : x.value.le (.finite a) = true := h
  show x.value.le (.finite b) = true
  cases hx : x.value with
  | nan =>
    rw [hx] at hle
    cases hle
  | infinity negative =>
    rw [hx] at hle
    exact hle
  | finite q =>
    rw [hx] at hle
    have hqa : q ≤ (a : ℚ) := by simpa [LuaFloat.le] using hle
    have habq : (a : ℚ) ≤ b := by exact_mod_cast hab
    simpa [LuaFloat.le] using hqa.trans habq

/-- A number with an integer is not a NaN, so one of two comparisons holds. -/
theorem le_int_of_toInteger {n : Int} {x : LuaNumber} (hx : x.toInteger?.isSome)
    (h : (LuaNumber.int n).lt x = false) : x.le (.int n) = true := by
  cases x with
  | int v =>
    simp only [LuaNumber.lt, LuaNumber.value, LuaFloat.lt, decide_eq_false_iff_not, not_lt] at h
    simpa [LuaNumber.le, LuaNumber.value, LuaFloat.le] using h
  | float x =>
    cases x with
    | finite q =>
      simp only [LuaNumber.lt, LuaNumber.value, LuaFloat.lt, decide_eq_false_iff_not, not_lt] at h
      simpa [LuaNumber.le, LuaNumber.value, LuaFloat.le] using h
    | infinity => cases hx
    | nan => cases hx

/-! ## Numerals -/

def isHexDigit (b : UInt8) : Bool :=
  isDigit b || (65 ≤ b && b ≤ 70) || (97 ≤ b && b ≤ 102)

def hexValue (b : UInt8) : Nat :=
  if isDigit b then b.toNat - 48
  else if b ≤ 70 then b.toNat - 55 else b.toNat - 87

/-- `0x` or `0X` -/
def hexPrefix : CStr → Bool
  | 48 :: b :: _ => b = 120 || b = 88
  | _ => false

/-- The digits at the front and their value to a base. -/
def scanDigits (hex : Bool) (s : CStr) : CStr × CStr :=
  if hex then (s.takeWhile isHexDigit, s.dropWhile isHexDigit)
  else (s.takeWhile isDigit, s.dropWhile isDigit)

def digitsIn (hex : Bool) (ds : CStr) : Nat :=
  if hex then ds.foldl (fun acc d => 16 * acc + hexValue d) 0 else digitsValue ds

/-- An exponent, if its digits are there. -/
def scanExponent (hex : Bool) (s : CStr) : Int × CStr :=
  match s with
  | b :: rest =>
    if b = (if hex then 112 else 101) ∨ b = (if hex then 80 else 69) then
      let (negative, rest) := scanSign rest
      let (ds, rest) := scanDigits false rest
      if ds = [] then (0, s)
      else (if negative then -(digitsValue ds : Int) else digitsValue ds, rest)
    else (0, s)
  | [] => (0, [])

/-- Digits with at most one point in them, and an exponent. -/
def scanReal (hex : Bool) (s : CStr) : Option (ℚ × CStr) :=
  let (whole, s) := scanDigits hex s
  let (fraction, s) :=
    match s with
    | 46 :: rest => scanDigits hex rest
    | _ => ([], s)
  if whole ++ fraction = [] then none
  else
    let base : ℚ := if hex then 16 else 10
    let (exponent, s) := scanExponent hex s
    some (digitsIn hex (whole ++ fraction) / base ^ fraction.length *
      (if hex then 2 else 10) ^ exponent, s)

/-- `l_str2int`: a hexadecimal numeral wraps around, a decimal one must fit. -/
def str2int (s : CStr) : Option LuaNumber :=
  let (negative, s) := scanSign (s.dropWhile isSpace)
  let hex := hexPrefix s
  let (ds, rest) := scanDigits hex (if hex then s.drop 2 else s)
  let v : Int := if negative then -(digitsIn hex ds : Int) else digitsIn hex ds
  if ds = [] ∨ !rest.all isSpace then none
  else if hex then some (.int (wrap64 v))
  else if -2 ^ 63 ≤ v ∧ v < 2 ^ 63 then some (.int v) else none

/-- `l_str2d` -/
def str2d (s : CStr) : Option LuaNumber :=
  let (negative, s) := scanSign (s.dropWhile isSpace)
  let hex := hexPrefix s
  match scanReal hex (if hex then s.drop 2 else s) with
  | none => none
  | some (v, rest) =>
    if rest.all isSpace then some (.float (roundDouble (if negative then -v else v))) else none

/-- `tonumber` of a string -/
def tonumber (s : CStr) : Option LuaNumber := (str2int s).or (str2d s)

/-- Four decimal digits. -/
def FourDigits (s : CStr) : Prop := s.length = 4 ∧ s.all isDigit = true

theorem FourDigits.split {s : CStr} (h : FourDigits s) :
    ∃ a b c d, s = [a, b, c, d] ∧ isDigit a = true ∧ isDigit b = true ∧ isDigit c = true ∧
      isDigit d = true := by
  obtain ⟨hlen, hall⟩ := h
  obtain ⟨a, b, c, d, rfl⟩ := List.length_eq_four.mp hlen
  simp only [List.all_cons, List.all_nil, Bool.and_true, Bool.and_eq_true] at hall
  exact ⟨a, b, c, d, rfl, hall⟩

theorem hexPrefix_digit {a b : UInt8} (hb : isDigit b = true) (s : CStr) :
    hexPrefix (a :: b :: s) = false := by
  have hx : b ≠ 120 ∧ b ≠ 88 := by
    constructor <;> rintro rfl <;> exact absurd hb (by decide)
  unfold hexPrefix
  split
  · next h =>
    obtain ⟨-, hrest⟩ := List.cons.inj h
    obtain ⟨rfl, -⟩ := List.cons.inj hrest
    simp [hx]
  · rfl

/-- The value of four digits. -/
theorem digitsValue_four {a b c d : UInt8} (ha : isDigit a = true) (hb : isDigit b = true)
    (hc : isDigit c = true) (hd : isDigit d = true) :
    digitsValue [a, b, c, d] = 1000 * (a.toNat - 48) + 100 * (b.toNat - 48) +
      10 * (c.toNat - 48) + (d.toNat - 48) ∧ digitsValue [a, b, c, d] ≤ 9999 := by
  have hlt := And.intro (And.intro (digitByte_value ha).2 (digitByte_value hb).2)
    (And.intro (digitByte_value hc).2 (digitByte_value hd).2)
  simp only [digitsValue, List.foldl_cons, List.foldl_nil]
  omega

/-- Four digits are read as a decimal integer. -/
theorem tonumber_fourDigits {s : CStr} (h : FourDigits s) :
    tonumber s = some (.int (digitsValue s)) := by
  obtain ⟨a, b, c, d, rfl, ha, hb, hc, hd⟩ := h.split
  obtain ⟨hspace, hminus, hplus⟩ := not_sign_of_isDigit ha
  have hdrop : [a, b, c, d].dropWhile isSpace = [a, b, c, d] := by simp [hspace]
  have htake : [a, b, c, d].takeWhile isDigit = [a, b, c, d] := by simp [ha, hb, hc, hd]
  have hrest : [a, b, c, d].dropWhile isDigit = [] := by simp [ha, hb, hc, hd]
  have hsmall := (digitsValue_four ha hb hc hd).2
  have hint : str2int [a, b, c, d] = some (.int (digitsValue [a, b, c, d])) := by
    unfold str2int scanDigits digitsIn
    rw [hdrop, scanSign_cons hminus hplus]
    simp only [hexPrefix_digit hb, Bool.false_eq_true, if_false, htake, hrest]
    rw [if_neg (by simp), if_pos (by omega)]
  unfold tonumber
  rw [hint]
  rfl

/-- Four digits without a leading zero are the printed text of their value. -/
theorem FourDigits.eq_natText {s : CStr} (h : FourDigits s) (hlo : 1000 ≤ digitsValue s) :
    s = natText (digitsValue s) := by
  obtain ⟨a, b, c, d, rfl, ha, hb, hc, hd⟩ := h.split
  obtain ⟨hvalue, hhi⟩ := digitsValue_four ha hb hc hd
  obtain ⟨hda, hla⟩ := digitByte_value ha
  obtain ⟨hdb, hlb⟩ := digitByte_value hb
  obtain ⟨hdc, hlc⟩ := digitByte_value hc
  obtain ⟨hdd, hld⟩ := digitByte_value hd
  rw [natText_four hlo hhi]
  have hquot : digitsValue [a, b, c, d] / 1000 = a.toNat - 48 ∧
      digitsValue [a, b, c, d] / 100 % 10 = b.toNat - 48 ∧
      digitsValue [a, b, c, d] / 10 % 10 = c.toNat - 48 ∧
      digitsValue [a, b, c, d] % 10 = d.toNat - 48 := by omega
  rw [hquot.1, hquot.2.1, hquot.2.2.1, hquot.2.2.2, hda, hdb, hdc, hdd]

theorem fourDigits_natText {n : Nat} (hlo : 1000 ≤ n) (hhi : n ≤ 9999) :
    FourDigits (natText n) := by
  constructor
  · rw [natText_four hlo hhi]
    rfl
  · rw [List.all_eq_true]
    intro b hb
    exact isDigit_of_mem_natText hb

example : tonumber (cstr " 0x3E9") = some (.int 1001) := by decide +kernel

example : tonumber (cstr "1001x") = none := by decide +kernel

end Lua
