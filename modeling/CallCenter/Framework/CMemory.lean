import CallCenter.Framework.CFormat

/-! # Checked Accesses to C Strings and Arrays

    A pointer is the list of the bytes from it to the end of its object, so
    that reading from the empty list is reading out of bounds.  The library
    functions stop with a `Fault` where C has undefined behaviour; the same
    definitions therefore say what a program computes and that it stays
    inside its objects.

    * Section 1: faults and the rules for `Ends`, "runs without a fault to a
      result with the property".
    * Section 2: the functions that search up to a NUL (`strchr`, `strstr`,
      `strlen`, `atoiAt`) and what they find in a terminated string.
    * Section 3: the functions that search a given number of bytes
      (`memchr`, `memmem`).
    * Section 4: arrays of a fixed capacity. -/

namespace CMemory

open CFormat

/-! ## Section 1: Faults -/

inductive Fault where
  /-- A read beyond the end of the object. -/
  | outOfBounds
  /-- A write beyond the capacity of the array. -/
  | overflow
  /-- A negative length where a `size_t` is expected. -/
  | negativeSize
  /-- A loop that is not over after the given number of rounds. -/
  | outOfFuel
  deriving DecidableEq, Repr

abbrev Checked : Type → Type := Except Fault

/-- The bytes from the pointer to the end of the object. -/
abbrev Ptr : Type := List UInt8

/-- `p - q` for two pointers into one object. -/
def ptrDiff (p q : Ptr) : Int := (q.length : Int) - p.length

/-- The computation runs without a fault, to a result with the property. -/
def Ends {α : Type} (x : Checked α) (Q : α → Prop) : Prop := ∃ a, x = .ok a ∧ Q a

section Rules

variable {α β : Type} {x : Checked α} {f : α → Checked β} {P Q : α → Prop} {R : β → Prop}

theorem Ends.pure {a : α} (h : Q a) : Ends (.ok a) Q := ⟨a, rfl, h⟩

theorem Ends.bind (hx : Ends x P) (hf : ∀ a, P a → Ends (f a) R) : Ends (x >>= f) R := by
  obtain ⟨a, rfl, ha⟩ := hx
  exact hf a ha

theorem Ends.mono (hx : Ends x P) (h : ∀ a, P a → Q a) : Ends x Q := by
  obtain ⟨a, hok, ha⟩ := hx
  exact ⟨a, hok, h a ha⟩

theorem Ends.of_eq {a : α} (hx : x = .ok a) (h : Q a) : Ends x Q := ⟨a, hx, h⟩

/-- What a sequence returns comes from results of its parts. -/
theorem bind_eq_ok {b : β} (h : x >>= f = .ok b) : ∃ a, x = .ok a ∧ f a = .ok b := by
  cases x with
  | error fault => cases h
  | ok a => exact ⟨a, rfl, h⟩

/-- A computation has one result. -/
theorem Ends.result {a : α} (hx : Ends x Q) (hok : x = .ok a) : Q a := by
  obtain ⟨b, hb, hq⟩ := hx
  rw [hok] at hb
  obtain rfl := Except.ok.inj hb
  exact hq

end Rules

/-! ## Section 2: Terminated strings -/

/-- The object has a NUL at or after the pointer. -/
def Terminated (p : Ptr) : Prop := 0 ∈ p

instance (p : Ptr) : Decidable (Terminated p) := inferInstanceAs (Decidable (0 ∈ p))

/-- The C string at the pointer. -/
def text (p : Ptr) : CStr := p.takeWhile (· ≠ 0)

@[simp] theorem text_nul (rest : Ptr) : text (0 :: rest) = [] := by simp [text]

theorem text_cons {b : UInt8} (hb : b ≠ 0) (rest : Ptr) : text (b :: rest) = b :: text rest := by
  simp [text, hb]

theorem text_append {s : CStr} (hs : 0 ∉ s) (rest : Ptr) : text (s ++ rest) = s ++ text rest := by
  unfold text
  rw [List.takeWhile_append_of_pos]
  intro b hb
  have hne : b ≠ 0 := fun h => hs (h ▸ hb)
  simpa using hne

theorem text_eq_self {s : CStr} (hs : 0 ∉ s) : text s = s := by
  have h := text_append hs []
  rw [List.append_nil] at h
  rw [h]
  simp [text]

theorem notMem_text (p : Ptr) : 0 ∉ text p := by
  intro h
  simpa using List.mem_takeWhile_imp h

/-- A NUL ends the string, if none before it does. -/
theorem text_append_nul (s rest : Ptr) : text (s ++ 0 :: rest) = text s := by
  induction s with
  | nil => simp [text]
  | cons b s ih =>
    by_cases hb : b = 0
    · subst hb
      simp
    · rw [List.cons_append, text_cons hb, text_cons hb, ih]

theorem Terminated.tail {b : UInt8} {rest : Ptr} (h : Terminated (b :: rest)) (hb : b ≠ 0) :
    Terminated rest := by
  rcases List.mem_cons.mp h with h | h
  · exact absurd h.symm hb
  · exact h

/-- A terminated string up to its NUL. -/
theorem Terminated.split {p : Ptr} (h : Terminated p) : ∃ rest, p = text p ++ 0 :: rest := by
  induction p with
  | nil => cases h
  | cons b p ih =>
    by_cases hb : b = 0
    · subst hb
      exact ⟨p, by simp⟩
    · obtain ⟨rest, hrest⟩ := ih (h.tail hb)
      refine ⟨rest, ?_⟩
      rw [text_cons hb, List.cons_append, ← hrest]

/-- `*p` -/
def readByte : Ptr → Checked UInt8
  | [] => .error .outOfBounds
  | b :: _ => .ok b

/-- `strchr(p, c)` for a byte that is not NUL. -/
def strchr (c : UInt8) : Ptr → Checked (Option Ptr)
  | [] => .error .outOfBounds
  | b :: rest =>
    if b = c then .ok (some (b :: rest))
    else if b = 0 then .ok none
    else strchr c rest

/-- `strlen(p)` -/
def strlen : Ptr → Checked Nat
  | [] => .error .outOfBounds
  | b :: rest => if b = 0 then .ok 0 else (strlen rest).map (· + 1)

/-- Reading the whole string at the pointer. -/
def readText (p : Ptr) : Checked CStr :=
  if Terminated p then .ok (text p) else .error .outOfBounds

/-- Whether the bytes at the pointer are those of the needle, read up to the
    first difference. -/
def startsWith : CStr → Ptr → Checked Bool
  | [], _ => .ok true
  | _ :: _, [] => .error .outOfBounds
  | c :: needle, b :: rest => if b = c then startsWith needle rest else .ok false

/-- `strstr(p, needle)` for a needle that is not empty. -/
def strstr (needle : CStr) : Ptr → Checked (Option Ptr)
  | [] => .error .outOfBounds
  | b :: rest =>
    if b = 0 then .ok none
    else do
      let found ← startsWith needle (b :: rest)
      if found then .ok (some (b :: rest)) else strstr needle rest

/-- `tolower` in the C locale. -/
def toLower (b : UInt8) : UInt8 := if 65 ≤ b && b ≤ 90 then b + 32 else b

/-- `strcasecmp(s, t) == 0` -/
def strcaseEq (s t : CStr) : Bool := s.map toLower = t.map toLower

/-- `strncasecmp(p, key, strlen(key)) == 0` -/
def strncaseEq : CStr → Ptr → Checked Bool
  | [], _ => .ok true
  | _ :: _, [] => .error .outOfBounds
  | c :: key, b :: rest => if toLower b = toLower c then strncaseEq key rest else .ok false

/-- `atoi(p)`, which reads one byte beyond the digits. -/
def atoiAt (p : Ptr) : Checked Int32 :=
  if (scanSign (p.dropWhile isSpace)).2.dropWhile isDigit = [] then .error .outOfBounds
  else .ok (atoi p)

/-! ### What the searches find -/

/-- The first occurrence of the needle: what stands before and after it. -/
def splitOn (needle : CStr) : List UInt8 → Option (List UInt8 × List UInt8)
  | [] => none
  | b :: rest =>
    if needle.isPrefixOf (b :: rest) then some ([], (b :: rest).drop needle.length)
    else (splitOn needle rest).map fun r => (b :: r.1, r.2)

theorem splitOn_some {needle : CStr} {p s t : List UInt8} (h : splitOn needle p = some (s, t)) :
    p = s ++ needle ++ t := by
  induction p generalizing s with
  | nil => simp [splitOn] at h
  | cons b p ih =>
    unfold splitOn at h
    split at h
    · next hprefix =>
      obtain ⟨rfl, rfl⟩ := Prod.mk.inj (Option.some.inj h)
      obtain ⟨t, ht⟩ := List.isPrefixOf_iff_prefix.mp hprefix
      rw [← ht, List.drop_left, List.nil_append]
    · obtain ⟨⟨s', t'⟩, hrec, heq⟩ := Option.map_eq_some_iff.mp h
      obtain ⟨rfl, rfl⟩ := Prod.mk.inj heq
      rw [List.cons_append, List.cons_append, ← ih hrec]

/-- Nothing is found exactly when the needle does not occur. -/
theorem splitOn_none_iff {needle : CStr} (hne : needle ≠ []) {s : List UInt8} :
    splitOn needle s = none ↔ ¬ needle <:+: s := by
  induction s with
  | nil => simp [splitOn, hne]
  | cons b s ih =>
    rw [splitOn, List.infix_cons_iff, ← List.isPrefixOf_iff_prefix]
    by_cases hpre : needle.isPrefixOf (b :: s) = true
    · simp [hpre]
    · rw [if_neg hpre, Option.map_eq_none_iff, ih]
      simp [hpre]

theorem splitOn_byte_none {c : UInt8} {s : List UInt8} (h : splitOn [c] s = none) : c ∉ s := by
  induction s with
  | nil => simp
  | cons b s ih =>
    rw [splitOn] at h
    split at h
    · simp at h
    · next hpre =>
      have hne : c ≠ b := by
        intro heq
        subst heq
        simp at hpre
      simp [hne, ih (by simpa using h)]

theorem splitOn_byte {c : UInt8} {front : List UInt8} (hc : c ∉ front) (back : List UInt8) :
    splitOn [c] (front ++ c :: back) = some (front, back) := by
  induction front with
  | nil => simp [splitOn]
  | cons b front ih =>
    simp only [List.mem_cons, not_or] at hc
    have hpre : ¬ [c].isPrefixOf (b :: (front ++ c :: back)) = true := by
      simpa [List.isPrefixOf] using hc.1
    rw [List.cons_append, splitOn, if_neg hpre, ih hc.2]
    rfl

theorem splitOn_byte_some {c : UInt8} {s front back : List UInt8}
    (h : splitOn [c] s = some (front, back)) : s = front ++ c :: back ∧ c ∉ front := by
  refine ⟨by simpa using splitOn_some h, ?_⟩
  induction s generalizing front with
  | nil => simp [splitOn] at h
  | cons b s ih =>
    rw [splitOn] at h
    split at h
    · obtain ⟨rfl, -⟩ := Prod.mk.inj (Option.some.inj h)
      simp
    · next hpre =>
      obtain ⟨⟨s', t'⟩, hrec, heq⟩ := Option.map_eq_some_iff.mp h
      obtain ⟨rfl, rfl⟩ := Prod.mk.inj heq
      have hne : c ≠ b := by
        intro heq
        subst heq
        simp at hpre
      simp [hne, ih hrec]

/-- What is found stays found in a longer text. -/
theorem splitOn_append {needle : CStr} {s front back : List UInt8}
    (h : splitOn needle s = some (front, back)) (rest : List UInt8) :
    splitOn needle (s ++ rest) = some (front, back ++ rest) := by
  induction s generalizing front with
  | nil => simp [splitOn] at h
  | cons b s ih =>
    rw [splitOn] at h
    rw [List.cons_append, splitOn]
    by_cases hpre : needle.isPrefixOf (b :: s) = true
    · rw [if_pos hpre] at h
      obtain ⟨rfl, rfl⟩ := Prod.mk.inj (Option.some.inj h)
      have hbegins := List.isPrefixOf_iff_prefix.mp hpre
      have hlonger : needle.isPrefixOf (b :: (s ++ rest)) = true :=
        List.isPrefixOf_iff_prefix.mpr (hbegins.trans (List.prefix_append (b :: s) rest))
      rw [if_pos hlonger, ← List.cons_append, List.drop_append_of_le_length hbegins.length_le]
    · rw [if_neg hpre] at h
      obtain ⟨⟨s', t'⟩, hrec, heq⟩ := Option.map_eq_some_iff.mp h
      obtain ⟨rfl, rfl⟩ := Prod.mk.inj heq
      have hshort : ¬ needle.isPrefixOf (b :: (s ++ rest)) = true := by
        intro hlonger
        -- it would end behind `s`, where the needle was found
        have hbegins := List.isPrefixOf_iff_prefix.mp hlonger
        have hfits : needle.length ≤ (b :: s).length := by
          rw [splitOn_some hrec, List.length_cons, List.length_append, List.length_append]
          omega
        exact hpre (List.isPrefixOf_iff_prefix.mpr
          (List.prefix_of_prefix_length_le hbegins (List.prefix_append (b :: s) rest) hfits))
      rw [if_neg hshort, ih hrec]
      rfl

/-- A prefix ends before a byte that it does not have. -/
theorem prefix_stops_iff {c : UInt8} {s t rest : List UInt8} (hc : c ∉ s) :
    s <+: t ++ c :: rest ↔ s <+: t := by
  constructor
  · intro h
    rcases Nat.lt_or_ge t.length s.length with hlt | hge
    · obtain ⟨u, rfl⟩ := List.prefix_of_prefix_length_le (List.prefix_append t (c :: rest)) h
        hlt.le
      cases u with
      | nil => simp at hlt
      | cons d u =>
        rw [List.prefix_append_right_inj] at h
        obtain ⟨v, hv⟩ := h
        obtain ⟨rfl, -⟩ := List.cons.inj hv
        exact absurd (by simp) hc
    · exact List.prefix_of_prefix_length_le h (List.prefix_append t (c :: rest)) hge
  · intro h
    exact h.trans (List.prefix_append t (c :: rest))

/-- No occurrence goes across a byte that the needle does not have. -/
theorem splitOn_skip {needle : CStr} (hne : needle ≠ []) {c : UInt8} (hc : c ∉ needle)
    {s : List UInt8} (hs : splitOn needle s = none) (rest : List UInt8) :
    splitOn needle (s ++ c :: rest) =
      (splitOn needle rest).map fun r => (s ++ c :: r.1, r.2) := by
  have hcross : ∀ t, needle <+: t ++ c :: rest → needle <+: t := fun t =>
    (prefix_stops_iff hc).mp
  induction s with
  | nil =>
    have hpre : ¬ needle.isPrefixOf (c :: rest) = true := by
      intro h
      exact hne (List.prefix_nil.mp (hcross [] (List.isPrefixOf_iff_prefix.mp h)))
    rw [List.nil_append, splitOn, if_neg hpre]
    rfl
  | cons b s ih =>
    rw [splitOn] at hs
    split at hs
    · cases hs
    · next hshort =>
      have hpre : ¬ needle.isPrefixOf (b :: (s ++ c :: rest)) = true := by
        intro h
        exact hshort (List.isPrefixOf_iff_prefix.mpr
          (hcross (b :: s) (List.isPrefixOf_iff_prefix.mp h)))
      rw [List.cons_append, splitOn, if_neg hpre, ih (by simpa using hs), Option.map_map]
      rfl

theorem strchr_found {c : UInt8} {s : CStr} (hc : c ∉ s) (h0 : 0 ∉ s) (rest : Ptr) :
    strchr c (s ++ c :: rest) = .ok (some (c :: rest)) := by
  induction s with
  | nil => simp [strchr]
  | cons b s ih =>
    simp only [List.mem_cons, not_or] at hc h0
    rw [List.cons_append, strchr, if_neg (Ne.symm hc.1), if_neg (Ne.symm h0.1)]
    exact ih hc.2 h0.2

theorem strchr_missing {c : UInt8} (hne : c ≠ 0) {s : CStr} (hc : c ∉ s) (h0 : 0 ∉ s)
    (rest : Ptr) : strchr c (s ++ 0 :: rest) = .ok none := by
  induction s with
  | nil => simp [strchr, hne.symm]
  | cons b s ih =>
    simp only [List.mem_cons, not_or] at hc h0
    rw [List.cons_append, strchr, if_neg (Ne.symm hc.1), if_neg (Ne.symm h0.1)]
    exact ih hc.2 h0.2

theorem strchr_skip {c : UInt8} {s : CStr} (hc : c ∉ s) (h0 : 0 ∉ s) (p : Ptr) :
    strchr c (s ++ p) = strchr c p := by
  induction s with
  | nil => rfl
  | cons b s ih =>
    simp only [List.mem_cons, not_or] at hc h0
    rw [List.cons_append, strchr, if_neg (Ne.symm hc.1), if_neg (Ne.symm h0.1)]
    exact ih hc.2 h0.2

/-- A list cut at the first occurrence of a byte. -/
theorem exists_cut {c : UInt8} {s : List UInt8} (h : c ∈ s) :
    ∃ front back, s = front ++ c :: back ∧ c ∉ front := by
  induction s with
  | nil => cases h
  | cons b s ih =>
    by_cases hb : b = c
    · exact ⟨[], s, by simp [hb], by simp⟩
    · obtain ⟨front, back, rfl, hnot⟩ := ih (by simpa [Ne.symm hb] using h)
      exact ⟨b :: front, back, rfl, by simp [Ne.symm hb, hnot]⟩

/-- `strchr` finds the first occurrence before the NUL. -/
theorem strchr_cases {c : UInt8} (hne : c ≠ 0) {p : Ptr} (hp : Terminated p) :
    (∃ s rest, p = s ++ c :: rest ∧ c ∉ s ∧ 0 ∉ s ∧ strchr c p = .ok (some (c :: rest))) ∨
      c ∉ text p ∧ strchr c p = .ok none := by
  obtain ⟨rest, hsplit⟩ := hp.split
  have h0 := notMem_text p
  by_cases hc : c ∈ text p
  · obtain ⟨front, back, htext, hnot⟩ := exists_cut hc
    rw [htext] at hsplit h0
    have hfront : 0 ∉ front := fun h => h0 (List.mem_append_left _ h)
    refine Or.inl ⟨front, back ++ 0 :: rest, by simpa using hsplit, hnot, hfront, ?_⟩
    rw [hsplit, List.append_assoc, List.cons_append]
    exact strchr_found hnot hfront _
  · refine Or.inr ⟨hc, ?_⟩
    rw [hsplit]
    exact strchr_missing hne hc h0 rest

/-- What `strchr` returns points to the byte, with the rest of the string
    behind it. -/
theorem strchr_spec {c : UInt8} (hne : c ≠ 0) {p : Ptr} (hp : Terminated p) :
    Ends (strchr c p) fun r => ∀ q, r = some q →
      ∃ s rest, p = s ++ q ∧ q = c :: rest ∧ Terminated rest := by
  rcases strchr_cases hne hp with ⟨s, rest, rfl, -, h0, hchr⟩ | ⟨-, hchr⟩
  · refine Ends.of_eq hchr ?_
    intro q hq
    obtain rfl := Option.some.inj hq
    refine ⟨s, rest, rfl, rfl, ?_⟩
    rcases List.mem_append.mp hp with h | h
    · exact absurd h h0
    · exact Terminated.tail h hne
  · refine Ends.of_eq hchr ?_
    intro q hq
    cases hq

theorem strlen_eq {p : Ptr} (hp : Terminated p) : strlen p = .ok (text p).length := by
  induction p with
  | nil => cases hp
  | cons b p ih =>
    by_cases hb : b = 0
    · subst hb
      simp [strlen]
    · rw [strlen, if_neg hb, ih (hp.tail hb), text_cons hb]
      rfl

theorem startsWith_eq {needle : CStr} {p : Ptr} (h : needle.length ≤ p.length) :
    startsWith needle p = .ok (needle.isPrefixOf p) := by
  induction needle generalizing p with
  | nil => rfl
  | cons c needle ih =>
    cases p with
    | nil => simp at h
    | cons b p =>
      by_cases hb : b = c
      · rw [startsWith, if_pos hb, ih (by simpa using h)]
        simp [hb]
      · have hcb : (c == b) = false := by simpa using Ne.symm hb
        simp [startsWith, hb, List.isPrefixOf, hcb]

/-- A needle without NUL is not compared beyond the end of the string. -/
theorem startsWith_text {needle : CStr} (h0 : 0 ∉ needle) {p : Ptr} (hp : Terminated p) :
    startsWith needle p = .ok (needle.isPrefixOf (text p)) := by
  induction needle generalizing p with
  | nil => simp [startsWith]
  | cons c needle ih =>
    simp only [List.mem_cons, not_or] at h0
    cases p with
    | nil => cases hp
    | cons b p =>
      by_cases hb : b = 0
      · subst hb
        simp [startsWith, h0.1]
      · rw [text_cons hb]
        by_cases hbc : b = c
        · rw [startsWith, if_pos hbc, ih h0.2 (hp.tail hb)]
          simp [hbc]
        · have hcb : (c == b) = false := by simpa using Ne.symm hbc
          simp [startsWith, hbc, List.isPrefixOf, hcb]

/-- `strstr` finds the first occurrence in the C string. -/
theorem strstr_eq {needle : CStr} (h0 : 0 ∉ needle) {p : Ptr} (hp : Terminated p) :
    strstr needle p = .ok ((splitOn needle (text p)).map fun r => p.drop r.1.length) := by
  induction p with
  | nil => cases hp
  | cons b p ih =>
    by_cases hb : b = 0
    · subst hb
      simp [strstr, splitOn]
    · rw [strstr, if_neg hb, startsWith_text h0 hp, text_cons hb, splitOn]
      show (if _ then _ else _) = _
      split
      · next hpre => simp
      · rw [ih (hp.tail hb)]
        cases splitOn needle (text p) <;> simp

/-- Where `strstr` points when the string has the needle. -/
theorem strstr_found {w : CStr} (h0 : 0 ∉ w) {p : Ptr} (hp : Terminated p) {front back : CStr}
    (h : splitOn w (text p) = some (front, back)) :
    ∃ rest, strstr w p = .ok (some (w ++ rest)) ∧ text rest = back ∧ Terminated rest := by
  obtain ⟨rest, hsplit⟩ := hp.split
  have hback : 0 ∉ back := by
    have hall := notMem_text p
    rw [splitOn_some h] at hall
    intro hmem
    exact hall (List.mem_append_right _ hmem)
  have hdrop : p.drop front.length = w ++ (back ++ 0 :: rest) := by
    rw [hsplit, splitOn_some h]
    simp only [List.append_assoc, List.drop_left]
  refine ⟨back ++ 0 :: rest, ?_, ?_, by simp [Terminated]⟩
  · rw [strstr_eq h0 hp, h]
    show Except.ok (some (p.drop front.length)) = _
    rw [hdrop]
  · rw [text_append_nul, text_eq_self hback]

/-- `strchr` cuts the string as `splitOn` does. -/
theorem strchr_split {c : UInt8} (hne : c ≠ 0) {p : Ptr} (hp : Terminated p) :
    (∃ s rest, p = s ++ c :: rest ∧ splitOn [c] (text p) = some (s, text rest) ∧
      Terminated rest ∧ strchr c p = .ok (some (c :: rest))) ∨
      splitOn [c] (text p) = none ∧ strchr c p = .ok none := by
  rcases strchr_cases hne hp with ⟨s, rest, rfl, hs, h0, hchr⟩ | ⟨hnot, hchr⟩
  · have hrest : Terminated rest := by
      rcases List.mem_append.mp hp with h | h
      · exact absurd h h0
      · exact Terminated.tail h hne
    have htext : text (s ++ c :: rest) = s ++ c :: text rest := by
      rw [text_append h0, text_cons hne]
    exact Or.inl ⟨s, rest, rfl, by rw [htext, splitOn_byte hs], hrest, hchr⟩
  · refine Or.inr ⟨?_, hchr⟩
    rw [splitOn_none_iff (by simp)]
    exact fun h => hnot (h.subset (by simp))

/-- What `strstr` returns points to the needle, with the rest of the string
    behind it. -/
theorem strstr_spec {w : CStr} (h0 : 0 ∉ w) {p : Ptr} (hp : Terminated p) :
    Ends (strstr w p) fun r => ∀ q, r = some q →
      ∃ s rest, p = s ++ q ∧ q = w ++ rest ∧ Terminated rest := by
  refine Ends.of_eq (strstr_eq h0 hp) ?_
  intro q hq
  obtain ⟨⟨s, t⟩, hsplit, rfl⟩ := Option.map_eq_some_iff.mp hq
  obtain ⟨back, hback⟩ := hp.split
  rw [splitOn_some hsplit] at hback
  refine ⟨s, t ++ 0 :: back, ?_, ?_, by simp [Terminated]⟩
  · rw [hback]
    simp
  · rw [hback]
    simp

/-- `atoi` stays inside a terminated string. -/
theorem atoiAt_eq {p : Ptr} (hp : Terminated p) : atoiAt p = .ok (atoi p) := by
  have hspace : Terminated (p.dropWhile isSpace) := by
    have hmem : (0 : UInt8) ∈ p.takeWhile isSpace ++ p.dropWhile isSpace := by
      rw [List.takeWhile_append_dropWhile]
      exact hp
    rcases List.mem_append.mp hmem with h | h
    · exact absurd (List.mem_takeWhile_imp h) (by decide)
    · exact h
  have hsign : Terminated (scanSign (p.dropWhile isSpace)).2 := by
    unfold scanSign
    split
    · next heq =>
      rw [heq] at hspace
      exact hspace.tail (by decide)
    · next heq =>
      rw [heq] at hspace
      exact hspace.tail (by decide)
    · exact hspace
  have hdigits : (scanSign (p.dropWhile isSpace)).2.dropWhile isDigit ≠ [] := by
    intro hnil
    have hall := List.dropWhile_eq_nil_iff.mp hnil 0 hsign
    exact absurd hall (by decide)
  rw [atoiAt, if_neg hdigits]

/-! ## Section 3: Searches of a given length -/

/-- `memchr(p, c, n)` -/
def memchr (c : UInt8) : Nat → Ptr → Checked (Option Ptr)
  | 0, _ => .ok none
  | _ + 1, [] => .error .outOfBounds
  | n + 1, b :: rest => if b = c then .ok (some (b :: rest)) else memchr c n rest

/-- `memmem(p, n, needle, strlen(needle))` -/
def memmem (needle : CStr) : Nat → Ptr → Checked (Option Ptr)
  | 0, _ => .ok none
  | n + 1, p =>
    if n + 1 < needle.length then .ok none
    else do
      let found ← startsWith needle p
      if found then .ok (some p) else memmem needle n p.tail

theorem memchr_found {c : UInt8} {s : List UInt8} (hc : c ∉ s) (rest : Ptr) {n : Nat}
    (hn : s.length < n) : memchr c n (s ++ c :: rest) = .ok (some (c :: rest)) := by
  induction s generalizing n with
  | nil =>
    cases n with
    | zero => omega
    | succ n => simp [memchr]
  | cons b s ih =>
    simp only [List.mem_cons, not_or] at hc
    cases n with
    | zero => omega
    | succ n =>
      rw [List.cons_append, memchr, if_neg (Ne.symm hc.1)]
      exact ih hc.2 (by simpa using hn)

theorem memchr_missing {c : UInt8} {p : Ptr} {n : Nat} (hn : n ≤ p.length)
    (hc : c ∉ p.take n) : memchr c n p = .ok none := by
  induction n generalizing p with
  | zero => rfl
  | succ n ih =>
    cases p with
    | nil => simp at hn
    | cons b p =>
      simp only [List.take_succ_cons, List.mem_cons, not_or] at hc
      rw [memchr, if_neg (Ne.symm hc.1)]
      exact ih (by simpa using hn) hc.2

theorem splitOn_length {needle : CStr} {p s t : List UInt8} (h : splitOn needle p = some (s, t)) :
    s.length + needle.length + t.length = p.length := by
  rw [splitOn_some h]
  simp [Nat.add_assoc]

theorem splitOn_short {needle : CStr} {p : List UInt8} (h : p.length < needle.length) :
    splitOn needle p = none := by
  cases hsplit : splitOn needle p with
  | none => rfl
  | some r =>
    have hlen := splitOn_length (s := r.1) (t := r.2) hsplit
    omega

/-- `memmem` finds the first occurrence in the `n` bytes. -/
theorem memmem_eq {needle : CStr} {p : Ptr} {n : Nat} (hn : n ≤ p.length) :
    memmem needle n p = .ok ((splitOn needle (p.take n)).map fun r => p.drop r.1.length) := by
  induction n generalizing p with
  | zero => simp [memmem, splitOn]
  | succ n ih =>
    by_cases hshort : n + 1 < needle.length
    · rw [memmem, if_pos hshort, splitOn_short (by rw [List.length_take]; omega)]
      rfl
    · cases p with
      | nil => simp at hn
      | cons b p =>
        have hpre : needle.isPrefixOf (b :: p) = needle.isPrefixOf (b :: p.take n) := by
          rw [Bool.eq_iff_iff, List.isPrefixOf_iff_prefix, List.isPrefixOf_iff_prefix,
            ← List.take_succ_cons]
          constructor
          · intro h
            exact List.prefix_take_iff.mpr ⟨h, by omega⟩
          · intro h
            exact (List.prefix_take_iff.mp h).1
        rw [memmem, if_neg hshort, startsWith_eq (by simp only [List.length_cons] at *; omega),
          List.take_succ_cons, splitOn, hpre]
        show (if _ then _ else _) = _
        split
        · simp
        · rw [List.tail_cons, ih (by simpa using hn)]
          cases splitOn needle (p.take n) <;> simp

/-! ## Section 4: Arrays -/

/-- A `char` array. -/
structure CharArray (cap : Nat) where
  bytes : List UInt8
  length_eq : bytes.length = cap
  deriving DecidableEq

variable {cap : Nat}

namespace CharArray

/-- The array after `memset(a, 0, sizeof a)`. -/
def zero (cap : Nat) : CharArray cap where
  bytes := List.replicate cap 0
  length_eq := List.length_replicate

/-- The C string in the array. -/
def cstring (a : CharArray cap) : CStr := text a.bytes

/-- `memcpy(a, src, n)` -/
def memcpy (a : CharArray cap) (src : Ptr) (n : Int) : Checked (CharArray cap) :=
  if n < 0 then .error .negativeSize
  else if hsrc : src.length < n.toNat then .error .outOfBounds
  else if hcap : cap < n.toNat then .error .overflow
  else .ok {
    bytes := src.take n.toNat ++ a.bytes.drop n.toNat
    length_eq := by
      have hlen := a.length_eq
      rw [List.length_append, List.length_take, List.length_drop]
      omega }

/-- `a[i] = '\0'` -/
def putNul (a : CharArray cap) (i : Int) : Checked (CharArray cap) :=
  if 0 ≤ i ∧ i < cap then
    .ok { bytes := a.bytes.set i.toNat 0, length_eq := by rw [List.length_set, a.length_eq] }
  else .error .overflow

/-- `memcpy(a, src, n); a[n] = '\0';` -/
def copyText (a : CharArray cap) (src : Ptr) (n : Int) : Checked (CharArray cap) := do
  let a ← a.memcpy src n
  a.putNul n

/-- The array after a copy of `v` that fits, with its NUL. -/
def overwrite (a : CharArray cap) (v : List UInt8) (hv : v.length < cap) : CharArray cap where
  bytes := v ++ 0 :: a.bytes.drop (v.length + 1)
  length_eq := by
    have hlen := a.length_eq
    rw [List.length_append, List.length_cons, List.length_drop]
    omega

theorem copyText_eq (a : CharArray cap) {v : List UInt8} (hv : v.length < cap) {p : Ptr} {n : Int}
    (hn : n = v.length) (hp : p.take v.length = v) : a.copyText p n = .ok (a.overwrite v hv) := by
  subst hn
  have hlen := a.length_eq
  have hsrc : v.length ≤ p.length := by
    have htake := congrArg List.length hp
    rw [List.length_take] at htake
    omega
  -- the byte behind the copy
  obtain ⟨b, hdrop⟩ : ∃ b, a.bytes.drop v.length = b :: a.bytes.drop (v.length + 1) :=
    ⟨_, List.drop_eq_getElem_cons (by omega)⟩
  unfold copyText memcpy
  rw [if_neg (by omega), dif_neg (by omega), dif_neg (by omega)]
  show putNul _ _ = _
  rw [putNul, if_pos ⟨by omega, by omega⟩]
  simp only [overwrite, Except.ok.injEq, mk.injEq, Int.toNat_natCast, hp]
  rw [List.set_append_right _ _ le_rfl, Nat.sub_self, hdrop, List.set_cons_zero]

theorem terminated_zero (hcap : 0 < cap) : Terminated (zero cap).bytes := by
  have hne : cap ≠ 0 := by omega
  simp [Terminated, zero, hne]

theorem cstring_zero : (zero cap).cstring = [] := by
  cases cap with
  | zero => rfl
  | succ cap => simp [cstring, zero, List.replicate_succ]

/-- `a[0] = '\0'` -/
theorem putNul_zero (a : CharArray cap) (hcap : 0 < cap) :
    Ends (a.putNul 0) fun b => Terminated b.bytes ∧ b.cstring = [] := by
  have hin : (0 : Int) ≤ 0 ∧ (0 : Int) < cap := by omega
  refine Ends.of_eq (by rw [putNul, if_pos hin]) ?_
  obtain ⟨bytes, hlen⟩ := a
  cases bytes with
  | nil => simp at hlen; omega
  | cons b bytes => simp [Terminated, cstring]

theorem terminated_overwrite (a : CharArray cap) {v : List UInt8} (hv : v.length < cap) :
    Terminated (a.overwrite v hv).bytes := by
  simp [Terminated, overwrite]

theorem cstring_overwrite (a : CharArray cap) {v : List UInt8} (hv : v.length < cap) :
    (a.overwrite v hv).cstring = text v :=
  text_append_nul _ _

/-- A copy that fits leaves the C string of the bytes copied. -/
theorem copyText_spec (a : CharArray cap) {p : Ptr} {n : Int} (hn : 0 ≤ n)
    (hsrc : n ≤ p.length) (hcap : n < cap) :
    Ends (a.copyText p n) fun b =>
      Terminated b.bytes ∧ b.cstring = text (p.take n.toNat) := by
  have htake : (p.take n.toNat).length = n.toNat := by
    rw [List.length_take]
    omega
  have hv : (p.take n.toNat).length < cap := by omega
  have hcopy := a.copyText_eq hv (p := p) (n := n) (by omega) (by rw [htake])
  exact Ends.of_eq hcopy ⟨a.terminated_overwrite hv, a.cstring_overwrite hv⟩

end CharArray

end CMemory
