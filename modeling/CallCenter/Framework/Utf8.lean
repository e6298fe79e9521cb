import Mathlib.Data.List.Basic
import Mathlib.Data.List.Infix
import Mathlib.Data.List.TakeWhile

/-! # Cutting UTF-8 Text

    A text is a list of bytes; it is valid if it is the encoding of a list of
    characters.  What is left of a valid text when it is cut at a byte is
    valid exactly if the byte at the cut begins a character
    (`valid_take_iff`).

    `IsWholePrefix n s t` says what a cut to `n` bytes should give: the
    longest prefix of whole characters.  A cut that looks at bytes only gives
    it under the same condition (`isWholePrefix_take_iff`). -/

namespace Utf8

/-! ## Section 1: Valid texts -/

/-- The bytes of a list of characters. -/
def encode (chars : List Char) : List UInt8 := chars.flatMap String.utf8EncodeChar

def Valid (s : List UInt8) : Prop := ∃ chars, s = encode chars

/-- The text has ended at offset `n`, or a character begins there. -/
def Boundary (s : List UInt8) (n : Nat) : Prop := ∀ b, s[n]? = some b → b.IsUTF8FirstByte

/-- `t` is the longest prefix of `s` of whole characters and at most `n` bytes. -/
structure IsWholePrefix (n : Nat) (s t : List UInt8) : Prop where
  isPrefix : t <+: s
  valid : Valid t
  fits : t.length ≤ n
  longest : ∀ t', t' <+: s → Valid t' → t'.length ≤ n → t'.length ≤ t.length

@[simp] theorem encode_nil : encode [] = [] := rfl

@[simp] theorem encode_cons (c : Char) (chars : List Char) :
    encode (c :: chars) = String.utf8EncodeChar c ++ encode chars := rfl

theorem encode_append (chars chars' : List Char) :
    encode (chars ++ chars') = encode chars ++ encode chars' := List.flatMap_append

theorem valid_nil : Valid [] := ⟨[], rfl⟩

theorem valid_encode (chars : List Char) : Valid (encode chars) := ⟨chars, rfl⟩

theorem Valid.append {s t : List UInt8} (hs : Valid s) (ht : Valid t) : Valid (s ++ t) := by
  obtain ⟨chars, rfl⟩ := hs
  obtain ⟨chars', rfl⟩ := ht
  exact ⟨chars ++ chars', (encode_append chars chars').symm⟩

theorem Valid.cons {s : List UInt8} (c : Char) (hs : Valid s) :
    Valid (String.utf8EncodeChar c ++ s) := by
  obtain ⟨chars, rfl⟩ := hs
  exact ⟨c :: chars, rfl⟩

/-- No encoding is the beginning of another one. -/
theorem eq_of_append_eq {c d : Char} {s t : List UInt8}
    (h : String.utf8EncodeChar c ++ s = String.utf8EncodeChar d ++ t) : c = d := by
  have hbytes : (String.utf8EncodeChar c).toByteArray ++ s.toByteArray =
      (String.utf8EncodeChar d).toByteArray ++ t.toByteArray := by
    rw [← List.toByteArray_append, ← List.toByteArray_append, h]
  have hc := ByteArray.utf8DecodeChar?_utf8EncodeChar_append (b := s.toByteArray) (c := c)
  rw [hbytes, ByteArray.utf8DecodeChar?_utf8EncodeChar_append] at hc
  exact (Option.some.inj hc).symm

theorem length_pos (c : Char) : 0 < (String.utf8EncodeChar c).length := by
  rw [String.length_utf8EncodeChar]
  exact c.utf8Size_pos

/-- A character in front makes no difference. -/
theorem valid_append_iff (c : Char) (s : List UInt8) :
    Valid (String.utf8EncodeChar c ++ s) ↔ Valid s := by
  constructor
  · intro h
    obtain ⟨chars, hchars⟩ := h
    cases chars with
    | nil =>
      have hlen := congrArg List.length hchars
      have hpos := length_pos c
      rw [List.length_append, encode_nil, List.length_nil] at hlen
      omega
    | cons d chars =>
      rw [encode_cons] at hchars
      obtain rfl := eq_of_append_eq hchars
      exact ⟨chars, List.append_cancel_left hchars⟩
  · exact Valid.cons c

/-- A part of a character is not valid. -/
theorem not_valid_take {c : Char} {n : Nat} (hpos : 0 < n)
    (hlt : n < (String.utf8EncodeChar c).length) :
    ¬ Valid ((String.utf8EncodeChar c).take n) := by
  intro h
  obtain ⟨chars, hchars⟩ := h
  have hlen : ((String.utf8EncodeChar c).take n).length = n := by
    rw [List.length_take]
    omega
  cases chars with
  | nil =>
    rw [hchars, encode_nil, List.length_nil] at hlen
    omega
  | cons d chars =>
    have hsplit : String.utf8EncodeChar c ++ [] =
        String.utf8EncodeChar d ++ (encode chars ++ (String.utf8EncodeChar c).drop n) := by
      rw [List.append_nil, ← List.append_assoc, ← encode_cons, ← hchars, List.take_append_drop]
    obtain rfl := eq_of_append_eq hsplit
    rw [hchars, encode_cons, List.length_append] at hlen
    omega

/-! ## Section 2: Cuts -/

theorem boundary_of_length_le {s : List UInt8} {n : Nat} (h : s.length ≤ n) : Boundary s n := by
  intro b hb
  rw [List.getElem?_eq_none h] at hb
  cases hb

theorem boundary_append (c : Char) (s : List UInt8) (n : Nat) :
    Boundary (String.utf8EncodeChar c ++ s) ((String.utf8EncodeChar c).length + n) ↔
      Boundary s n := by
  unfold Boundary
  rw [List.getElem?_append_right (Nat.le_add_right _ _), Nat.add_sub_cancel_left]

/-- **A cut is valid where a character begins.** -/
theorem valid_take_iff {s : List UInt8} (h : Valid s) (n : Nat) :
    Valid (s.take n) ↔ Boundary s n := by
  obtain ⟨chars, rfl⟩ := h
  induction chars generalizing n with
  | nil => simp [Boundary, valid_nil]
  | cons c chars ih =>
    rw [encode_cons]
    have hpos := length_pos c
    by_cases hzero : n = 0
    · subst hzero
      refine iff_of_true (by simpa using valid_nil) ?_
      intro b hb
      rw [List.getElem?_append_left hpos, List.getElem?_eq_getElem hpos] at hb
      obtain rfl := Option.some.inj hb
      exact UInt8.isUTF8FirstByte_getElem_zero_utf8EncodeChar
    by_cases hlt : n < (String.utf8EncodeChar c).length
    · -- the cut goes through the first character
      rw [List.take_append_of_le_length hlt.le]
      refine iff_of_false (not_valid_take (by omega) hlt) ?_
      intro hboundary
      have hfirst := hboundary ((String.utf8EncodeChar c)[n]) (by
        rw [List.getElem?_append_left hlt, List.getElem?_eq_getElem hlt])
      exact hzero (UInt8.isUTF8FirstByte_getElem_utf8EncodeChar.mp hfirst)
    · obtain ⟨m, rfl⟩ := Nat.exists_eq_add_of_le (Nat.le_of_not_lt hlt)
      rw [List.take_length_add_append, valid_append_iff, boundary_append]
      exact ih m

/-- Behind what `takeWhile` takes stands the byte it stops at. -/
theorem getElem?_takeWhile_ne {s : List UInt8} {a b : UInt8}
    (hb : s[(s.takeWhile (· ≠ a)).length]? = some b) : b = a := by
  induction s with
  | nil => simp at hb
  | cons x s ih =>
    by_cases hx : x = a
    · rw [List.takeWhile_cons_of_neg (by simpa using hx)] at hb
      exact (Option.some.inj hb).symm.trans hx
    · rw [List.takeWhile_cons_of_pos (by simpa using hx)] at hb
      exact ih (by simpa using hb)

/-- A text up to the first occurrence of a byte that begins a character. -/
theorem Valid.takeWhile_ne {s : List UInt8} (h : Valid s) {a : UInt8} (ha : a.IsUTF8FirstByte) :
    Valid (s.takeWhile (· ≠ a)) := by
  have htake : s.takeWhile (· ≠ a) = s.take (s.takeWhile (· ≠ a)).length :=
    List.prefix_iff_eq_take.mp (List.takeWhile_prefix _)
  rw [htake, valid_take_iff h]
  intro b hb
  rw [getElem?_takeWhile_ne hb]
  exact ha

/-- **A cut to `n` bytes gives whole characters** if and only if a character
    begins at the cut or the text fits. -/
theorem isWholePrefix_take_iff {s : List UInt8} (h : Valid s) (n : Nat) :
    IsWholePrefix n s (s.take n) ↔ Boundary s n := by
  rw [← valid_take_iff h]
  constructor
  · exact fun hwhole => hwhole.valid
  · intro hvalid
    refine ⟨List.take_prefix n s, hvalid, List.length_take_le n s, ?_⟩
    intro t' hprefix _ hfits
    rw [List.length_take]
    have hlen := hprefix.length_le
    omega

end Utf8
