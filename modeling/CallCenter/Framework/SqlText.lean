import CallCenter.Framework.CFormat

/-! # SQL Text with String Literals

    How MySQL reads the string literals of a statement.

    * `lex` splits a text into the literals, decoded, and the bytes between
      them.  Inside a literal `''` is a quote, and a backslash escapes the
      byte behind it; `\%` and `\_` stand for themselves.
    * A `SqlPart` list is a statement as it is meant: texts and values.
      `render` prints it, every string between quotes as it is; `tokens` is
      what the server should read.
    * `lex_take_render_iff` says when it does, for a text that is cut after
      some bytes.

    Comments, double quotes and quoted identifiers are left to the bytes: a
    text whose tokens are those of a template has them outside its literals
    only if the template does. -/

namespace SqlText

open CFormat

/-! ## Section 1: Reading -/

inductive SqlToken where
  | byte (b : UInt8)
  | literal (s : CStr)
  deriving DecidableEq, Repr

/-- What a backslash and the byte behind it stand for. -/
def unescape (c : UInt8) : CStr :=
  if c = 48 then [0]           -- \0
  else if c = 98 then [8]      -- \b
  else if c = 110 then [10]    -- \n
  else if c = 114 then [13]    -- \r
  else if c = 116 then [9]     -- \t
  else if c = 90 then [26]     -- \Z
  else if c = 37 ∨ c = 95 then [92, c]
  else [c]

/-- The tokens of a text; a literal that has begun is given with the bytes
    read so far, and must end. -/
def lexWith : Option CStr → CStr → Option (List SqlToken)
  | none, [] => some []
  | none, 39 :: rest => lexWith (some []) rest
  | none, b :: rest => (lexWith none rest).map (.byte b :: ·)
  | some _, [] => none
  | some _, [92] => none
  | some lit, 92 :: c :: rest => lexWith (some (lit ++ unescape c)) rest
  | some lit, 39 :: 39 :: rest => lexWith (some (lit ++ [39])) rest
  | some lit, 39 :: rest => (lexWith none rest).map (.literal lit :: ·)
  | some lit, b :: rest => lexWith (some (lit ++ [b])) rest

def lex (text : CStr) : Option (List SqlToken) := lexWith none text

/-- A string that reads as itself between quotes: no quote, and a backslash
    only before `%` or `_`. -/
def plain : CStr → Bool
  | [] => true
  | [92] => false
  | 92 :: c :: rest => (c = 37 || c = 95) && plain rest
  | b :: rest => b ≠ 39 && plain rest

/-! ## Section 2: Writing -/

inductive SqlPart where
  | text (s : CStr)
  /-- `'%s'` -/
  | literal (s : CStr)
  /-- `%d` -/
  | int (v : Int32)
  deriving DecidableEq, Repr

def SqlPart.render : SqlPart → CStr
  | .text s => s
  | .literal s => 39 :: (s ++ [39])
  | .int v => intText v

def render (parts : List SqlPart) : CStr := parts.flatMap SqlPart.render

def SqlPart.tokens : SqlPart → List SqlToken
  | .text s => s.map .byte
  | .literal s => [.literal s]
  | .int v => (intText v).map .byte

def tokens (parts : List SqlPart) : List SqlToken := parts.flatMap SqlPart.tokens

/-- No quote in the texts, and none right behind a literal. -/
def WellFormed : List SqlPart → Prop
  | [] => True
  | .text s :: rest => 39 ∉ s ∧ WellFormed rest
  | .literal _ :: rest => (render rest).head? ≠ some 39 ∧ WellFormed rest
  | .int _ :: rest => WellFormed rest

/-- The strings of a statement. -/
def literals (parts : List SqlPart) : List CStr :=
  parts.filterMap fun
    | .literal s => some s
    | _ => none

def integers (parts : List SqlPart) : List Int32 :=
  parts.filterMap fun
    | .int v => some v
    | _ => none

/-- The bytes that are printed whatever the values are. -/
def formatLength (parts : List SqlPart) : Nat :=
  (parts.map fun
    | .text s => s.length
    | .literal _ => 2
    | .int _ => 0).sum

@[simp] theorem render_nil : render [] = [] := rfl

@[simp] theorem render_cons (p : SqlPart) (rest : List SqlPart) :
    render (p :: rest) = p.render ++ render rest := rfl

@[simp] theorem tokens_nil : tokens [] = [] := rfl

@[simp] theorem tokens_cons (p : SqlPart) (rest : List SqlPart) :
    tokens (p :: rest) = p.tokens ++ tokens rest := rfl

theorem literal_mem_tokens {parts : List SqlPart} {s : CStr} :
    SqlToken.literal s ∈ tokens parts ↔ s ∈ literals parts := by
  induction parts with
  | nil => simp [literals]
  | cons p rest ih =>
    rw [tokens_cons, List.mem_append, ih]
    cases p with
    | text t => simp [SqlPart.tokens, literals]
    | literal t => simp [SqlPart.tokens, literals]
    | int v => simp [SqlPart.tokens, literals]

theorem length_render (parts : List SqlPart) :
    (render parts).length = formatLength parts + ((literals parts).map List.length).sum +
      ((integers parts).map fun v => (intText v).length).sum := by
  induction parts with
  | nil => rfl
  | cons p rest ih =>
    rw [render_cons, List.length_append, ih]
    cases p with
    | text s =>
      simp only [SqlPart.render, formatLength, literals, integers, List.filterMap_cons,
        List.map_cons, List.sum_cons]
      omega
    | literal s =>
      simp only [SqlPart.render, formatLength, literals, integers, List.filterMap_cons,
        List.map_cons, List.sum_cons, List.length_cons, List.length_append, List.length_nil]
      omega
    | int v =>
      simp only [SqlPart.render, formatLength, literals, integers, List.filterMap_cons,
        List.map_cons, List.sum_cons]
      omega

theorem quote_notMem_intText (v : Int32) : 39 ∉ intText v := by
  intro h
  rcases mem_intText h with h | h
  · cases h
  · cases h

/-! ## Section 3: Lengths

    A token is at most as long, with its quotes, as the text it is read from. -/

def SqlToken.length : SqlToken → Nat
  | .byte _ => 1
  | .literal s => s.length + 2

def tokensLength (ts : List SqlToken) : Nat := (ts.map SqlToken.length).sum

@[simp] theorem tokensLength_cons (t : SqlToken) (ts : List SqlToken) :
    tokensLength (t :: ts) = t.length + tokensLength ts := rfl

@[simp] theorem tokensLength_append (ts us : List SqlToken) :
    tokensLength (ts ++ us) = tokensLength ts + tokensLength us := by
  simp [tokensLength]

theorem tokensLength_map_byte (s : CStr) : tokensLength (s.map .byte) = s.length := by
  induction s with
  | nil => rfl
  | cons b s ih =>
    rw [List.map_cons, tokensLength_cons, ih, List.length_cons]
    exact Nat.add_comm _ _

theorem tokensLength_tokens (parts : List SqlPart) :
    tokensLength (tokens parts) = (render parts).length := by
  induction parts with
  | nil => rfl
  | cons p rest ih =>
    rw [tokens_cons, render_cons, tokensLength_append, List.length_append, ih]
    cases p with
    | text s => rw [SqlPart.tokens, SqlPart.render, tokensLength_map_byte]
    | literal s => simp [SqlPart.tokens, SqlPart.render, tokensLength, SqlToken.length]
    | int v => rw [SqlPart.tokens, SqlPart.render, tokensLength_map_byte]

/-- The bytes of a literal that has begun, with its first quote. -/
def begun : Option CStr → Nat
  | none => 0
  | some lit => lit.length + 1

theorem length_unescape_le (c : UInt8) :
    (unescape c).length ≤ 2 ∧ ((unescape c).length = 2 → unescape c = [92, c] ∧
      (c = 37 ∨ c = 95)) := by
  unfold unescape
  split_ifs <;> simp_all

theorem plain_append {s : CStr} (hs : plain s = true) (t : CStr) : plain (s ++ t) = plain t := by
  fun_induction plain s with
  | case1 => rfl
  | case2 => cases hs
  | case3 c rest ih =>
    simp only [Bool.and_eq_true] at hs
    simp only [List.cons_append, plain, ih hs.2, hs.1, Bool.true_and]
  | case4 b rest _ hne ih =>
    simp only [Bool.and_eq_true] at hs
    cases rest with
    | nil => simp_all [plain]
    | cons c rest => simp_all [plain]

theorem plain_singleton {b : UInt8} (hquote : b ≠ 39) (hbackslash : b ≠ 92) :
    plain [b] = true := by
  simp [plain, hquote, hbackslash]

/-- What a text reads as is not longer than the text; if it is as long, every
    literal reads as itself. -/
theorem lexWith_length (mode : Option CStr) (text : CStr) (ts : List SqlToken)
    (h : lexWith mode text = some ts) :
    tokensLength ts ≤ text.length + begun mode ∧
      (tokensLength ts = text.length + begun mode → (∀ lit, mode = some lit → plain lit = true) →
        ∀ s, SqlToken.literal s ∈ ts → plain s = true) := by
  fun_induction lexWith mode text generalizing ts with
  | case1 =>
    obtain rfl := Option.some.inj h
    simp [tokensLength]
  | case2 rest ih =>
    -- the opening quote
    obtain ⟨hle, hplain⟩ := ih ts h
    have hbegun : begun (some []) = 1 := rfl
    refine ⟨by simp only [List.length_cons, begun] at hle ⊢; omega, fun hlen _ => ?_⟩
    refine hplain (by simp only [List.length_cons, begun] at hlen ⊢; omega) ?_
    rintro lit ⟨⟩
    rfl
  | case3 b rest _ ih =>
    obtain ⟨us, hus, rfl⟩ := Option.map_eq_some_iff.mp h
    obtain ⟨hle, hplain⟩ := ih us hus
    rw [tokensLength_cons]
    simp only [SqlToken.length, List.length_cons, begun] at hle ⊢
    refine ⟨by omega, fun hlen _ s hs => ?_⟩
    rcases List.mem_cons.mp hs with hs | hs
    · cases hs
    · exact hplain (by simp only [begun]; omega) nofun s hs
  | case4 => cases h
  | case5 => cases h
  | case6 lit c rest ih =>
    -- an escape: two bytes are read, and at most two are decoded
    obtain ⟨hle, hplain⟩ := ih ts h
    obtain ⟨htwo, hself⟩ := length_unescape_le c
    simp only [List.length_cons, List.length_append, begun] at hle hplain ⊢
    refine ⟨by omega, fun hlen hlit => hplain (by omega) ?_⟩
    rintro _ ⟨⟩
    obtain ⟨heq, hc⟩ := hself (by omega)
    rw [heq, plain_append (hlit lit rfl)]
    simpa [plain] using hc
  | case7 lit rest ih =>
    -- two quotes: one is decoded
    obtain ⟨hle, -⟩ := ih ts h
    simp only [List.length_cons, List.length_append, List.length_nil, begun] at hle ⊢
    exact ⟨by omega, fun hlen => by omega⟩
  | case8 lit rest _ ih =>
    -- the closing quote
    obtain ⟨us, hus, rfl⟩ := Option.map_eq_some_iff.mp h
    obtain ⟨hle, hplain⟩ := ih us hus
    rw [tokensLength_cons]
    simp only [SqlToken.length, List.length_cons, begun] at hle ⊢
    refine ⟨by omega, fun hlen hlit s hs => ?_⟩
    rcases List.mem_cons.mp hs with hs | hs
    · obtain rfl := SqlToken.literal.inj hs
      exact hlit _ rfl
    · exact hplain (by simp only [begun]; omega) nofun s hs
  | case9 lit b rest hend hescape _ hquote ih =>
    obtain ⟨hle, hplain⟩ := ih ts h
    have hbackslash : b ≠ 92 := by
      rintro rfl
      cases rest with
      | nil => exact hend rfl rfl
      | cons c rest => exact hescape c rest rfl rfl
    simp only [List.length_cons, List.length_append, List.length_nil, begun] at hle hplain ⊢
    refine ⟨by omega, fun hlen hlit => hplain (by omega) ?_⟩
    rintro _ ⟨⟩
    rw [plain_append (hlit lit rfl)]
    exact plain_singleton hquote hbackslash

/-! ## Section 4: Reading what was written -/

theorem lexWith_text {s : CStr} (hs : 39 ∉ s) (rest : CStr) :
    lexWith none (s ++ rest) = (lexWith none rest).map (s.map .byte ++ ·) := by
  induction s with
  | nil => simp
  | cons b s ih =>
    obtain ⟨hb, hs⟩ := not_or.mp (mt List.mem_cons.mpr hs)
    have hcons : lexWith none (b :: (s ++ rest)) =
        (lexWith none (s ++ rest)).map (.byte b :: ·) :=
      lexWith.eq_3 b (s ++ rest) fun h => hb h.symm
    rw [List.cons_append, hcons, ih hs, Option.map_map]
    rfl

theorem lexWith_literal {s : CStr} (hs : plain s = true) {rest : CStr}
    (hrest : rest.head? ≠ some 39) (lit : CStr) :
    lexWith (some lit) (s ++ 39 :: rest) =
      (lexWith none rest).map (.literal (lit ++ s) :: ·) := by
  fun_induction plain s generalizing lit with
  | case1 =>
    rw [List.append_nil, List.nil_append]
    refine lexWith.eq_8 lit rest ?_
    rintro rest' rfl
    exact hrest rfl
  | case2 => cases hs
  | case3 c s ih =>
    simp only [Bool.and_eq_true, Bool.or_eq_true, decide_eq_true_eq] at hs
    have hself : unescape c = [92, c] := by
      rcases hs.1 with rfl | rfl <;> rfl
    show lexWith (some (lit ++ unescape c)) (s ++ 39 :: rest) = _
    rw [ih hs.2, hself, List.append_assoc]
    rfl
  | case4 b s hend hescape ih =>
    simp only [Bool.and_eq_true, decide_eq_true_eq] at hs
    have hbackslash : b ≠ 92 := by
      rintro rfl
      cases s with
      | nil => exact hend rfl rfl
      | cons c s => exact hescape c s rfl rfl
    have hcons : lexWith (some lit) (b :: (s ++ 39 :: rest)) =
        lexWith (some (lit ++ [b])) (s ++ 39 :: rest) :=
      lexWith.eq_9 lit b _ (fun h => absurd h hbackslash) (fun _ _ h => absurd h hbackslash)
        (fun _ h => absurd h hs.1) (fun h => hs.1 h)
    rw [List.cons_append, hcons, ih hs.2, List.append_assoc]
    rfl

/-- A statement whose values are plain reads as it was meant. -/
theorem lex_render {parts : List SqlPart} (hwf : WellFormed parts)
    (hplain : ∀ s ∈ literals parts, plain s = true) :
    lex (render parts) = some (tokens parts) := by
  unfold lex
  induction parts with
  | nil => rfl
  | cons p rest ih =>
    cases p with
    | text s =>
      rw [render_cons, SqlPart.render, lexWith_text hwf.1, ih hwf.2 hplain]
      rfl
    | int v =>
      rw [render_cons, SqlPart.render, lexWith_text (quote_notMem_intText v), ih hwf hplain]
      rfl
    | literal s =>
      have hs : plain s = true := hplain s List.mem_cons_self
      have hrest : ∀ t ∈ literals rest, plain t = true := fun t ht =>
        hplain t (List.mem_cons_of_mem s ht)
      have hquote : lexWith none (39 :: (s ++ 39 :: render rest)) =
          lexWith (some []) (s ++ 39 :: render rest) := rfl
      rw [render_cons, SqlPart.render, List.cons_append, List.append_assoc, List.singleton_append,
        hquote, lexWith_literal hs hwf.1, ih hwf.2 hrest]
      rfl

/-- **Cut after `k` bytes**, a statement reads as it was meant exactly if
    nothing is cut off and every value is plain. -/
theorem lex_take_render_iff {parts : List SqlPart} (hwf : WellFormed parts) (k : Nat) :
    lex ((render parts).take k) = some (tokens parts) ↔
      (render parts).length ≤ k ∧ ∀ s ∈ literals parts, plain s = true := by
  constructor
  · intro h
    obtain ⟨hle, hself⟩ := lexWith_length none _ _ h
    rw [tokensLength_tokens, List.length_take] at hle
    simp only [begun] at hle
    have hk : (render parts).length ≤ k := by omega
    refine ⟨hk, fun s hs => ?_⟩
    refine hself ?_ nofun s (literal_mem_tokens.mpr hs)
    rw [tokensLength_tokens, List.take_of_length_le hk]
    rfl
  · rintro ⟨hk, hplain⟩
    rw [List.take_of_length_le hk]
    exact lex_render hwf hplain

end SqlText
