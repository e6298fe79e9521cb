import CallCenter.SipHandler.Parse

/-! # The Start Line and What Follows It

    `sip_parse_start_line` looks for its CRLF first, but then searches the
    whole datagram for spaces and digits.  Whether it stays within its line
    is decided by the line alone: `start_line_isolated_iff` says for which
    lines the result is the same whatever follows. -/

namespace SipHandler

open CFormat CMemory

/-! ## Section 1: The parse of a line -/

/-- The bytes before the first CRLF of a datagram, with no NUL among them. -/
structure RawLine where
  bytes : List UInt8
  noCrlf : splitOn crlf bytes = none
  noNul : 0 ∉ bytes
  fits : bytes.length + 2 < sipMaxRawLen

/-- The datagram of a line and what follows its CRLF. -/
def RawLine.datagram (line : RawLine) (rest : List UInt8) : List UInt8 := line.bytes ++ crlf ++ rest

/-- The return code, `method`, `request_uri` and `status_code` of
    `sip_parse_start_line` on a zeroed message. -/
def parsedStartLine (bytes : List UInt8) : Checked (SipParseError × SipMethod × CStr × Int32) :=
  (sipParseStartLine (bytes ++ [0]) bytes.length .zero).map fun r =>
    (r.1, r.2.1.method, r.2.1.requestUri.cstring, r.2.1.statusCode)

/-- What follows the line makes no difference, and none of it gets into the
    request URI. -/
def LineIsolated (line : RawLine) : Prop :=
  ∀ rest rest', (line.datagram rest).length < sipMaxRawLen →
    (line.datagram rest').length < sipMaxRawLen →
    parsedStartLine (line.datagram rest) = parsedStartLine (line.datagram rest') ∧
      ∀ r, parsedStartLine (line.datagram rest) = .ok r → r.2.2.1 <:+: line.bytes

/-- What follows the line up to the end of the buffer. -/
def behind (rest : List UInt8) : Ptr := crlf ++ rest ++ [0]

theorem terminated_behind (rest : List UInt8) : Terminated (behind rest) := by
  simp [Terminated, behind]

/-- The fields that are looked at. -/
def observed (r : SipParseError × SipMessage) : SipParseError × SipMethod × CStr × Int32 :=
  (r.1, r.2.method, r.2.requestUri.cstring, r.2.statusCode)

/-- The line is long enough, so what counts is how it is parsed. -/
theorem parsedStartLine_eq (line : RawLine) (rest : List UInt8) :
    parsedStartLine (line.datagram rest) =
      if line.bytes.length < 7 then .ok (.shortLine, .unknown, [], 0)
      else (sipParseLine (line.bytes ++ behind rest) .zero).map observed := by
  have hdata : line.datagram rest ++ [0] = line.bytes ++ crlf ++ (rest ++ [0]) := by
    simp [RawLine.datagram]
  have hbehind : line.bytes ++ crlf ++ (rest ++ [0]) = line.bytes ++ behind rest := by
    simp [behind]
  have hpos : (0 : Int) < (line.datagram rest).length := by
    simp only [RawLine.datagram, crlf, List.length_append, List.length_cons, List.length_nil]
    omega
  have hnul : Terminated (rest ++ [0]) := by simp [Terminated]
  unfold parsedStartLine
  rw [hdata, sipParseStartLine_eq line.noCrlf line.noNul hnul hpos, hbehind]
  by_cases hshort : line.bytes.length < 7
  · rw [if_pos hshort, if_pos hshort]
    rfl
  · rw [if_neg hshort, if_neg hshort]
    cases sipParseLine (line.bytes ++ behind rest) .zero with
    | error fault => rfl
    | ok parsed => rfl

/-! ### Status lines -/

theorem sipParseStatusLine_skip {line : List UInt8} (hspace : 32 ∉ line) (h0 : 0 ∉ line)
    (eol : Ptr) (msg : SipMessage) :
    sipParseStatusLine (line ++ eol) msg = sipParseStatusLine eol msg := by
  unfold sipParseStatusLine
  rw [strchr_skip hspace h0]

/-! ### Request lines -/

/-- The request line once both spaces are found. -/
theorem sipParseRequestLine_space {name : List UInt8} (hspace : 32 ∉ name) (h0 : 0 ∉ name)
    {p : Ptr} (msg : SipMessage) :
    sipParseRequestLine (name ++ 32 :: p) msg =
      if name = [] ∨ methodBufSize ≤ name.length then .ok (.badMethod, msg)
      else do
        let sp2 ← strchr 32 p
        let msg ← storeRequestUri (32 :: p) sp2 { msg with method := sipMethodFromString name }
        return (.ok, msg) := by
  unfold sipParseRequestLine
  rw [strchr_found hspace h0]
  show (if ptrDiff (32 :: p) (name ++ 32 :: p) ≤ 0 ∨ _ then _ else _) = _
  rw [ptrDiff_append]
  by_cases hbad : name = [] ∨ methodBufSize ≤ name.length
  · have hmlen : (name.length : Int) ≤ 0 ∨ (methodBufSize : Int) ≤ name.length := by
      rcases hbad with rfl | hlong
      · exact Or.inl (by simp)
      · exact Or.inr (by exact_mod_cast hlong)
    rw [if_pos hmlen, if_pos hbad]
    rfl
  · have hpos := List.length_pos_of_ne_nil fun h => hbad (Or.inl h)
    have hlong : ¬ methodBufSize ≤ name.length := fun h => hbad (Or.inr h)
    have hmlen : ¬ ((name.length : Int) ≤ 0 ∨ (methodBufSize : Int) ≤ name.length) := by omega
    rw [if_neg hmlen, if_neg hbad]
    obtain ⟨buf, hcopy, hterm, htext⟩ := memcpy_zero_spec (k := methodBufSize)
      (p := name ++ 32 :: p) (n := name.length) (by omega)
      (by rw [List.length_append]; omega) (by omega)
    have hname : text buf.bytes = name := by
      have hbuf : text buf.bytes = text ((name ++ 32 :: p).take name.length) := htext
      rw [hbuf, List.take_left, text_eq_self h0]
    rw [hcopy]
    show (readText buf.bytes >>= _) = _
    rw [readText, if_pos hterm, hname]
    rfl

/-- The message with the URI, if it fits. -/
def uriResult (uri : List UInt8) (msg : SipMessage) : SipMessage :=
  if h : 0 < uri.length ∧ uri.length < sipMaxUriLen then
    { msg with requestUri := msg.requestUri.overwrite uri h.2 }
  else msg

/-- The URI between the spaces. -/
theorem storeRequestUri_eq (uri : List UInt8) (rest : Ptr) (msg : SipMessage) :
    storeRequestUri (32 :: (uri ++ 32 :: rest)) (some (32 :: rest)) msg =
      .ok (uriResult uri msg) := by
  have hdiff : ptrDiff (32 :: rest) (32 :: (uri ++ 32 :: rest)) - 1 = uri.length := by
    unfold ptrDiff
    simp only [List.length_cons, List.length_append]
    omega
  unfold storeRequestUri uriResult
  dsimp only
  rw [hdiff]
  by_cases hfits : 0 < uri.length ∧ uri.length < sipMaxUriLen
  · rw [if_pos (by omega), dif_pos hfits]
    show (msg.requestUri.copyText (uri ++ 32 :: rest) uri.length >>= _) = _
    rw [CharArray.copyText_eq _ hfits.2 rfl List.take_left]
    rfl
  · rw [if_neg (by omega), dif_neg hfits]

theorem cstring_uriResult {uri : List UInt8} (h0 : 0 ∉ uri) (msg : SipMessage) :
    (uriResult uri msg).requestUri.cstring =
      if 0 < uri.length ∧ uri.length < sipMaxUriLen then uri else msg.requestUri.cstring := by
  unfold uriResult
  by_cases hfits : 0 < uri.length ∧ uri.length < sipMaxUriLen
  · rw [dif_pos hfits, if_pos hfits]
    exact (CharArray.cstring_overwrite _ hfits.2).trans (text_eq_self h0)
  · rw [dif_neg hfits, if_neg hfits]

/-! ## Section 2: Lines that decide -/

/-- Behind the first space there is more than white space. -/
def StatusDecides (line : List UInt8) : Prop :=
  match splitOn [32] line with
  | none => False
  | some (_, back) => ∃ b ∈ back, isSpace b = false

/-- Without a space the method is too long in any case; with one either the
    method is not accepted, or the line has the second space, or the URI is
    too long in any case. -/
def RequestDecides (line : List UInt8) : Prop :=
  match splitOn [32] line with
  | none => methodBufSize ≤ line.length + 2
  | some (name, back) =>
    name = [] ∨ methodBufSize ≤ name.length ∨ 32 ∈ back ∨ sipMaxUriLen ≤ back.length + 2

/-- The lines that are too short, that leave no room for another byte, and
    those in which all searches of their branch come to an end. -/
def LineDecides (line : RawLine) : Prop :=
  line.bytes.length < 7 ∨ sipMaxRawLen ≤ line.bytes.length + 3 ∨
    if strcaseEq (line.bytes.take 7) (cstr "SIP/2.0") = true then StatusDecides line.bytes
    else RequestDecides line.bytes

/-- The first space behind the line, if there is one before the next NUL. -/
theorem strchr_behind (rest : List UInt8) :
    strchr 32 (behind rest) = .ok none ∨
      ∃ s t, behind rest = s ++ 32 :: t ∧ 32 ∉ s ∧ 0 ∉ s ∧ 2 ≤ s.length ∧
        strchr 32 (behind rest) = .ok (some (32 :: t)) := by
  rcases strchr_cases (c := 32) (by decide) (terminated_behind rest) with
    ⟨s, t, hsplit, hspace, h0, hchr⟩ | ⟨-, hchr⟩
  · refine Or.inr ⟨s, t, hsplit, hspace, h0, ?_, hchr⟩
    -- the first two bytes are the CRLF
    match s, hsplit with
    | [], h => simp [behind, crlf] at h
    | [_], h => simp [behind, crlf] at h
    | _ :: _ :: _, _ => simp
  · exact Or.inl hchr

theorem noDigitAhead_behind (rest : List UInt8) : NoDigitAhead (behind rest) := by
  intro b hb
  obtain rfl : (13 : UInt8) = b := by simpa [behind, crlf] using hb
  decide

/-- The status code of a line that decides. -/
theorem status_decided {line : List UInt8} (h0 : 0 ∉ line) (h : StatusDecides line) :
    ∃ v : SipParseError × SipMethod × CStr × Int32, v.2.2.1 <:+: line ∧ ∀ rest,
      (sipParseStatusLine (line ++ behind rest) .zero).map observed = .ok v := by
  unfold StatusDecides at h
  cases hsplit : splitOn [32] line with
  | none => rw [hsplit] at h; exact h.elim
  | some r =>
    obtain ⟨front, back⟩ := r
    rw [hsplit] at h
    obtain ⟨rfl, hspace⟩ := splitOn_byte_some hsplit
    have hfront : 0 ∉ front := fun hmem => h0 (List.mem_append_left _ hmem)
    refine ⟨(.ok, .unknown, [], atoi back), List.nil_infix, ?_⟩
    intro rest
    rw [sipParseStatusLine_space hspace hfront (terminated_behind rest),
      atoi_append h (noDigitAhead_behind rest)]
    rfl

/-- A search for the second space that starts in `back`. -/
theorem request_uri {name back : List UInt8} (hspace : 32 ∉ name) (h0 : 0 ∉ name)
    (hgood : ¬ (name = [] ∨ methodBufSize ≤ name.length)) {u : List UInt8} (huri : 32 ∉ u)
    (huri0 : 0 ∉ u) {p r : Ptr} (hp : back ++ p = u ++ 32 :: r) :
    (sipParseRequestLine (name ++ 32 :: back ++ p) .zero).map observed =
      .ok (.ok, sipMethodFromString name,
        if 0 < u.length ∧ u.length < sipMaxUriLen then u else [], 0) := by
  have hassoc : name ++ 32 :: back ++ p = name ++ 32 :: (u ++ 32 :: r) := by
    rw [List.append_assoc, List.cons_append, hp]
  rw [hassoc, sipParseRequestLine_space hspace h0, if_neg hgood, strchr_found huri huri0]
  show (do
    let msg ← storeRequestUri (32 :: (u ++ 32 :: r)) (some (32 :: r))
      { SipMessage.zero with method := sipMethodFromString name }
    return (SipParseError.ok, msg)).map observed = _
  rw [storeRequestUri_eq]
  have hzero : ({ SipMessage.zero with
      method := sipMethodFromString name } : SipMessage).requestUri.cstring = [] :=
    CharArray.cstring_zero
  have hframe : ∀ m, (uriResult u m).method = m.method ∧
      (uriResult u m).statusCode = m.statusCode := by
    intro m
    unfold uriResult
    split <;> exact ⟨rfl, rfl⟩
  show Except.ok (SipParseError.ok, (uriResult u _).method, (uriResult u _).requestUri.cstring,
    (uriResult u _).statusCode) = _
  rw [cstring_uriResult huri0, hzero, (hframe _).1, (hframe _).2]
  rfl

/-- The search finds no second space. -/
theorem request_no_uri {name back : List UInt8} (hspace : 32 ∉ name) (h0 : 0 ∉ name)
    (hgood : ¬ (name = [] ∨ methodBufSize ≤ name.length)) {p : Ptr}
    (hchr : strchr 32 (back ++ p) = .ok none) :
    (sipParseRequestLine (name ++ 32 :: back ++ p) .zero).map observed =
      .ok (.ok, sipMethodFromString name, [], 0) := by
  have hassoc : name ++ 32 :: back ++ p = name ++ 32 :: (back ++ p) := by
    rw [List.append_assoc, List.cons_append]
  have hzero : SipMessage.zero.requestUri.cstring = [] := CharArray.cstring_zero
  rw [hassoc, sipParseRequestLine_space hspace h0, if_neg hgood, hchr]
  show Except.ok (SipParseError.ok, sipMethodFromString name,
    SipMessage.zero.requestUri.cstring, (0 : Int32)) = _
  rw [hzero]

/-- A method that is not accepted. -/
theorem request_bad {name : List UInt8} (hspace : 32 ∉ name) (h0 : 0 ∉ name)
    (hbad : name = [] ∨ methodBufSize ≤ name.length) (p : Ptr) :
    (sipParseRequestLine (name ++ 32 :: p) .zero).map observed =
      .ok (.badMethod, .unknown, [], 0) := by
  have hzero : SipMessage.zero.requestUri.cstring = [] := CharArray.cstring_zero
  rw [sipParseRequestLine_space hspace h0, if_pos hbad]
  show Except.ok (SipParseError.badMethod, SipMethod.unknown,
    SipMessage.zero.requestUri.cstring, (0 : Int32)) = _
  rw [hzero]

/-- A request without any space before the next NUL. -/
theorem request_no_space {line : List UInt8} (hspace : 32 ∉ line) (h0 : 0 ∉ line) {p : Ptr}
    (hchr : strchr 32 p = .ok none) :
    (sipParseRequestLine (line ++ p) .zero).map observed = .ok (.badMethod, .unknown, [], 0) := by
  have hzero : SipMessage.zero.requestUri.cstring = [] := CharArray.cstring_zero
  unfold sipParseRequestLine
  rw [strchr_skip hspace h0, hchr]
  show Except.ok (SipParseError.badMethod, SipMethod.unknown,
    SipMessage.zero.requestUri.cstring, (0 : Int32)) = _
  rw [hzero]

/-- What a request line that decides gives. -/
theorem request_decided {line : List UInt8} (h0 : 0 ∉ line) (h : RequestDecides line) :
    ∃ v : SipParseError × SipMethod × CStr × Int32, v.2.2.1 <:+: line ∧ ∀ rest,
      (sipParseRequestLine (line ++ behind rest) .zero).map observed = .ok v := by
  unfold RequestDecides at h
  cases hsplit : splitOn [32] line with
  | none =>
    rw [hsplit] at h
    have hspace := splitOn_byte_none hsplit
    refine ⟨(.badMethod, .unknown, [], 0), List.nil_infix, ?_⟩
    intro rest
    rcases strchr_behind rest with hchr | ⟨s, t, hbehind, hs, hs0, hlen, -⟩
    · exact request_no_space hspace h0 hchr
    · -- the method would reach beyond the line and be too long
      have hlong : methodBufSize ≤ (line ++ s).length := by
        have hline : methodBufSize ≤ line.length + 2 := h
        rw [List.length_append]
        omega
      rw [hbehind, ← List.append_assoc]
      apply request_bad _ _ (Or.inr hlong)
      · simp [hspace, hs]
      · simp [h0, hs0]
  | some r =>
    obtain ⟨name, back⟩ := r
    rw [hsplit] at h
    obtain ⟨rfl, hspace⟩ := splitOn_byte_some hsplit
    have hname0 : 0 ∉ name := fun hmem => h0 (List.mem_append_left _ hmem)
    have hback0 : 0 ∉ back := fun hmem =>
      h0 (List.mem_append_right _ (List.mem_cons_of_mem _ hmem))
    by_cases hbad : name = [] ∨ methodBufSize ≤ name.length
    · refine ⟨(.badMethod, .unknown, [], 0), List.nil_infix, ?_⟩
      intro rest
      rw [List.append_assoc, List.cons_append]
      exact request_bad hspace hname0 hbad _
    · by_cases hsp2 : 32 ∈ back
      · obtain ⟨uri, tail, rfl, huri⟩ := exists_cut hsp2
        have huri0 : 0 ∉ uri := fun hmem => hback0 (List.mem_append_left _ hmem)
        refine ⟨(.ok, sipMethodFromString name,
          if 0 < uri.length ∧ uri.length < sipMaxUriLen then uri else [], 0), ?_, ?_⟩
        · dsimp only
          split
          · exact ⟨name ++ [32], 32 :: tail, by simp⟩
          · exact List.nil_infix
        · intro rest
          exact request_uri (r := tail ++ behind rest) hspace hname0 hbad huri huri0 (by simp)
      · have hlong : sipMaxUriLen ≤ back.length + 2 := by
          rcases h with h | h | h | h
          · exact absurd (Or.inl h) hbad
          · exact absurd (Or.inr h) hbad
          · exact absurd h hsp2
          · exact h
        refine ⟨(.ok, sipMethodFromString name, [], 0), List.nil_infix, ?_⟩
        intro rest
        rcases strchr_behind rest with hchr | ⟨s, t, hbehind, hs, hs0, hlen, -⟩
        · exact request_no_uri hspace hname0 hbad (by rw [strchr_skip hsp2 hback0, hchr])
        · -- the URI would reach beyond the line and be too long
          have htoo : ¬ (0 < (back ++ s).length ∧ (back ++ s).length < sipMaxUriLen) := by
            rw [List.length_append]
            omega
          rw [request_uri (u := back ++ s) (r := t) hspace hname0 hbad (by simp [hsp2, hs])
            (by simp [hback0, hs0]) (by rw [hbehind, List.append_assoc]), if_neg htoo]

/-! ## Section 3: Lines that do not decide -/

/-- Nothing follows the line: then the result is that of the line. -/
theorem parsed_alone {line : List UInt8} (h0 : 0 ∉ line) :
    ∃ v : SipParseError × SipMethod × CStr × Int32, v.2.2.1 <:+: line ∧
      (if strcaseEq (line.take 7) (cstr "SIP/2.0") = true then
        sipParseStatusLine (line ++ behind []) .zero
      else sipParseRequestLine (line ++ behind []) .zero).map observed = .ok v := by
  have hchr : strchr 32 (behind []) = .ok none := rfl
  have hzero : SipMessage.zero.requestUri.cstring = [] := CharArray.cstring_zero
  cases hsplit : splitOn [32] line with
  | none =>
    have hspace := splitOn_byte_none hsplit
    split
    · refine ⟨(.shortLine, .unknown, [], 0), List.nil_infix, ?_⟩
      rw [sipParseStatusLine_skip hspace h0]
      rfl
    · exact ⟨_, List.nil_infix, request_no_space hspace h0 hchr⟩
  | some r =>
    obtain ⟨name, back⟩ := r
    obtain ⟨rfl, hspace⟩ := splitOn_byte_some hsplit
    have hname0 : 0 ∉ name := fun hmem => h0 (List.mem_append_left _ hmem)
    have hback0 : 0 ∉ back := fun hmem =>
      h0 (List.mem_append_right _ (List.mem_cons_of_mem _ hmem))
    split
    · refine ⟨(.ok, .unknown, [], atoi (back ++ behind [])), List.nil_infix, ?_⟩
      rw [sipParseStatusLine_space hspace hname0 (terminated_behind [])]
      show Except.ok (SipParseError.ok, SipMethod.unknown,
        SipMessage.zero.requestUri.cstring, atoi (back ++ behind [])) = _
      rw [hzero]
    · by_cases hdecides : RequestDecides (name ++ 32 :: back)
      · obtain ⟨v, hinfix, hall⟩ := request_decided h0 hdecides
        exact ⟨v, hinfix, hall []⟩
      · -- a good method and no second space
        unfold RequestDecides at hdecides
        rw [hsplit] at hdecides
        simp only [not_or] at hdecides
        obtain ⟨hne, hlen, hsp2, -⟩ := hdecides
        refine ⟨(.ok, sipMethodFromString name, [], 0), List.nil_infix, ?_⟩
        apply request_no_uri hspace hname0
        · rw [not_or]
          exact ⟨hne, hlen⟩
        · rw [strchr_skip hsp2 hback0, hchr]

/-- White space in front of a number is skipped. -/
theorem atoi_white {back : List UInt8} (hwhite : ∀ b ∈ back, isSpace b = true) (s : CStr) :
    atoi (back ++ s) = atoi s := by
  have hdrop : (back ++ s).dropWhile isSpace = s.dropWhile isSpace := by
    rw [List.dropWhile_append_of_pos hwhite]
  simp only [atoi, scanInt, hdrop]

/-- A status line without a code takes it from what follows. -/
theorem status_undecided {line : List UInt8} (h0 : 0 ∉ line) (h : ¬ StatusDecides line) :
    ∃ x y : UInt8, (sipParseStatusLine (line ++ behind [x]) .zero).map observed ≠
      (sipParseStatusLine (line ++ behind [y]) .zero).map observed := by
  unfold StatusDecides at h
  cases hsplit : splitOn [32] line with
  | none =>
    -- a space and a letter: with the space the line is accepted
    have hspace := splitOn_byte_none hsplit
    refine ⟨32, 65, ?_⟩
    rw [sipParseStatusLine_skip hspace h0, sipParseStatusLine_skip hspace h0]
    show Except.ok _ ≠ Except.ok _
    intro heq
    have hcode := congrArg Prod.fst (Except.ok.inj heq)
    cases hcode
  | some r =>
    obtain ⟨front, back⟩ := r
    rw [hsplit] at h
    obtain ⟨rfl, hspace⟩ := splitOn_byte_some hsplit
    have hfront : 0 ∉ front := fun hmem => h0 (List.mem_append_left _ hmem)
    have hwhite : ∀ b ∈ back, isSpace b = true := by
      intro b hb
      by_contra hne
      exact h ⟨b, hb, by simpa using hne⟩
    -- the digits 1 and 2
    refine ⟨49, 50, ?_⟩
    rw [sipParseStatusLine_space hspace hfront (terminated_behind _),
      sipParseStatusLine_space hspace hfront (terminated_behind _), atoi_white hwhite,
      atoi_white hwhite]
    show Except.ok _ ≠ Except.ok _
    intro heq
    have hcode := congrArg (fun v => v.2.2.2) (Except.ok.inj heq)
    exact absurd hcode (by decide)

/-- A request line without its spaces takes the method or the URI from what
    follows. -/
theorem request_undecided {line : List UInt8} (h0 : 0 ∉ line) (hlen : line ≠ [])
    (h : ¬ RequestDecides line) :
    (sipParseRequestLine (line ++ behind []) .zero).map observed ≠
      (sipParseRequestLine (line ++ behind [32]) .zero).map observed := by
  have hcrlf : (32 : UInt8) ∉ crlf := by decide
  have hcrlf0 : (0 : UInt8) ∉ crlf := by decide
  unfold RequestDecides at h
  cases hsplit : splitOn [32] line with
  | none =>
    rw [hsplit] at h
    have hspace := splitOn_byte_none hsplit
    have hgood : ¬ (line ++ crlf = [] ∨ methodBufSize ≤ (line ++ crlf).length) := by
      rw [not_or]
      refine ⟨by simp [hlen], ?_⟩
      rw [List.length_append]
      exact h
    have hassoc : line ++ behind [32] = (line ++ crlf) ++ 32 :: [] ++ [0] := by
      simp [behind]
    have hnil : strchr 32 (([] : CStr) ++ [0]) = .ok none := rfl
    rw [request_no_space hspace h0 rfl, hassoc,
      request_no_uri (by simp [hspace, hcrlf]) (by simp [h0, hcrlf0]) hgood hnil]
    intro heq
    have hcode := congrArg Prod.fst (Except.ok.inj heq)
    cases hcode
  | some r =>
    obtain ⟨name, back⟩ := r
    rw [hsplit] at h
    obtain ⟨rfl, hspace⟩ := splitOn_byte_some hsplit
    have hname0 : 0 ∉ name := fun hmem => h0 (List.mem_append_left _ hmem)
    have hback0 : 0 ∉ back := fun hmem =>
      h0 (List.mem_append_right _ (List.mem_cons_of_mem _ hmem))
    simp only [not_or] at h
    obtain ⟨hne, hmethod, hsp2, hfits⟩ := h
    have hgood : ¬ (name = [] ∨ methodBufSize ≤ name.length) := by
      rw [not_or]
      exact ⟨hne, hmethod⟩
    have huri : 0 < (back ++ crlf).length ∧ (back ++ crlf).length < sipMaxUriLen := by
      simp only [crlf, List.length_append, List.length_cons, List.length_nil] at *
      omega
    have hnone : strchr 32 (back ++ behind []) = .ok none := by
      rw [strchr_skip hsp2 hback0]
      rfl
    rw [request_no_uri hspace hname0 hgood hnone,
      request_uri (u := back ++ crlf) (r := [0]) hspace hname0 hgood (by simp [hsp2, hcrlf])
        (by simp [hback0, hcrlf0]) (by simp [behind]), if_pos huri]
    intro heq
    have hstored := congrArg (fun v => v.2.2.1) (Except.ok.inj heq)
    simp [crlf] at hstored

/-! ## Section 4: Isolation -/

theorem isolated_of_decides {line : RawLine} (h : LineDecides line) : LineIsolated line := by
  intro rest rest' hrest hrest'
  rw [parsedStartLine_eq, parsedStartLine_eq]
  by_cases hshort : line.bytes.length < 7
  · rw [if_pos hshort, if_pos hshort]
    refine ⟨rfl, ?_⟩
    intro r hr
    obtain rfl := Except.ok.inj hr
    exact List.nil_infix
  · rw [if_neg hshort, if_neg hshort]
    -- one result for all that can follow
    obtain ⟨v, hinfix, hall⟩ : ∃ v : SipParseError × SipMethod × CStr × Int32,
        v.2.2.1 <:+: line.bytes ∧ ∀ rest, (line.datagram rest).length < sipMaxRawLen →
          (sipParseLine (line.bytes ++ behind rest) .zero).map observed = .ok v := by
      rcases h with h | h | h
      · exact absurd h hshort
      · obtain ⟨v, hinfix, halone⟩ := parsed_alone line.noNul
        refine ⟨v, hinfix, ?_⟩
        intro rest hrest
        have hnil : rest = [] := by
          apply List.eq_nil_of_length_eq_zero
          simp only [RawLine.datagram, crlf, List.length_append, List.length_cons,
            List.length_nil] at hrest
          omega
        rw [hnil, sipParseLine_eq (by omega)]
        exact halone
      · split at h
        · next hsip =>
          obtain ⟨v, hinfix, hall⟩ := status_decided line.noNul h
          refine ⟨v, hinfix, ?_⟩
          intro rest _
          rw [sipParseLine_eq (by omega), if_pos hsip]
          exact hall rest
        · next hsip =>
          obtain ⟨v, hinfix, hall⟩ := request_decided line.noNul h
          refine ⟨v, hinfix, ?_⟩
          intro rest _
          rw [sipParseLine_eq (by omega), if_neg hsip]
          exact hall rest
    rw [hall rest hrest, hall rest' hrest']
    refine ⟨rfl, ?_⟩
    intro r hr
    obtain rfl := Except.ok.inj hr
    exact hinfix

/-- **The start line on its own**: a line is parsed without regard to what
    follows it exactly when it decides. -/
theorem start_line_isolated_iff (line : RawLine) : LineIsolated line ↔ LineDecides line := by
  refine ⟨?_, isolated_of_decides⟩
  intro hisolated
  by_contra hdecides
  unfold LineDecides at hdecides
  simp only [not_or] at hdecides
  obtain ⟨hshort, hroom, hbranch⟩ := hdecides
  -- there is room for a byte behind the line
  have hfits : ∀ rest : List UInt8, rest.length ≤ 1 →
      (line.datagram rest).length < sipMaxRawLen := by
    intro rest hrest
    simp only [RawLine.datagram, crlf, List.length_append, List.length_cons, List.length_nil]
    omega
  have hsame : ∀ rest rest' : List UInt8, rest.length ≤ 1 → rest'.length ≤ 1 →
      (sipParseLine (line.bytes ++ behind rest) .zero).map observed =
        (sipParseLine (line.bytes ++ behind rest') .zero).map observed := by
    intro rest rest' hrest hrest'
    have heq := (hisolated rest rest' (hfits rest hrest) (hfits rest' hrest')).1
    rw [parsedStartLine_eq, parsedStartLine_eq, if_neg hshort, if_neg hshort] at heq
    exact heq
  simp only [sipParseLine_eq (Nat.not_lt.mp hshort)] at hsame
  split at hbranch
  · next hsip =>
    simp only [if_pos hsip] at hsame
    obtain ⟨x, y, hne⟩ := status_undecided line.noNul hbranch
    exact hne (hsame [x] [y] (by simp) (by simp))
  · next hsip =>
    simp only [if_neg hsip] at hsame
    have hne : line.bytes ≠ [] := by
      intro hnil
      rw [hnil] at hshort
      exact hshort (by decide)
    exact request_undecided line.noNul hne hbranch (hsame [] [32] (by simp) (by simp))

/-- A request line that ends with its URI. -/
def inviteLine : RawLine where
  bytes := cstr "INVITE sip:1@h"
  noCrlf := by decide
  noNul := by decide
  fits := by decide

/-- The first word of the header becomes part of the URI. -/
theorem start_line_not_isolated : ¬ ∀ line : RawLine, LineIsolated line := by
  intro h
  have heq := (h inviteLine [] (cstr "Via: 1") (by decide) (by decide)).1
  have hne : parsedStartLine (inviteLine.datagram []) ≠
      parsedStartLine (inviteLine.datagram (cstr "Via: 1")) := by decide +kernel
  exact hne heq

end SipHandler
