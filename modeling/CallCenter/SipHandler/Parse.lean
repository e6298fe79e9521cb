import CallCenter.SipHandler.Lines

/-! # The Parser Stays Inside Its Buffers

    `sip_handler_on_read` puts a NUL behind the bytes of a datagram.  With
    that, `sip_parse_message` reads no byte behind the NUL, writes no field
    beyond its capacity and leaves every text field terminated
    (`parse_in_bounds`).  Lengths below zero do come up
    (`parse_negative_lengths`); the code tests for them before it copies. -/

namespace SipHandler

open CFormat CMemory

/-! ## Section 1: Well-formed messages -/

/-- Every text field has its NUL. -/
structure SipMessage.Wf (msg : SipMessage) : Prop where
  requestUri : Terminated msg.requestUri.bytes
  header : ∀ h, Terminated (msg.header h).bytes
  fromUri : Terminated msg.fromUri.bytes
  fromDisplay : Terminated msg.fromDisplay.bytes
  toUri : Terminated msg.toUri.bytes
  toDisplay : Terminated msg.toDisplay.bytes
  callerNumber : Terminated msg.callerNumber.bytes
  calleeNumber : Terminated msg.calleeNumber.bytes
  body : Terminated msg.body.bytes

theorem TextHeader.cap_pos (h : TextHeader) : 0 < h.cap := by cases h <;> decide

theorem wf_zero : SipMessage.zero.Wf where
  requestUri := CharArray.terminated_zero (by decide)
  header h := CharArray.terminated_zero h.cap_pos
  fromUri := CharArray.terminated_zero (by decide)
  fromDisplay := CharArray.terminated_zero (by decide)
  toUri := CharArray.terminated_zero (by decide)
  toDisplay := CharArray.terminated_zero (by decide)
  callerNumber := CharArray.terminated_zero (by decide)
  calleeNumber := CharArray.terminated_zero (by decide)
  body := CharArray.terminated_zero (by decide)

theorem SipMessage.Wf.setHeader {msg : SipMessage} (hwf : msg.Wf) {h : TextHeader}
    {a : CharArray h.cap} (ha : Terminated a.bytes) : (msg.setHeader h a).Wf := by
  refine { hwf with header := ?_ }
  intro h'
  by_cases heq : h' = h
  · subst heq
    simpa [SipMessage.setHeader] using ha
  · simpa [SipMessage.setHeader, heq] using hwf.header h'

/-! ## Section 2: The start line -/

/-- A copy into a zeroed array that does not fill it is terminated. -/
theorem memcpy_zero_spec {k : Nat} {p : Ptr} {n : Int} (hn : 0 ≤ n) (hsrc : n ≤ p.length)
    (hcap : n < k) :
    Ends ((CharArray.zero k).memcpy p n) fun b =>
      Terminated b.bytes ∧ b.cstring = text (p.take n.toNat) := by
  refine Ends.of_eq (by
    rw [CharArray.memcpy, if_neg (by omega), dif_neg (by omega), dif_neg (by omega)]) ?_
  show 0 ∈ p.take n.toNat ++ (List.replicate k 0).drop n.toNat ∧
    text (p.take n.toNat ++ (List.replicate k 0).drop n.toNat) = _
  obtain ⟨m, hm⟩ : ∃ m, k - n.toNat = m + 1 := ⟨k - n.toNat - 1, by omega⟩
  rw [List.drop_replicate, hm, List.replicate_succ]
  exact ⟨by simp, text_append_nul _ _⟩

/-- The fields that the start line does not write. -/
structure OnlyLine (msg m : SipMessage) : Prop where
  header : m.header = msg.header
  contentLength : m.contentLength = msg.contentLength
  body : m.body = msg.body

theorem OnlyLine.refl (msg : SipMessage) : OnlyLine msg msg := ⟨rfl, rfl, rfl⟩

theorem sipParseStatusLine_spec {line : Ptr} (hline : Terminated line) {msg : SipMessage}
    (hwf : msg.Wf) : Ends (sipParseStatusLine line msg) fun r => r.2.Wf ∧ OnlyLine msg r.2 := by
  unfold sipParseStatusLine
  apply Ends.bind (strchr_spec (c := 32) (by decide) hline)
  intro sp1 hsp1
  cases sp1 with
  | none => exact Ends.pure ⟨hwf, .refl msg⟩
  | some sp1 =>
    obtain ⟨s, rest, -, rfl, hrest⟩ := hsp1 sp1 rfl
    show Ends (atoiAt rest >>= _) _
    rw [atoiAt_eq hrest]
    exact Ends.pure ⟨{ hwf with }, ⟨rfl, rfl, rfl⟩⟩

/-- The URI is copied from between the two spaces. -/
theorem storeRequestUri_spec {sp1 : Ptr} {sp2 : Option Ptr}
    (hsp2 : ∀ p, sp2 = some p → p.length < sp1.length) {m : SipMessage} (hwf : m.Wf) :
    Ends (storeRequestUri sp1 sp2 m) fun r => r.Wf ∧ OnlyLine m r := by
  cases sp2 with
  | none => exact Ends.pure ⟨hwf, .refl m⟩
  | some sp2 =>
    have hlen := hsp2 sp2 rfl
    have htail : sp1.tail.length = sp1.length - 1 := List.length_tail
    unfold storeRequestUri
    dsimp only
    split
    · next hfits =>
      have hdiff : ptrDiff sp2 sp1 - 1 ≤ sp1.tail.length := by
        unfold ptrDiff
        omega
      apply Ends.bind (CharArray.copyText_spec _ (by omega) hdiff hfits.2)
      rintro uri ⟨hterm, -⟩
      exact Ends.pure ⟨{ hwf with requestUri := hterm }, ⟨rfl, rfl, rfl⟩⟩
    · exact Ends.pure ⟨hwf, .refl m⟩

theorem sipParseRequestLine_spec {line : Ptr} (hline : Terminated line) {msg : SipMessage}
    (hwf : msg.Wf) : Ends (sipParseRequestLine line msg) fun r => r.2.Wf ∧ OnlyLine msg r.2 := by
  unfold sipParseRequestLine
  apply Ends.bind (strchr_spec (c := 32) (by decide) hline)
  intro sp1 hsp1
  cases sp1 with
  | none => exact Ends.pure ⟨hwf, .refl msg⟩
  | some sp1 =>
    obtain ⟨s, rest, rfl, rfl, hrest⟩ := hsp1 sp1 rfl
    show Ends (if ptrDiff (32 :: rest) (s ++ 32 :: rest) ≤ 0 ∨ _ then _ else _) _
    rw [ptrDiff_append]
    split
    · exact Ends.pure ⟨hwf, .refl msg⟩
    · next hmlen =>
      rw [not_or] at hmlen
      have hcopy := memcpy_zero_spec (k := methodBufSize) (p := s ++ 32 :: rest)
        (n := s.length) (by omega) (by rw [List.length_append]; omega) (by omega)
      apply Ends.bind hcopy
      rintro methodBuf ⟨hterm, -⟩
      rw [readText, if_pos hterm]
      apply Ends.bind (strchr_spec (c := 32) (by decide) hrest)
      intro sp2 hsp2
      have hlen : ∀ p, sp2 = some p → p.length < (32 :: rest).length := by
        intro p hp
        obtain ⟨s', rest', heq, -, -⟩ := hsp2 p hp
        rw [heq, List.length_cons, List.length_append]
        omega
      apply Ends.bind (storeRequestUri_spec hlen (m := { msg with
        method := sipMethodFromString (text methodBuf.bytes) }) { hwf with })
      rintro m ⟨hm, honly⟩
      exact Ends.pure ⟨hm, ⟨honly.header, honly.contentLength, honly.body⟩⟩

/-- `strncasecmp` with `"SIP/2.0"` on a line of at least seven bytes. -/
theorem strncaseEq_line {line : List UInt8} (hlen : 7 ≤ line.length) (rest : Ptr) :
    strncaseEq (cstr "SIP/2.0") (line ++ rest) =
      .ok (strcaseEq (line.take 7) (cstr "SIP/2.0")) := by
  have hkey : (line.take 7).length = (cstr "SIP/2.0").length := by
    rw [List.length_take, Nat.min_eq_left hlen]
    decide
  have hsplit : line ++ rest = line.take 7 ++ (line.drop 7 ++ rest) := by
    rw [← List.append_assoc, List.take_append_drop]
  rw [hsplit, strncaseEq_append hkey]

theorem sipParseLine_eq {line : List UInt8} (hlen : 7 ≤ line.length) (eol : Ptr)
    (msg : SipMessage) :
    sipParseLine (line ++ eol) msg =
      if strcaseEq (line.take 7) (cstr "SIP/2.0") = true then sipParseStatusLine (line ++ eol) msg
      else sipParseRequestLine (line ++ eol) msg := by
  unfold sipParseLine
  rw [strncaseEq_line hlen]
  rfl

/-- A status line with a space: the code is read from behind it. -/
theorem sipParseStatusLine_space {front back : List UInt8} (hspace : 32 ∉ front) (h0 : 0 ∉ front)
    {eol : Ptr} (heol : Terminated eol) (msg : SipMessage) :
    sipParseStatusLine (front ++ 32 :: back ++ eol) msg =
      .ok (.ok, { msg with statusCode := atoi (back ++ eol), method := .unknown }) := by
  have hchr : strchr 32 (front ++ 32 :: back ++ eol) = .ok (some (32 :: (back ++ eol))) := by
    rw [List.append_assoc]
    exact strchr_found hspace h0 _
  have hback : Terminated (back ++ eol) := List.mem_append_right _ heol
  unfold sipParseStatusLine
  rw [hchr]
  show (atoiAt (back ++ eol) >>= _) = _
  rw [atoiAt_eq hback]
  rfl

theorem sipParseLine_spec {line : List UInt8} (hlen : 7 ≤ line.length) {eol : Ptr}
    (heol : Terminated eol) {msg : SipMessage} (hwf : msg.Wf) :
    Ends (sipParseLine (line ++ eol) msg) fun r => r.2.Wf ∧ OnlyLine msg r.2 := by
  have hdata : Terminated (line ++ eol) := List.mem_append_right _ heol
  unfold sipParseLine
  rw [strncaseEq_line hlen]
  show Ends (if strcaseEq (line.take 7) (cstr "SIP/2.0") = true then _ else _) _
  split
  · exact sipParseStatusLine_spec hdata hwf
  · exact sipParseRequestLine_spec hdata hwf

/-- The line of a datagram is what stands before its first CRLF. -/
theorem sipParseStartLine_eq {line : List UInt8} (hcrlf : splitOn crlf line = none)
    (h0 : 0 ∉ line) {rest : Ptr} (hrest : Terminated rest) {len : Int} (hlen : 0 < len)
    (msg : SipMessage) :
    sipParseStartLine (line ++ crlf ++ rest) len msg =
      if line.length < 7 then .ok (.shortLine, msg, 0)
      else (sipParseLine (line ++ crlf ++ rest) msg).map fun parsed =>
        (parsed.1, parsed.2, if parsed.1 = .ok then line.length + 2 else 0) := by
  have hterm : Terminated (line ++ crlf ++ rest) := List.mem_append_right _ hrest
  have htext : text (line ++ crlf ++ rest) = line ++ crlf ++ text rest := by
    have h0' : 0 ∉ line ++ crlf := by simp [h0, crlf]
    exact text_append h0' rest
  unfold sipParseStartLine
  rw [if_neg (by omega), strstr_eq (by decide) hterm, htext, splitOn_crlf hcrlf]
  show (if ptrDiff ((line ++ crlf ++ rest).drop line.length) (line ++ crlf ++ rest) < 7 then _
    else _) = _
  rw [List.append_assoc, List.drop_left, ptrDiff_append]
  by_cases hshort : line.length < 7
  · rw [if_pos (by omega), if_pos hshort]
    rfl
  · rw [if_neg (by omega), if_neg hshort]
    cases sipParseLine (line ++ (crlf ++ rest)) msg with
    | error fault => rfl
    | ok parsed =>
      show Except.ok (parsed.1, parsed.2, if parsed.1 = .ok then
        (ptrDiff ((line ++ (crlf ++ rest)).drop line.length)
          (line ++ (crlf ++ rest))).toNat + 2 else 0) = _
      rw [List.drop_left, ptrDiff_append]
      rfl

/-- Without a CRLF before the first NUL there is no line. -/
theorem sipParseStartLine_none {bytes : List UInt8}
    (h : splitOn crlf (text (bytes ++ [0])) = none) {len : Int} (hlen : 0 < len)
    (msg : SipMessage) : sipParseStartLine (bytes ++ [0]) len msg = .ok (.noCrlf, msg, 0) := by
  have hterm : Terminated (bytes ++ [0]) := by simp [Terminated]
  unfold sipParseStartLine
  rw [if_neg (by omega), strstr_eq (by decide) hterm, h]
  rfl

/-- Otherwise the datagram is the line, the CRLF and a block. -/
theorem startLine_cases (bytes : List UInt8) :
    splitOn crlf (text (bytes ++ [0])) = none ∨
      ∃ line block, bytes = line ++ crlf ++ block ∧ splitOn crlf line = none ∧ 0 ∉ line := by
  cases hsplit : splitOn crlf (text (bytes ++ [0])) with
  | none => exact Or.inl rfl
  | some r =>
    obtain ⟨line, t⟩ := r
    have htext := splitOn_some hsplit
    have h0 := notMem_text (bytes ++ [0])
    rw [htext] at h0
    have hterm : Terminated (bytes ++ [0]) := by simp [Terminated]
    obtain ⟨rest, hrest⟩ := hterm.split
    -- the last byte is the NUL behind the datagram
    obtain hnil | ⟨block, last, hback⟩ := List.eq_nil_or_concat (t ++ 0 :: rest)
    · simp at hnil
    have hbytes : bytes ++ [0] = line ++ crlf ++ block ++ [last] := by
      rw [hrest, htext, List.append_assoc, hback, List.concat_eq_append]
      simp only [List.append_assoc]
    obtain rfl := List.append_inj_left' hbytes rfl
    refine Or.inr ⟨line, block, rfl, splitOn_front hsplit, ?_⟩
    intro hmem
    exact h0 (by simp [hmem])

/-! ## Section 3: Headers -/

theorem LineStored.wf {line : List UInt8} {eol : Ptr} {msg m : SipMessage}
    (h : LineStored line eol msg m) (hwf : msg.Wf) : m.Wf := by
  unfold LineStored at h
  split at h
  · rw [h]
    exact hwf
  · cases h with
    | text a _ hterm _ => exact hwf.setHeader hterm
    | length => exact { hwf with }
    | other => exact hwf

theorem Parsed.wf {tail : Ptr} {block body : List UInt8} {msg m : SipMessage}
    (h : Parsed tail block msg m body) (hwf : msg.Wf) : m.Wf := by
  induction h with
  | blank => exact hwf
  | stop => exact hwf
  | line _ _ hline _ ih => exact ih (hline.wf hwf)

/-! ## Section 4: The users of the URIs -/

theorem uriStart_spec {p : Ptr} (hp : Terminated p) : Ends (uriStart p) Terminated := by
  unfold uriStart
  apply Ends.bind (strstr_spec (w := cstr "sip:") (by decide) hp)
  intro lower hlower
  cases lower with
  | some q =>
    obtain ⟨s, rest, -, rfl, hrest⟩ := hlower q rfl
    exact Ends.pure hrest
  | none =>
    apply Ends.bind (strstr_spec (w := cstr "SIP:") (by decide) hp)
    intro upper hupper
    cases upper with
    | some q =>
      obtain ⟨s, rest, -, rfl, hrest⟩ := hupper q rfl
      exact Ends.pure hrest
    | none =>
      apply Ends.bind (strchr_spec (c := 58) (by decide) hp)
      intro colon hcolon
      cases colon with
      | some q =>
        obtain ⟨s, rest, -, rfl, hrest⟩ := hcolon q rfl
        exact Ends.pure hrest
      | none => exact Ends.pure hp

/-- The user part ends in the string, behind its start. -/
theorem uriEnd_spec {p : Ptr} (hp : Terminated p) :
    Ends (uriEnd p) fun q => ∃ s, p = s ++ q := by
  unfold uriEnd
  apply Ends.bind (strchr_spec (c := 64) (by decide) hp)
  intro atSign hat
  apply Ends.bind (strchr_spec (c := 58) (by decide) hp)
  intro colon hcolon
  apply Ends.bind (strchr_spec (c := 59) (by decide) hp)
  intro semi hsemi
  cases atSign with
  | some q =>
    obtain ⟨s, rest, hsplit, -, -⟩ := hat q rfl
    exact Ends.pure ⟨s, hsplit⟩
  | none =>
    cases colon with
    | some q =>
      obtain ⟨s, rest, hsplit, -, -⟩ := hcolon q rfl
      exact Ends.pure ⟨s, hsplit⟩
    | none =>
      cases semi with
      | some q =>
        obtain ⟨s, rest, hsplit, -, -⟩ := hsemi q rfl
        exact Ends.pure ⟨s, hsplit⟩
      | none =>
        show Ends (strlen p >>= _) _
        rw [strlen_eq hp]
        exact Ends.pure ⟨p.take (text p).length, (List.take_append_drop _ _).symm⟩

theorem sipExtractUriUser_spec {bufSize : Nat} (hsize : 0 < bufSize) {headerValue : Ptr}
    (hvalue : Terminated headerValue) (userBuf : CharArray bufSize) :
    Ends (sipExtractUriUser headerValue userBuf) fun a => Terminated a.bytes := by
  unfold sipExtractUriUser
  apply Ends.bind (CharArray.putNul_zero userBuf hsize)
  rintro userBuf ⟨hterm, -⟩
  apply Ends.bind (uriStart_spec hvalue)
  intro sipStart hstart
  apply Ends.bind (uriEnd_spec hstart)
  rintro stop ⟨user, rfl⟩
  rw [ptrDiff_append]
  dsimp only
  split
  · exact Ends.pure hterm
  · have hlen : (user ++ stop).length = user.length + stop.length := List.length_append
    have hcopy := CharArray.copyText_spec userBuf (p := user ++ stop)
      (n := if (bufSize : Int) ≤ user.length then (bufSize : Int) - 1 else user.length)
      (by split <;> omega) (by split <;> omega) (by split <;> omega)
    exact Ends.mono hcopy fun _ h => h.1

/-- The fields that are left to the parts before and after the URIs. -/
structure OnlyUsers (msg m : SipMessage) : Prop where
  method : m.method = msg.method
  statusCode : m.statusCode = msg.statusCode
  header : m.header = msg.header
  contentLength : m.contentLength = msg.contentLength
  body : m.body = msg.body

theorem OnlyUsers.refl (msg : SipMessage) : OnlyUsers msg msg := ⟨rfl, rfl, rfl, rfl, rfl⟩

/-- The display name is cut out of the text before `<`. -/
theorem storeFromDisplay_spec {msg : SipMessage} (hwf : msg.Wf) :
    Ends (storeFromDisplay msg) fun m => m.Wf ∧ OnlyUsers msg m := by
  have hlen := (msg.header .fromHdr).length_eq
  have hfrom := hwf.header .fromHdr
  unfold storeFromDisplay
  obtain ⟨first, rest, hbytes⟩ : ∃ first rest, (msg.header .fromHdr).bytes = first :: rest := by
    cases hcase : (msg.header .fromHdr).bytes with
    | nil => rw [hcase] at hlen; simp [TextHeader.cap, sipMaxHeaderLen] at hlen
    | cons first rest => exact ⟨first, rest, rfl⟩
  rw [hbytes] at hfrom hlen
  dsimp only
  rw [hbytes]
  show Ends (if first = 0 then _ else _) _
  split
  · exact Ends.pure ⟨hwf, .refl msg⟩
  · apply Ends.bind (strchr_spec (c := 60) (by decide) hfrom)
    intro lt hlt
    cases lt with
    | none => exact Ends.pure ⟨hwf, .refl msg⟩
    | some lt =>
      dsimp only
      split
      · next hcond =>
        obtain ⟨front, -, hsplit, -, -⟩ := hlt lt rfl
        rw [hsplit, ptrDiff_append, Int.toNat_natCast, List.take_left] at hcond ⊢
        have hfront := displayLen_le front
        have hlens := congrArg List.length hsplit
        rw [List.length_append] at hlens
        have htail : (front ++ lt).tail.length = (first :: rest).length - 1 := by
          rw [← hsplit]
          rfl
        obtain ⟨-, -, hpos, hfit⟩ := hcond
        apply Ends.bind (CharArray.copyText_spec _ (by omega) ?_ hfit)
        · rintro a ⟨hterm, -⟩
          exact Ends.pure ⟨{ hwf with fromDisplay := hterm }, ⟨rfl, rfl, rfl, rfl, rfl⟩⟩
        · unfold displayCopyLen
          omega
      · exact Ends.pure ⟨hwf, .refl msg⟩

theorem storeUsers_spec {msg : SipMessage} (hwf : msg.Wf) :
    Ends (storeUsers msg) fun m => m.Wf ∧ OnlyUsers msg m := by
  have hfrom := hwf.header .fromHdr
  have hto := hwf.header .toHdr
  unfold storeUsers
  apply Ends.bind (sipExtractUriUser_spec (by decide) hfrom _)
  intro fromUri hfromUri
  apply Ends.bind (sipExtractUriUser_spec (by decide) hto _)
  intro toUri htoUri
  have hgiven : ({ msg with fromUri := fromUri, toUri := toUri } : SipMessage).Wf :=
    { hwf with fromUri := hfromUri, toUri := htoUri }
  apply Ends.bind (storeFromDisplay_spec hgiven)
  rintro m ⟨hm, honly⟩
  apply Ends.bind (sipExtractUriUser_spec (by decide) hfrom _)
  intro callerNumber hcaller
  apply Ends.bind (sipExtractUriUser_spec (by decide) hto _)
  intro calleeNumber hcallee
  exact Ends.pure ⟨{ hm with callerNumber := hcaller, calleeNumber := hcallee },
    ⟨honly.method, honly.statusCode, honly.header, honly.contentLength, honly.body⟩⟩

/-- What the last part of the parse changes. -/
structure OnlyBody (msg m : SipMessage) : Prop where
  method : m.method = msg.method
  statusCode : m.statusCode = msg.statusCode
  header : m.header = msg.header
  contentLength : m.contentLength = msg.contentLength
  body : msg.contentLength.toInt ≤ 0 → m.body = msg.body

theorem OnlyBody.refl (msg : SipMessage) : OnlyBody msg msg := ⟨rfl, rfl, rfl, rfl, fun _ => rfl⟩

/-- The bytes of the body: as many as the length says, are left, and fit. -/
def bodyPart (contentLength : Int32) (body : List UInt8) : List UInt8 :=
  body.take (min contentLength.toInt.toNat (sipMaxBodyLen - 1))

theorem length_bodyPart (contentLength : Int32) (body : List UInt8) :
    (bodyPart contentLength body).length < sipMaxBodyLen := by
  unfold bodyPart sipMaxBodyLen
  rw [List.length_take]
  omega

theorem bodyPart_nil {contentLength : Int32} (h : contentLength.toInt ≤ 0) (body : List UInt8) :
    bodyPart contentLength body = [] := by
  have hzero : contentLength.toInt.toNat = 0 := by omega
  simp [bodyPart, hzero]

/-- The message with its body; if there is nothing to copy, the field is not
    touched. -/
def bodyResult (body : List UInt8) (msg : SipMessage) : SipMessage :=
  if bodyPart msg.contentLength body = [] then msg
  else { msg with
    body := msg.body.overwrite (bodyPart msg.contentLength body) (length_bodyPart _ _) }

theorem storeBody_eq (body : List UInt8) (tail : Ptr) (msg : SipMessage) :
    storeBody (body ++ tail) body.length msg = .ok (bodyResult body msg) := by
  have hfit := length_bodyPart msg.contentLength body
  have hlength : (bodyPart msg.contentLength body).length =
      min (min msg.contentLength.toInt.toNat (sipMaxBodyLen - 1)) body.length := List.length_take
  unfold storeBody bodyResult
  split
  · next hpos =>
    have hclip : clip (clip msg.contentLength.toInt body.length) ((sipMaxBodyLen : Int) - 1) =
        (bodyPart msg.contentLength body).length := by
      rw [hlength]
      unfold clip sipMaxBodyLen
      split <;> split <;> omega
    have htake : (body ++ tail).take (bodyPart msg.contentLength body).length =
        bodyPart msg.contentLength body := by
      rw [hlength, List.take_append_of_le_length (Nat.min_le_right _ _), ← List.take_take,
        List.take_length]
      rfl
    dsimp only
    rw [hclip]
    by_cases hnil : bodyPart msg.contentLength body = []
    · rw [if_pos hnil, if_neg (by simp [hnil])]
    · have hne := List.length_pos_of_ne_nil hnil
      rw [if_neg hnil, if_pos (by omega), CharArray.copyText_eq _ hfit rfl htake]
      rfl
  · next hneg => rw [if_pos (bodyPart_nil (by omega) body)]

theorem storeBody_spec (body : List UInt8) (tail : Ptr) {msg : SipMessage} (hwf : msg.Wf) :
    Ends (storeBody (body ++ tail) body.length msg) fun m => m.Wf ∧ OnlyBody msg m := by
  refine Ends.of_eq (storeBody_eq body tail msg) ?_
  unfold bodyResult
  split
  · exact ⟨hwf, .refl msg⟩
  · next hne =>
    have hterm := msg.body.terminated_overwrite (length_bodyPart msg.contentLength body)
    refine ⟨{ hwf with body := hterm }, ⟨rfl, rfl, rfl, rfl, ?_⟩⟩
    intro hlen
    exact absurd (bodyPart_nil hlen body) hne

/-! ## Section 5: The whole message -/

/-- `m` is what the parser makes of a block of headers behind a start line
    that gave `start`. -/
structure BlockParsed (block : List UInt8) (start m : SipMessage) : Prop where
  parsed : ∃ m' body, Parsed [0] block start m' body ∧ m.header = m'.header ∧
    m.contentLength = m'.contentLength
  method : m.method = start.method
  statusCode : m.statusCode = start.statusCode
  body : m.contentLength.toInt ≤ 0 → m.body = start.body

/-- `m` is what the parser makes of an accepted datagram. -/
structure DatagramParsed (bytes : List UInt8) (line block : List UInt8)
    (start m : SipMessage) : Prop where
  bytes_eq : bytes = line ++ crlf ++ block
  noCrlf : splitOn crlf line = none
  noNul : 0 ∉ line
  long : 7 ≤ line.length
  startLine : sipParseLine (line ++ crlf ++ (block ++ [0])) .zero = .ok (.ok, start)
  onlyLine : OnlyLine .zero start
  block : BlockParsed block start m

theorem LineStored.frame {line : List UInt8} {eol : Ptr} {msg m : SipMessage}
    (h : LineStored line eol msg m) :
    m.method = msg.method ∧ m.statusCode = msg.statusCode ∧ m.body = msg.body := by
  unfold LineStored at h
  split at h
  · subst h
    exact ⟨rfl, rfl, rfl⟩
  · cases h with
    | text => exact ⟨rfl, rfl, rfl⟩
    | length => exact ⟨rfl, rfl, rfl⟩
    | other => exact ⟨rfl, rfl, rfl⟩

/-- The header loop writes header fields only. -/
theorem Parsed.frame {tail : Ptr} {block body : List UInt8} {msg m : SipMessage}
    (h : Parsed tail block msg m body) :
    m.method = msg.method ∧ m.statusCode = msg.statusCode ∧ m.body = msg.body := by
  induction h with
  | blank => exact ⟨rfl, rfl, rfl⟩
  | stop => exact ⟨rfl, rfl, rfl⟩
  | line _ _ hline _ ih =>
    obtain ⟨hmethod, hstatus, hbody⟩ := hline.frame
    exact ⟨ih.1.trans hmethod, ih.2.1.trans hstatus, ih.2.2.trans hbody⟩

/-- What follows the start line: the headers, the users and the body. -/
def parseBlock (block : Ptr) (remaining : Nat) (start : SipMessage) :
    Checked (SipParseError × SipMessage) := do
  let parsed ← sipParseHeaders remaining block remaining start
  let msg ← storeUsers parsed.1
  let msg ← storeBody parsed.2.1 parsed.2.2 msg
  return (.ok, msg)

theorem parseBlock_spec (block : List UInt8) {start : SipMessage} (hwf : start.Wf) :
    Ends (parseBlock (block ++ [0]) block.length start) fun r =>
      r.1 = .ok ∧ r.2.Wf ∧ BlockParsed block start r.2 := by
  have htail : Terminated [0] := by simp [Terminated]
  unfold parseBlock
  apply Ends.bind (sipParseHeaders_spec htail le_rfl start)
  rintro ⟨parsed, bodyStart, remain⟩ ⟨body, rfl, rfl, hparsed⟩
  apply Ends.bind (storeUsers_spec (hparsed.wf hwf))
  rintro withUsers ⟨hwfUsers, husers⟩
  apply Ends.bind (storeBody_spec body [0] hwfUsers)
  rintro m ⟨hm, hstored⟩
  obtain ⟨hmethod, hstatus, hframe⟩ := hparsed.frame
  refine Ends.pure ⟨rfl, hm, ?_⟩
  refine ⟨⟨parsed, body, hparsed, ?_, ?_⟩, ?_, ?_, ?_⟩
  · exact hstored.header.trans husers.header
  · exact hstored.contentLength.trans husers.contentLength
  · rw [hstored.method, husers.method, hmethod]
  · rw [hstored.statusCode, husers.statusCode, hstatus]
  · intro hlen
    rw [hstored.contentLength] at hlen
    rw [hstored.body hlen, husers.body, hframe]

/-- A datagram whose line is too short or not accepted gives that error; the
    others are parsed to the end. -/
theorem sipParseMessage_line {line : List UInt8} (hcrlf : splitOn crlf line = none)
    (h0 : 0 ∉ line) (block : List UInt8) (msg : SipMessage) :
    sipParseMessage ((line ++ crlf ++ block) ++ [0]) (line ++ crlf ++ block).length msg =
      if line.length < 7 then .ok (.shortLine, .zero)
      else (sipParseLine (line ++ crlf ++ (block ++ [0])) .zero).bind fun parsed =>
        if parsed.1 ≠ .ok then .ok (parsed.1, parsed.2)
        else parseBlock (block ++ [0]) block.length parsed.2 := by
  have hpos : (0 : Int) < (line ++ crlf ++ block).length := by
    simp only [crlf, List.length_append, List.length_cons, List.length_nil]
    omega
  have hnul : Terminated (block ++ [0]) := by simp [Terminated]
  unfold sipParseMessage
  rw [if_neg (by omega), List.append_assoc, sipParseStartLine_eq hcrlf h0 hnul hpos]
  by_cases hshort : line.length < 7
  · rw [if_pos hshort, if_pos hshort]
    rfl
  · rw [if_neg hshort, if_neg hshort]
    cases sipParseLine (line ++ crlf ++ (block ++ [0])) .zero with
    | error fault => rfl
    | ok parsed =>
      obtain ⟨err, start⟩ := parsed
      show (if err ≠ .ok then _ else _) = (if err ≠ .ok then _ else _)
      split
      · rfl
      · next hok =>
        obtain rfl : err = .ok := by simpa using hok
        have hlen : (line ++ crlf ++ block).length - (line.length + 2) = block.length := by
          simp only [crlf, List.length_append, List.length_cons, List.length_nil]
          omega
        have hdrop : (line ++ crlf ++ (block ++ [0])).drop (line.length + 2) = block ++ [0] := by
          have hfront : (line ++ crlf).length = line.length + 2 := by simp [crlf]
          rw [← hfront, List.drop_left]
        show parseBlock ((line ++ crlf ++ (block ++ [0])).drop (line.length + 2))
          ((line ++ crlf ++ block).length - (line.length + 2)) start = _
        rw [hlen, hdrop]

theorem sipParseMessage_spec {bytes : List UInt8} (hpos : 1 ≤ bytes.length) (msg : SipMessage) :
    Ends (sipParseMessage (bytes ++ [0]) bytes.length msg) fun r =>
      r.2.Wf ∧ (r.1 = .ok → ∃ line block start, DatagramParsed bytes line block start r.2) := by
  rcases startLine_cases bytes with hnone | ⟨line, block, rfl, hcrlf, h0⟩
  · unfold sipParseMessage
    rw [if_neg (by omega), sipParseStartLine_none hnone (by omega)]
    exact Ends.pure ⟨wf_zero, fun h => by cases h⟩
  · rw [sipParseMessage_line hcrlf h0]
    by_cases hshort : line.length < 7
    · rw [if_pos hshort]
      exact Ends.pure ⟨wf_zero, fun h => by cases h⟩
    · rw [if_neg hshort, List.append_assoc]
      have heol : Terminated (crlf ++ (block ++ [0])) := by simp [Terminated]
      obtain ⟨⟨err, start⟩, hline, hwf, honly⟩ :=
        sipParseLine_spec (Nat.not_lt.mp hshort) heol wf_zero
      rw [hline]
      show Ends (if err ≠ .ok then _ else _) _
      split
      · next hne => exact Ends.pure ⟨hwf, fun h => absurd h hne⟩
      · next hok =>
        obtain rfl : err = .ok := by simpa using hok
        apply Ends.mono (parseBlock_spec block hwf)
        rintro r ⟨-, hm, hblock⟩
        refine ⟨hm, fun _ => ⟨line, block, start, ?_⟩⟩
        exact ⟨rfl, hcrlf, h0, Nat.not_lt.mp hshort, by rw [List.append_assoc]; exact hline,
          honly, hblock⟩

/-- **No access out of bounds**: the parser terminates on every datagram with
    a NUL behind it, reads nothing behind the NUL, copies into no field more
    than it holds, passes no negative length to a copy, and terminates every
    text field. -/
theorem parse_in_bounds (bytes : List UInt8) (hpos : 1 ≤ bytes.length) (msg : SipMessage) :
    ∃ err m, sipParseMessage (bytes ++ [0]) bytes.length msg = .ok (err, m) ∧ m.Wf := by
  obtain ⟨⟨err, m⟩, hparse, hwf, -⟩ := sipParseMessage_spec hpos msg
  exact ⟨err, m, hparse, hwf⟩

/-- A request with headers, a display name and a body. -/
def offerRequest : CStr :=
  cstr "INVITE sip:1@h SIP/2.0\x0d\nFrom: \"Bo\" <sip:2001@h>\x0d\nTo: <sip:1@h>\x0d\n" ++
    cstr "Call-ID: 7\x0d\nContent-Length: 3\x0d\n\x0d\nv=0"

/-- The fields of the parsed message that the copies of the request end in. -/
def SipMessage.copies (msg : SipMessage) : List CStr :=
  [msg.headerText .callId, msg.fromDisplay.cstring, msg.callerNumber.cstring,
    msg.calleeNumber.cstring, msg.body.cstring]

/-- The theorem at this request: header, display name, numbers and body are
    copied. -/
theorem parse_in_bounds_offer :
    ∃ m, sipParseMessage (offerRequest ++ [0]) offerRequest.length .zero = .ok (.ok, m) ∧ m.Wf ∧
      m.copies = [cstr "7", cstr "Bo", cstr "2001", cstr "1", cstr "v=0"] := by
  have hcheck : (match sipParseMessage (offerRequest ++ [0]) offerRequest.length .zero with
      | .ok (.ok, m) => m.copies == [cstr "7", cstr "Bo", cstr "2001", cstr "1", cstr "v=0"]
      | _ => false) = true := by decide +kernel
  obtain ⟨err, m, hparse, hwf⟩ := parse_in_bounds offerRequest (by decide) .zero
  split at hcheck
  · next m' hok =>
    obtain rfl : m' = m := (Prod.mk.inj (Except.ok.inj (hok.symm.trans hparse))).2
    exact ⟨m', hok, hwf, eq_of_beq hcheck⟩
  · cases hcheck

/-- The length `cp` of a display name that opens with a quote. -/
def SipMessage.displayCp (msg : SipMessage) : Option Int :=
  match splitOn [60] (msg.headerText .fromHdr) with
  | some (front, _) =>
    if 0 < displayLen front ∧ front.head? = some 34 then some (displayCopyLen front) else none
  | none => none

/-- No length that the parser computes is negative, neither the one that the
    datagram names nor that of a display name. -/
def LengthsNonneg : Prop :=
  ∀ (bytes : List UInt8) (msg m : SipMessage), 1 ≤ bytes.length → bytes.length < sipMaxRawLen →
    sipParseMessage (bytes ++ [0]) bytes.length msg = .ok (.ok, m) →
    0 ≤ m.contentLength.toInt ∧ ∀ cp, m.displayCp = some cp → 0 ≤ cp

/-- A request whose display name is a single quote. -/
def quoteRequest : CStr :=
  cstr "INVITE sip:1@h SIP/2.0\x0d\nFrom: \"<sip:2001@h>\x0d\nContent-Length: -5\x0d\n\x0d\n"

/-- A single quote before `<` gives -1, and a `Content-Length` may have a
    sign; the code tests both with `> 0` before it copies. -/
theorem parse_negative_lengths : ¬ LengthsNonneg := by
  intro h
  have hcheck : (match sipParseMessage (quoteRequest ++ [0]) quoteRequest.length .zero with
      | .ok (.ok, m) => m.displayCp == some (-1)
      | _ => false) = true := by decide +kernel
  split at hcheck
  · next m hok =>
    have hcp := eq_of_beq hcheck
    have hneg := (h quoteRequest .zero m (by decide) (by decide) hok).2 (-1) hcp
    omega
  · simp at hcheck

end SipHandler
