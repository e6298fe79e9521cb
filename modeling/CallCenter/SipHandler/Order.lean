import CallCenter.SipHandler.Body
import CallCenter.SipHandler.StartLine

/-! # The Order of the Header Lines

    Lines with different names can be permuted, and lines with unknown names
    put in anywhere, as long as every value is read from its own line.  The
    texts are: they are copied with the length of the value.  The numbers are
    read with `atoi`, which goes on behind a value that is all white space.

    * Section 1: start lines, header lines and their datagrams.
    * Section 2: the header loop as a fold over the lines.
    * Section 3: the start line on its own.
    * Section 4: `order_free_iff` and a message that is not. -/

namespace SipHandler

open CFormat CMemory

/-! ## Section 1: Lines -/

/-- Method, URI and version with single spaces between them. -/
structure StartLine where
  method : List UInt8
  uri : List UInt8
  version : List UInt8
  noSpace : 32 ∉ method ∧ 32 ∉ uri ∧ 32 ∉ version
  nonempty : method ≠ [] ∧ uri ≠ [] ∧ version ≠ []
  noCrlf : splitOn crlf (method ++ 32 :: (uri ++ 32 :: version)) = none

def StartLine.bytes (line : StartLine) : List UInt8 :=
  line.method ++ 32 :: (line.uri ++ 32 :: line.version)

theorem StartLine.noCrlf_bytes (line : StartLine) : splitOn crlf line.bytes = none := line.noCrlf

/-- A line with a colon; `back` is what follows it. -/
structure HeaderLine where
  name : List UInt8
  back : List UInt8
  noColon : 58 ∉ name
  noCrlf : splitOn crlf (name ++ 58 :: back) = none

namespace HeaderLine

def bytes (h : HeaderLine) : List UInt8 := h.name ++ 58 :: h.back

def value (h : HeaderLine) : CStr := h.back.dropWhile (· = 32)

theorem headerField_bytes (h : HeaderLine) : headerField h.bytes = some (h.name, h.value) := by
  unfold headerField bytes value
  rw [splitOn_byte h.noColon]
  rfl

theorem bytes_ne_nil (h : HeaderLine) : h.bytes ≠ [] := by simp [bytes]

theorem noCrlf_bytes (h : HeaderLine) : splitOn crlf h.bytes = none := h.noCrlf

/-- The names differ, compared without case. -/
def Distinct (h h' : HeaderLine) : Prop := strcaseEq h.name h'.name = false

/-- The name is none of the eight. -/
def Unrecognised (h : HeaderLine) : Prop :=
  headerOfKey h.name = none ∧ strcaseEq h.name (cstr "Content-Length") = false

/-- A length has more than white space behind its colon. -/
def LengthReads (h : HeaderLine) : Prop :=
  strcaseEq h.name (cstr "Content-Length") = true → ∃ b ∈ h.back, isSpace b = false

end HeaderLine

/-- The lines, the empty line and the body. -/
def blockBytes (headers : List HeaderLine) (body : List UInt8) : List UInt8 :=
  (headers.flatMap fun h => h.bytes ++ crlf) ++ crlf ++ body

theorem blockBytes_cons (h : HeaderLine) (headers : List HeaderLine) (body : List UInt8) :
    blockBytes (h :: headers) body = h.bytes ++ crlf ++ blockBytes headers body := by
  simp [blockBytes]

theorem blockBytes_nil (body : List UInt8) : blockBytes [] body = crlf ++ body := rfl

def StartLine.datagram (line : StartLine) (headers : List HeaderLine) (body : List UInt8) :
    List UInt8 :=
  line.bytes ++ crlf ++ blockBytes headers body

/-- The return code and the message. -/
def StartLine.parsed (line : StartLine) (headers : List HeaderLine) (body : List UInt8) :
    Checked (SipParseError × SipMessage) :=
  sipParseMessage (line.datagram headers body ++ [0]) (line.datagram headers body).length .zero

/-- The result is the same for every permutation of the lines, and with a line
    of an unknown name anywhere among them. -/
def OrderFree (line : StartLine) (headers : List HeaderLine) (body : List UInt8) : Prop :=
  (∀ headers', headers'.Perm headers → line.parsed headers' body = line.parsed headers body) ∧
    ∀ front back extra, headers = front ++ back → HeaderLine.Unrecognised extra →
      line.parsed (front ++ extra :: back) body = line.parsed headers body

/-! ## Section 2: The header loop -/

/-- The message after the lines. -/
def foldHeaders (body : List UInt8) : List HeaderLine → SipMessage → SipMessage
  | [], msg => msg
  | h :: headers, msg =>
    foldHeaders body headers
      (fieldResult h.name h.value (crlf ++ blockBytes headers body ++ [0]) msg)

theorem sipParseHeaders_block {fuel : Nat} {headers : List HeaderLine} {body : List UInt8}
    (hfuel : (blockBytes headers body).length ≤ fuel) (msg : SipMessage) :
    sipParseHeaders fuel (blockBytes headers body ++ [0]) (blockBytes headers body).length msg =
      .ok (foldHeaders body headers msg, body ++ [0], body.length) := by
  have htail : Terminated [0] := by simp [Terminated]
  induction headers generalizing fuel msg with
  | nil =>
    rw [blockBytes_nil] at hfuel ⊢
    obtain ⟨n, rfl⟩ : ∃ n, fuel = n + 1 := by
      simp only [crlf, List.length_append, List.length_cons, List.length_nil] at hfuel
      exact ⟨fuel - 1, by omega⟩
    exact sipParseHeaders_blank n body [0] msg
  | cons h headers ih =>
    rw [blockBytes_cons] at hfuel ⊢
    simp only [crlf, List.length_append, List.length_cons, List.length_nil] at hfuel
    obtain ⟨n, rfl⟩ : ∃ n, fuel = n + 1 := ⟨fuel - 1, by omega⟩
    rw [sipParseHeaders_line h.noCrlf_bytes h.bytes_ne_nil n _ htail, ih (by omega)]
    unfold lineResult
    rw [h.headerField_bytes]
    rfl

/-- What a line does to the message if nothing follows it. -/
def storeAlone (msg : SipMessage) (h : HeaderLine) : SipMessage :=
  fieldResult h.name h.value [] msg

theorem isSpace_value {h : HeaderLine} (hback : ∃ b ∈ h.back, isSpace b = false) :
    ∃ b ∈ h.value, isSpace b = false := by
  obtain ⟨b, hb, hspace⟩ := hback
  refine ⟨b, ?_, hspace⟩
  rw [← List.takeWhile_append_dropWhile (p := (· = 32)) (l := h.back)] at hb
  rcases List.mem_append.mp hb with htaken | hleft
  · -- what is skipped is white space
    have hblank : b = 32 := by simpa using List.mem_takeWhile_imp htaken
    rw [hblank] at hspace
    cases hspace
  · exact hleft

theorem fieldResult_alone {h : HeaderLine} (hreads : h.LengthReads) {eol : Ptr}
    (heol : NoDigitAhead eol) (msg : SipMessage) :
    fieldResult h.name h.value eol msg = storeAlone msg h := by
  unfold storeAlone fieldResult
  cases headerOfKey h.name with
  | some k => rfl
  | none =>
    dsimp only
    split
    · next hname =>
      have hnil : NoDigitAhead [] := by simp [NoDigitAhead]
      rw [atoi_append (isSpace_value (hreads hname)) heol,
        atoi_append (isSpace_value (hreads hname)) hnil]
    · rfl

theorem foldHeaders_alone {headers : List HeaderLine} (hreads : ∀ h ∈ headers, h.LengthReads)
    (body : List UInt8) (msg : SipMessage) :
    foldHeaders body headers msg = headers.foldl storeAlone msg := by
  induction headers generalizing msg with
  | nil => rfl
  | cons h headers ih =>
    have heol : NoDigitAhead (crlf ++ blockBytes headers body ++ [0]) := by
      intro b hb
      obtain rfl : (13 : UInt8) = b := by simpa [crlf] using hb
      decide
    rw [foldHeaders, fieldResult_alone (hreads h List.mem_cons_self) heol,
      ih fun h' h'mem => hreads h' (List.mem_cons_of_mem _ h'mem)]
    rfl

/-- Texts in two fields. -/
theorem setHeader_comm {k k' : TextHeader} (hk : k ≠ k') (msg : SipMessage) (a : CharArray k.cap)
    (a' : CharArray k'.cap) :
    (msg.setHeader k a).setHeader k' a' = (msg.setHeader k' a').setHeader k a := by
  unfold SipMessage.setHeader
  dsimp only
  rw [Function.update_comm hk]

theorem header_setHeader_of_ne {k k' : TextHeader} (hk : k' ≠ k) (msg : SipMessage)
    (a : CharArray k.cap) : (msg.setHeader k a).header k' = msg.header k' :=
  Function.update_of_ne hk _ _

/-- **Lines with different names commute.** -/
theorem storeAlone_comm {h h' : HeaderLine} (hne : h.Distinct h') (msg : SipMessage) :
    storeAlone (storeAlone msg h) h' = storeAlone (storeAlone msg h') h := by
  have hsame : ∀ key, strcaseEq h.name key = true → strcaseEq h'.name key = true → False := by
    intro key hkey hkey'
    have heq := (strcaseEq_iff.mp hkey).trans (strcaseEq_iff.mp hkey').symm
    rw [HeaderLine.Distinct, strcaseEq_iff.mpr heq] at hne
    cases hne
  unfold storeAlone fieldResult
  -- each line is a text, the length, or neither
  cases hk : headerOfKey h.name with
  | some k =>
    cases hk' : headerOfKey h'.name with
    | some k' =>
      have hkk : k ≠ k' := by
        rintro rfl
        exact hsame _ (headerOfKey_some hk) (headerOfKey_some hk')
      dsimp only
      rw [header_setHeader_of_ne hkk.symm, header_setHeader_of_ne hkk, setHeader_comm hkk]
    | none =>
      dsimp only
      split <;> rfl
  | none =>
    cases hk' : headerOfKey h'.name with
    | some k' =>
      dsimp only
      split <;> rfl
    | none =>
      cases hlength : strcaseEq h.name (cstr "Content-Length") with
      | true =>
        cases hlength' : strcaseEq h'.name (cstr "Content-Length") with
        | true => exact (hsame _ hlength hlength').elim
        | false => rfl
      | false => rfl

theorem storeAlone_unrecognised {h : HeaderLine} (hun : h.Unrecognised) (msg : SipMessage) :
    storeAlone msg h = msg := by
  unfold storeAlone fieldResult
  rw [hun.1]
  dsimp only
  rw [hun.2]
  rfl

theorem foldl_perm {headers headers' : List HeaderLine} (hperm : headers'.Perm headers)
    (hdistinct : headers.Pairwise HeaderLine.Distinct) (msg : SipMessage) :
    headers'.foldl storeAlone msg = headers.foldl storeAlone msg := by
  have hsymm : Std.Symm HeaderLine.Distinct := by
    refine ⟨fun a b hab => ?_⟩
    unfold HeaderLine.Distinct at hab ⊢
    rw [Bool.eq_false_iff, ne_eq, strcaseEq_iff] at hab ⊢
    exact fun heq => hab heq.symm
  refine (hperm.symm.foldl_eq' ?_ msg).symm
  intro h hmem h' hmem' m
  by_cases heq : h = h'
  · rw [heq]
  · exact storeAlone_comm (hdistinct.forall hmem hmem' heq) m

/-! ## Section 3: The start line -/

/-- The first seven bytes are those of a response. -/
def StartLine.IsStatus (line : StartLine) : Prop :=
  strcaseEq (line.bytes.take 7) (cstr "SIP/2.0") = true

instance (line : StartLine) : Decidable line.IsStatus := inferInstanceAs (Decidable (_ = true))

/-- There is a NUL in the line, or it is too short, or the method too long. -/
def StartLine.Rejected (line : StartLine) : Prop :=
  0 ∈ line.bytes ∨ line.bytes.length < 7 ∨ ¬ line.IsStatus ∧ methodBufSize ≤ line.method.length

/-- The code of a response has more than white space in front of the line end. -/
def StartLine.StatusReads (line : StartLine) : Prop :=
  line.IsStatus → ∃ b ∈ line.uri ++ 32 :: line.version, isSpace b = false

/-- The block behind the CRLF of the start line. -/
theorem datagram_behind (line : StartLine) (block : List UInt8) :
    line.bytes ++ crlf ++ (block ++ [0]) = line.bytes ++ behind block := by
  simp [behind]

variable {line : StartLine}

theorem StartLine.noNul_parts (h0 : 0 ∉ line.bytes) :
    0 ∉ line.method ∧ 0 ∉ line.uri := by
  simp only [StartLine.bytes, List.mem_append, List.mem_cons, not_or] at h0
  exact ⟨h0.1, h0.2.2.1⟩

/-- The status line before its code is read. -/
theorem sipParseLine_response (h0 : 0 ∉ line.bytes) (hlen : 7 ≤ line.bytes.length)
    (hstatus : line.IsStatus) (block : List UInt8) :
    sipParseLine (line.bytes ++ behind block) .zero = .ok (.ok, { SipMessage.zero with
      statusCode := atoi (line.uri ++ 32 :: line.version ++ behind block)
      method := .unknown }) := by
  have hbranch : strcaseEq (line.bytes.take 7) (cstr "SIP/2.0") = true := hstatus
  rw [sipParseLine_eq hlen, if_pos hbranch]
  exact sipParseStatusLine_space line.noSpace.1 (StartLine.noNul_parts h0).1
    (terminated_behind block) .zero

theorem sipParseLine_request (h0 : 0 ∉ line.bytes) (hlen : 7 ≤ line.bytes.length)
    (hstatus : ¬ line.IsStatus) (block : List UInt8) :
    sipParseLine (line.bytes ++ behind block) .zero =
      if methodBufSize ≤ line.method.length then .ok (.badMethod, .zero)
      else .ok (.ok, uriResult line.uri
        { SipMessage.zero with method := sipMethodFromString line.method }) := by
  obtain ⟨hmethod0, huri0⟩ := StartLine.noNul_parts h0
  have hassoc : line.bytes ++ behind block =
      line.method ++ 32 :: (line.uri ++ 32 :: (line.version ++ behind block)) := by
    simp [StartLine.bytes]
  have hbranch : ¬ strcaseEq (line.bytes.take 7) (cstr "SIP/2.0") = true := hstatus
  rw [sipParseLine_eq hlen, if_neg hbranch, hassoc,
    sipParseRequestLine_space line.noSpace.1 hmethod0, strchr_found line.noSpace.2.1 huri0]
  by_cases hlong : methodBufSize ≤ line.method.length
  · rw [if_pos (.inr hlong), if_pos hlong]
  · rw [if_neg (not_or.mpr ⟨line.nonempty.1, hlong⟩), if_neg hlong]
    show (do
      let msg ← storeRequestUri (32 :: (line.uri ++ 32 :: (line.version ++ behind block)))
        (some (32 :: (line.version ++ behind block)))
        { SipMessage.zero with method := sipMethodFromString line.method }
      return (SipParseError.ok, msg)) = _
    rw [storeRequestUri_eq]
    rfl

/-- A line that is not rejected and has its code is parsed without regard to
    what follows. -/
theorem sipParseLine_alone (hrej : ¬ line.Rejected) (hreads : line.StatusReads) :
    ∃ start, ∀ block, sipParseLine (line.bytes ++ behind block) .zero = .ok (.ok, start) := by
  obtain ⟨h0, hshort, hlong⟩ := by simpa only [StartLine.Rejected, not_or] using hrej
  by_cases hstatus : line.IsStatus
  · refine ⟨{ SipMessage.zero with
      statusCode := atoi (line.uri ++ 32 :: line.version), method := .unknown }, fun block => ?_⟩
    rw [sipParseLine_response h0 (Nat.not_lt.mp hshort) hstatus,
      atoi_append (hreads hstatus) (noDigitAhead_behind block)]
  · refine ⟨uriResult line.uri { SipMessage.zero with
      method := sipMethodFromString line.method }, fun block => ?_⟩
    rw [sipParseLine_request h0 (Nat.not_lt.mp hshort) hstatus,
      if_neg fun h => hlong ⟨hstatus, h⟩]

/-- With a NUL in the line no CRLF is found. -/
theorem parsed_nul (h0 : 0 ∈ line.bytes) (headers : List HeaderLine) (body : List UInt8) :
    line.parsed headers body = .ok (.noCrlf, .zero) := by
  obtain ⟨front, back, hcut, hfront⟩ := exists_cut h0
  have hnone : splitOn crlf (text (line.datagram headers body ++ [0])) = none := by
    have htext : text (line.datagram headers body ++ [0]) = front := by
      unfold StartLine.datagram
      rw [hcut]
      simp only [List.append_assoc, List.cons_append]
      rw [text_append_nul, text_eq_self hfront]
    rw [htext, noCrlf_iff]
    -- what is in front of the NUL is part of the line, which has no CRLF
    intro hinside
    have hline : ¬ crlf <:+: line.bytes := noCrlf_iff.mp line.noCrlf_bytes
    rw [hcut] at hline
    exact hline (hinside.trans (List.prefix_append _ _).isInfix)
  have hpos : (0 : Int) < (line.datagram headers body).length := by
    simp only [StartLine.datagram, crlf, List.length_append, List.length_cons]
    omega
  unfold StartLine.parsed sipParseMessage
  rw [if_neg (by omega), sipParseStartLine_none hnone hpos]
  rfl

/-- The rest of the parse, once the lines are read. -/
def finishParse (body : List UInt8) (msg : SipMessage) : Checked (SipParseError × SipMessage) := do
  let msg ← storeUsers msg
  let msg ← storeBody (body ++ [0]) body.length msg
  return (.ok, msg)

theorem parsed_eq (h0 : 0 ∉ line.bytes) (headers : List HeaderLine) (body : List UInt8) :
    line.parsed headers body =
      if line.bytes.length < 7 then .ok (.shortLine, .zero)
      else (sipParseLine (line.bytes ++ behind (blockBytes headers body)) .zero).bind fun parsed =>
        if parsed.1 ≠ .ok then .ok (parsed.1, parsed.2)
        else finishParse body (foldHeaders body headers parsed.2) := by
  unfold StartLine.parsed StartLine.datagram
  rw [sipParseMessage_line line.noCrlf_bytes h0, datagram_behind]
  have hblock : ∀ start, parseBlock (blockBytes headers body ++ [0])
      (blockBytes headers body).length start =
        finishParse body (foldHeaders body headers start) := by
    intro start
    unfold parseBlock
    rw [sipParseHeaders_block le_rfl]
    rfl
  simp only [hblock]

/-! ## Section 4: The order -/

theorem parsed_alone_line (hrej : ¬ line.Rejected) (hreads : line.StatusReads) :
    ∃ start, ∀ headers body, (∀ h ∈ headers, HeaderLine.LengthReads h) →
      line.parsed headers body = finishParse body (headers.foldl storeAlone start) := by
  obtain ⟨start, hstart⟩ := sipParseLine_alone hrej hreads
  obtain ⟨h0, hshort, -⟩ := by simpa only [StartLine.Rejected, not_or] using hrej
  refine ⟨start, fun headers body hlengths => ?_⟩
  rw [parsed_eq h0, if_neg hshort, hstart]
  show finishParse body (foldHeaders body headers start) = _
  rw [foldHeaders_alone hlengths]

/-- A rejected line gives the same error whatever follows. -/
theorem parsed_rejected (hrej : line.Rejected) :
    ∃ r, ∀ headers body, line.parsed headers body = r := by
  by_cases h0 : 0 ∈ line.bytes
  · exact ⟨_, parsed_nul h0⟩
  · by_cases hshort : line.bytes.length < 7
    · refine ⟨.ok (.shortLine, .zero), fun headers body => ?_⟩
      rw [parsed_eq h0, if_pos hshort]
    · obtain ⟨hstatus, hlong⟩ := (hrej.resolve_left h0).resolve_left hshort
      refine ⟨.ok (.badMethod, .zero), fun headers body => ?_⟩
      rw [parsed_eq h0, if_neg hshort, sipParseLine_request h0 (Nat.not_lt.mp hshort) hstatus,
        if_pos hlong]
      rfl

theorem HeaderLine.Unrecognised.lengthReads {h : HeaderLine} (hun : h.Unrecognised) :
    h.LengthReads := by
  intro hname
  rw [hun.2] at hname
  cases hname

/-- **Enough**: with every value read from its own line the order is free. -/
theorem orderFree_of_reads {headers : List HeaderLine}
    (hdistinct : headers.Pairwise HeaderLine.Distinct) (hrej : ¬ line.Rejected)
    (hreads : line.StatusReads) (hlengths : ∀ h ∈ headers, HeaderLine.LengthReads h)
    (body : List UInt8) : OrderFree line headers body := by
  obtain ⟨start, hparsed⟩ := parsed_alone_line hrej hreads
  constructor
  · intro headers' hperm
    rw [hparsed headers body hlengths,
      hparsed headers' body fun h hmem => hlengths h (hperm.mem_iff.mp hmem),
      foldl_perm hperm hdistinct]
  · intro front back extra hcut hun
    have hall : ∀ h ∈ front ++ extra :: back, HeaderLine.LengthReads h := by
      intro h hmem
      rcases List.mem_append.mp hmem with hfront | hrest
      · exact hlengths h (hcut ▸ List.mem_append_left _ hfront)
      · rcases List.mem_cons.mp hrest with rfl | hback
        · exact hun.lengthReads
        · exact hlengths h (hcut ▸ List.mem_append_right _ hback)
    rw [hparsed headers body hlengths, hparsed _ body hall, hcut, List.foldl_append,
      List.foldl_append, List.foldl_cons, storeAlone_unrecognised hun]

/-- A line whose name is a digit. -/
def digitLine (d : UInt8) (hd : d = 49 ∨ d = 50) : HeaderLine where
  name := [d]
  back := []
  noColon := by rcases hd with rfl | rfl <;> decide
  noCrlf := by rcases hd with rfl | rfl <;> decide

theorem digitLine_unrecognised (d : UInt8) (hd : d = 49 ∨ d = 50) :
    (digitLine d hd).Unrecognised := by
  rcases hd with rfl | rfl <;> exact ⟨by decide, by decide⟩

/-- The number that such a line begins with. -/
def digitOf (d : UInt8) : Int32 := if d = 49 then 1 else 2

/-- White space in front of the line end reads on into the next line. -/
theorem atoi_white_digitLine {white : CStr} (hwhite : ∀ b ∈ white, isSpace b = true) {d : UInt8}
    (hd : d = 49 ∨ d = 50) (rest : Ptr) :
    atoi (white ++ (crlf ++ ((digitLine d hd).bytes ++ rest))) = digitOf d := by
  have hcrlf : ∀ b ∈ crlf, isSpace b = true := by decide +kernel
  have htext : (digitLine d hd).bytes ++ rest = intText (digitOf d) ++ 58 :: rest := by
    rcases hd with rfl | rfl
    · have hone : intText (digitOf 49) = [49] := by decide
      rw [hone]
      rfl
    · have htwo : intText (digitOf 50) = [50] := by decide
      rw [htwo]
      rfl
  rw [atoi_white hwhite, atoi_white hcrlf, htext]
  apply atoi_intText_append
  intro b hb
  obtain rfl : (58 : UInt8) = b := by simpa using hb
  decide

/-- A line that is accepted gives a message, with the code of the line and the
    length of the block. -/
theorem parsed_ok (h0 : 0 ∉ line.bytes) (hlen : 7 ≤ line.bytes.length)
    {headers : List HeaderLine} {body : List UInt8} {start : SipMessage}
    (hstart : sipParseLine (line.bytes ++ behind (blockBytes headers body)) .zero =
      .ok (.ok, start)) :
    ∃ m, line.parsed headers body = .ok (.ok, m) ∧ m.statusCode = start.statusCode ∧
      m.contentLength = (blockLength (blockBytes headers body)).getD 0 := by
  have hterm : Terminated (crlf ++ (blockBytes headers body ++ [0])) := by simp [Terminated]
  have hdata : line.bytes ++ crlf ++ (blockBytes headers body ++ [0]) =
      line.bytes ++ (crlf ++ (blockBytes headers body ++ [0])) := by simp
  rw [← datagram_behind] at hstart
  have hwf : start.Wf := by
    rw [hdata] at hstart
    exact ((sipParseLine_spec hlen hterm wf_zero).result hstart).1
  obtain ⟨⟨err, m⟩, hblock, hok, -, hfields⟩ := parseBlock_spec (blockBytes headers body) hwf
  obtain rfl : err = .ok := hok
  have hparse : line.parsed headers body = .ok (.ok, m) := by
    unfold StartLine.parsed StartLine.datagram
    rw [sipParseMessage_line line.noCrlf_bytes h0, if_neg (by omega), hstart]
    exact hblock
  obtain ⟨-, -, hlength, -⟩ := accepted_body hparse
  unfold StartLine.datagram at hlength
  rw [headerBlock_line line.noCrlf_bytes] at hlength
  exact ⟨m, hparse, hfields.statusCode, hlength⟩

/-- A code that is white space is read from the first header line. -/
theorem statusReads_of_orderFree {headers : List HeaderLine} {body : List UInt8}
    (hrej : ¬ line.Rejected) (hfree : OrderFree line headers body) : line.StatusReads := by
  obtain ⟨h0, hshort, -⟩ := by simpa only [StartLine.Rejected, not_or] using hrej
  intro hstatus
  by_contra hnone
  have hwhite : ∀ b ∈ line.uri ++ 32 :: line.version, isSpace b = true := by
    intro b hb
    by_contra hspace
    exact hnone ⟨b, hb, by simpa using hspace⟩
  -- a digit in front of the headers becomes the code
  have hcode : ∀ d (hd : d = 49 ∨ d = 50), ∃ m, line.parsed headers body = .ok (.ok, m) ∧
      m.statusCode = digitOf d := by
    intro d hd
    obtain ⟨m, hparsed, hm, -⟩ := parsed_ok h0 (Nat.not_lt.mp hshort)
      (sipParseLine_response h0 (Nat.not_lt.mp hshort) hstatus
        (blockBytes (digitLine d hd :: headers) body))
    refine ⟨m, ?_, ?_⟩
    · rw [← hfree.2 [] headers (digitLine d hd) rfl (digitLine_unrecognised d hd)]
      exact hparsed
    · rw [hm, blockBytes_cons]
      have hassoc : behind ((digitLine d hd).bytes ++ crlf ++ blockBytes headers body) =
          crlf ++ ((digitLine d hd).bytes ++ (crlf ++ blockBytes headers body ++ [0])) := by
        simp [behind]
      rw [hassoc]
      exact atoi_white_digitLine hwhite hd _
  obtain ⟨m, hm, hone⟩ := hcode 49 (.inl rfl)
  obtain ⟨m', hm', htwo⟩ := hcode 50 (.inr rfl)
  rw [hm] at hm'
  obtain rfl := (Prod.mk.inj (Except.ok.inj hm')).2
  rw [hone] at htwo
  exact absurd htwo (by decide)

/-- Lines with other names have no length. -/
theorem blockLength_eq_none {headers : List HeaderLine}
    (hnames : ∀ h ∈ headers, strcaseEq h.name (cstr "Content-Length") = false)
    (body : List UInt8) : blockLength (blockBytes headers body) = none := by
  induction headers with
  | nil => exact blockLength_blank body
  | cons h headers ih =>
    have hvalue : lengthRead (h.bytes, blockBytes headers body) = none := by
      simp [lengthRead, valueFor, h.headerField_bytes, hnames h List.mem_cons_self]
    rw [blockBytes_cons, blockLength_line h.noCrlf_bytes h.bytes_ne_nil, hvalue,
      ih fun h' hmem => hnames h' (List.mem_cons_of_mem _ hmem)]
    rfl

/-- Lines in front do not change the length. -/
theorem blockLength_append (front : List HeaderLine) {headers : List HeaderLine}
    {body : List UInt8} {n : Int32} (h : blockLength (blockBytes headers body) = some n) :
    blockLength (blockBytes (front ++ headers) body) = some n := by
  induction front with
  | nil => exact h
  | cons f front ih =>
    rw [List.cons_append, blockBytes_cons, blockLength_line f.noCrlf_bytes f.bytes_ne_nil, ih]
    rfl

/-- A length that is white space is read from the line behind it. -/
theorem lengthReads_of_orderFree {headers : List HeaderLine} {body : List UInt8}
    (hdistinct : headers.Pairwise HeaderLine.Distinct) (hrej : ¬ line.Rejected)
    (hreads : line.StatusReads) (hfree : OrderFree line headers body) :
    ∀ h ∈ headers, HeaderLine.LengthReads h := by
  obtain ⟨h0, hshort, -⟩ := by simpa only [StartLine.Rejected, not_or] using hrej
  obtain ⟨start, hstart⟩ := sipParseLine_alone hrej hreads
  intro h hmem hname
  by_contra hnone
  obtain ⟨front, back, rfl⟩ := List.append_of_mem hmem
  have hwhite : ∀ b ∈ h.value, isSpace b = true := by
    intro b hb
    by_contra hspace
    exact hnone ⟨b, (List.dropWhile_suffix _).subset hb, by simpa using hspace⟩
  -- no other line has the name
  have hback : ∀ h' ∈ back, strcaseEq h'.name (cstr "Content-Length") = false := by
    intro h' hmem'
    have hdist := (List.pairwise_cons.mp (List.pairwise_append.mp hdistinct).2.1).1 h' hmem'
    unfold HeaderLine.Distinct at hdist
    rw [Bool.eq_false_iff, ne_eq, strcaseEq_iff] at hdist ⊢
    intro heq
    exact hdist ((strcaseEq_iff.mp hname).trans heq.symm)
  have hlength : ∀ d (hd : d = 49 ∨ d = 50), ∃ m,
      line.parsed (front ++ h :: back) body = .ok (.ok, m) ∧ m.contentLength = digitOf d := by
    intro d hd
    have hun := digitLine_unrecognised d hd
    have hread : lengthRead (h.bytes, blockBytes (digitLine d hd :: back) body) =
        some (digitOf d) := by
      have hassoc : crlf ++ blockBytes (digitLine d hd :: back) body ++ [0] =
          crlf ++ ((digitLine d hd).bytes ++ (crlf ++ blockBytes back body ++ [0])) := by
        rw [blockBytes_cons]
        simp
      unfold lengthRead valueFor
      rw [h.headerField_bytes]
      simp only [Option.bind_some, hname, if_true, Option.map_some, hassoc,
        atoi_white_digitLine hwhite hd]
    have hblock : blockLength (blockBytes (h :: digitLine d hd :: back) body) =
        some (digitOf d) := by
      have hnames : ∀ h' ∈ digitLine d hd :: back,
          strcaseEq h'.name (cstr "Content-Length") = false := by
        intro h' hmem'
        rcases List.mem_cons.mp hmem' with rfl | htail
        · exact hun.2
        · exact hback h' htail
      rw [blockBytes_cons, blockLength_line h.noCrlf_bytes h.bytes_ne_nil,
        blockLength_eq_none hnames, hread]
      rfl
    obtain ⟨m, hparsed, -, hm⟩ := parsed_ok h0 (Nat.not_lt.mp hshort)
      (hstart (blockBytes (front ++ h :: digitLine d hd :: back) body))
    refine ⟨m, ?_, ?_⟩
    · have hsame := hfree.2 (front ++ [h]) back (digitLine d hd) (by simp) hun
      rw [← hsame, List.append_assoc]
      exact hparsed
    · rw [hm, blockLength_append front hblock]
      rfl
  obtain ⟨m, hm, hone⟩ := hlength 49 (.inl rfl)
  obtain ⟨m', hm', htwo⟩ := hlength 50 (.inr rfl)
  rw [hm] at hm'
  obtain rfl := (Prod.mk.inj (Except.ok.inj hm')).2
  rw [hone] at htwo
  exact absurd htwo (by decide)

/-- **The order of the header lines** does not matter exactly if the start line
    is rejected anyway, or the code of a response and the length have each more
    than white space to be read from. -/
theorem order_free_iff (line : StartLine) {headers : List HeaderLine}
    (hdistinct : headers.Pairwise HeaderLine.Distinct) (body : List UInt8) :
    OrderFree line headers body ↔
      line.Rejected ∨ line.StatusReads ∧ ∀ h ∈ headers, HeaderLine.LengthReads h := by
  constructor
  · intro hfree
    by_cases hrej : line.Rejected
    · exact .inl hrej
    · have hreads := statusReads_of_orderFree hrej hfree
      exact .inr ⟨hreads, lengthReads_of_orderFree hdistinct hrej hreads hfree⟩
  · intro h
    by_cases hrej : line.Rejected
    · obtain ⟨r, hr⟩ := parsed_rejected hrej
      exact ⟨fun headers' _ => by rw [hr, hr], fun _ _ _ _ _ => by rw [hr, hr]⟩
    · obtain ⟨hreads, hlengths⟩ := h.resolve_left hrej
      exact orderFree_of_reads hdistinct hrej hreads hlengths body

def inviteStart : StartLine where
  method := cstr "INVITE"
  uri := cstr "sip:2@h"
  version := cstr "SIP/2.0"
  noSpace := by decide
  nonempty := by decide
  noCrlf := by decide

/-- A length with the given value. -/
def lengthLine (back : CStr) (h : splitOn crlf (cstr "Content-Length" ++ 58 :: back) = none) :
    HeaderLine where
  name := cstr "Content-Length"
  back := back
  noColon := by decide
  noCrlf := h

/-- The theorem at a request with a length. -/
theorem order_free_three :
    OrderFree inviteStart [lengthLine (cstr " 3") (by decide), digitLine 49 (.inl rfl)]
      (cstr "abc") := by
  have hdistinct : [lengthLine (cstr " 3") (by decide), digitLine 49 (.inl rfl)].Pairwise
      HeaderLine.Distinct :=
    .cons (by simp [HeaderLine.Distinct, lengthLine, digitLine]; decide)
      (List.pairwise_singleton _ _)
  refine (order_free_iff inviteStart hdistinct (cstr "abc")).mpr (.inr ⟨?_, ?_⟩)
  · intro hstatus
    exact absurd hstatus (by decide)
  · intro h hmem hname
    rcases List.mem_cons.mp hmem with rfl | htail
    · exact ⟨51, by decide, by decide⟩
    · obtain rfl := List.mem_singleton.mp htail
      exact absurd hname (by decide)

/-- A length without a value takes the one that the next line begins with. -/
theorem order_not_free :
    ¬ ∀ (line : StartLine) (headers : List HeaderLine) (body : List UInt8),
      headers.Pairwise HeaderLine.Distinct → OrderFree line headers body := by
  intro h
  have hfree := h inviteStart [lengthLine [] (by decide)] [] (List.pairwise_singleton _ _)
  have hsame := hfree.2 [lengthLine [] (by decide)] [] (digitLine 49 (.inl rfl)) rfl
    (digitLine_unrecognised 49 (.inl rfl))
  -- the length is read from the digit of the line behind it
  have hne : (inviteStart.parsed [lengthLine [] (by decide), digitLine 49 (.inl rfl)]
      []).toOption.map (fun r => r.2.contentLength) ≠
        (inviteStart.parsed [lengthLine [] (by decide)] []).toOption.map
          fun r => r.2.contentLength := by decide +kernel
  rw [List.singleton_append] at hsame
  rw [hsame] at hne
  exact hne rfl

end SipHandler
